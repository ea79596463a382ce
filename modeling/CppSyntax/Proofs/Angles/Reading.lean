import CppSyntax.Proofs.Declarator.InsideOut
import CppSyntax.Proofs.Expression.Cast

/-!
Types with lists of template arguments that hold types again. Every name is looked at before it is
read, and every argument is tried as a type first, so that the same tokens are read many times over.
Each of these readings stops at the bracket that closes its own list.
-/

namespace CppSyntax

open CppSyntax.Parser Grammar

/-- Names, template arguments and types whose lists of template arguments nest at most so deep. -/
inductive Tree.InAngles : Nat → {c : Category} → Tree c → Prop where
  | plain {nest : Nat} {ident : String} (plain : isPlainIdentifier ident = true) :
      InAngles nest (.plainSegment ident false)
  | template {nest : Nat} {ident : String} {arguments : Trees .templateArgument}
      (plain : isPlainIdentifier ident = true)
      (each : ∀ argument ∈ arguments.toList, InAngles nest argument) :
      InAngles (nest + 1) (.templateSegment ident arguments false)
  | name {nest : Nat} {segment : Tree .segment} {segments : Trees .segment} (isGlobal : Bool)
      (each : ∀ part ∈ (Trees.cons segment segments).toList, InAngles nest part) :
      InAngles nest (.qualifiedName isGlobal (.cons segment segments))
  | value {nest : Nat} {text : String} (whole : isIntegerLiteral text = true) :
      InAngles nest (.valueArgument (.literal ⟨.integer, text⟩))
  | type {nest : Nat} {target : TypeId} (inner : InAngles nest target) :
      InAngles nest (.typeArgument target)
  | named {nest : Nat} {pointers : Trees .pointerOperator} {target : Name} (cv : Qualifiers)
      (row : pointers.PointerRow) (inner : InAngles nest target) :
      InAngles nest (.typeId (.namedType cv target) (.declarator pointers false .unnamed .nil))
  | builtin {nest : Nat} {pointers : Trees .pointerOperator} {words : List Keyword} (cv : Qualifiers)
      (row : pointers.PointerRow) (builtin : ∀ word ∈ words, word.isBuiltinType = true)
      (nonempty : words ≠ []) :
      InAngles nest (.typeId (.builtinType cv (words.map Keyword.spelling))
        (.declarator pointers false .unnamed .nil))

/-- A template argument ends before these tokens. -/
abbrev EndsArgument : List Glyph → Prop := StartsWithMark [.comma, .greater]

/-- A type ends before these tokens. -/
abbrev EndsType : List Glyph → Prop := StartsWithMark [.comma, .greater, .semicolon]

/-- A name that is used as a type ends before these tokens. -/
abbrev EndsTypeName : List Glyph → Prop :=
  StartsWithMark [.star, .ampersand, .andAnd, .comma, .greater, .semicolon]

/-- A part of a name ends before these tokens. -/
abbrev EndsSegment : List Glyph → Prop :=
  StartsWithMark [.scope, .star, .ampersand, .andAnd, .comma, .greater, .semicolon]

/-- Within the limit the tree is read from its tokens, whether or not a `>` closes a list here. -/
def Tree.IsReadInside {c : Category} (rule : Grammar Parser → Parser (Tree c)) (nest : Nat)
    (follows : List Glyph → Prop) (tree : Tree c) : Prop :=
  ∀ glyphs rest, OfKinds tree.kinds glyphs → follows rest → ∀ g : Grammar Parser, g.IsDerived →
    ∀ context : Context, context.depth + nest ≤ nestingLimit →
      (rule g).Reads context True (glyphs ++ rest) (· = tree) rest

/-- A part of a name is read from its tokens, of which the first one is its identifier. -/
structure Tree.IsReadSegment (nest : Nat) (segment : Tree .segment) : Prop where
  reads : segment.IsReadInside (fun g => g.plainSegment false false) nest EndsSegment
  opens : ∃ ident more, segment.kinds = .identifier ident :: more
  named : segment.plainIdent?.isSome = true

/-- Where a `>` closes a list, a template argument is read from its tokens, of which the first one
closes none. -/
structure Tree.IsReadArgument (nest : Nat) (argument : Tree .templateArgument) : Prop where
  reads : ∀ glyphs rest, OfKinds argument.kinds glyphs → EndsArgument rest → ∀ g : Grammar Parser,
    g.IsDerived → ∀ context : Context, context.inTemplateArguments = true →
      context.depth + nest ≤ nestingLimit →
      g.templateArgument.Reads context True (glyphs ++ rest) (· = argument) rest
  opens : ∃ kind more, argument.kinds = kind :: more ∧ kind ≠ .punctuator .greater

section

variable {glyphs rest : List Glyph} {context : Context} {g : Grammar Parser} {nest : Nat}

/-- One more item of a list with commas, or the end of the list. -/
def Grammar.separatedStep (item : Parser α) (items : List α) : Parser (List α ⊕ List α) := do
  let items := items ++ [← item]
  if ← accept .comma then return .inl items else return .inr items

private theorem arguments_loop {glyphs : List Glyph} {argument : Tree .templateArgument}
    {arguments : Trees .templateArgument} {closed : Bool}
    (each : ∀ each ∈ (Trees.cons argument arguments).toList, each.IsReadArgument nest)
    (spelled : OfKinds (Punctuator.comma.between (argument.kinds :: arguments.kinds)) glyphs)
    (found : List (Tree .templateArgument)) (derived : g.IsDerived)
    (closes : context.inTemplateArguments = true) (fits : context.depth + nest ≤ nestingLimit)
    (fuel : Nat) :
    (iterate (separatedStep g.templateArgument) fuel found).Reads context True
      (glyphs ++ ⟨.punctuator .greater, closed⟩ :: rest)
      (· = found ++ argument :: arguments.toList) (⟨.punctuator .greater, closed⟩ :: rest) := by
  obtain ⟨first, others⟩ := List.forall_mem_cons.mp each
  cases arguments with
  | nil =>
    rw [Trees.kinds, Punctuator.between_single] at spelled
    have one := first.reads glyphs (⟨.punctuator .greater, closed⟩ :: rest) spelled
      ⟨_, _, _, rfl, by decide⟩ g derived context closes fits
    refine .stopWith ?_ fuel
    exact one.andThen ((Reads.missing (by simp)).andThen (.pure rfl))
  | cons next arguments =>
    rw [Trees.kinds, Punctuator.between_cons] at spelled
    obtain ⟨front, back, rfl, own, behind⟩ := OfKinds.of_append spelled
    obtain ⟨joint, later, rfl, more⟩ := OfKinds.of_cons behind
    let ending : List Glyph := later ++ ⟨.punctuator .greater, closed⟩ :: rest
    have one := first.reads front (⟨.punctuator .comma, joint⟩ :: ending) own ⟨_, _, _, rfl, by decide⟩ g
      derived context closes fits
    have step : (separatedStep g.templateArgument found).Reads context True
        (front ++ ⟨.punctuator .comma, joint⟩ :: ending) (· = .inl (found ++ [argument])) ending :=
      one.andThen ((Reads.accept (by simp [ending]) rfl).andThen (.pure rfl))
    rw [List.append_assoc]
    refine .again step (fun fuel => ?_) fuel
    refine Reads.mono (arguments_loop others more (found ++ [argument]) derived closes fits fuel)
      fun all same => ?_
    simpa [Trees.toList] using same

/-- The tokens of a list of template arguments with its brackets. -/
def Trees.listKinds (arguments : Trees .templateArgument) : List TokenKind :=
  .punctuator .less :: (Punctuator.comma.between arguments.kinds ++ [.punctuator .greater])

theorem templateArguments_reads {arguments : Trees .templateArgument}
    (each : ∀ argument ∈ arguments.toList, argument.IsReadArgument nest)
    (spelled : OfKinds arguments.listKinds glyphs) (more : rest ≠ []) (derived : g.IsDerived)
    (fits : context.depth + (nest + 1) ≤ nestingLimit) :
    g.templateArguments.Reads context True (glyphs ++ rest) (· = arguments.toList) rest := by
  obtain ⟨opened, _, rfl, later⟩ := OfKinds.of_cons spelled
  obtain ⟨inner, _, rfl, within, close⟩ := OfKinds.of_append later
  obtain ⟨closed, _, rfl, none⟩ := OfKinds.of_cons close
  obtain rfl := OfKinds.of_nil none
  rw [List.cons_append, List.append_assoc]
  refine (Reads.expect (by simp) rfl).bind fun _ _ => ?_
  let inside : Context := { context with depth := context.depth + 1, inTemplateArguments := true }
  have deeper : inside.depth + nest ≤ nestingLimit := by
    show context.depth + 1 + nest ≤ nestingLimit
    omega
  have list : (do if (← here).isAt .greater then return [] else g.separated g.templateArgument :
      Parser _).Reads inside True (inner ++ ⟨.punctuator .greater, closed⟩ :: rest)
      (· = arguments.toList) (⟨.punctuator .greater, closed⟩ :: rest) := by
    cases arguments with
    | nil =>
      obtain rfl := OfKinds.of_nil within
      refine .byPlace fun state known => ?_
      have isAt : state.isAt .greater = true := by
        rw [State.isAt_of_glyphs known]
        rfl
      rw [isAt]
      exact .pure rfl
    | cons argument arguments =>
      have loop : (g.separated g.templateArgument).Reads inside True
          (inner ++ ⟨.punctuator .greater, closed⟩ :: rest) (· = argument :: arguments.toList)
          (⟨.punctuator .greater, closed⟩ :: rest) :=
        arguments_loop each within [] derived rfl deeper g.fuel
      obtain ⟨kind, behind, kinds, noGreater⟩ := (List.forall_mem_cons.mp each).1.opens
      obtain ⟨tail, opens⟩ := Punctuator.between_opens .comma kind behind arguments.kinds
      rw [Trees.kinds, kinds, opens] at within
      obtain ⟨joint, later, rfl, _⟩ := OfKinds.of_cons within
      refine .byPlace fun state known => ?_
      have notAt : state.isAt .greater = false := by
        simpa [State.isAt_of_glyphs known] using noGreater
      rw [notAt]
      exact loop
  have shallow : context.depth < nestingLimit := by omega
  refine (Reads.nested (fun _ => shallow) (.angleCloses list)).andThen ?_
  exact (Reads.expect more rfl).bind fun _ _ => .pure rfl

theorem plainSegment_isRead (ident : String) : (Tree.plainSegment ident false).IsReadSegment nest := by
  refine ⟨fun glyphs rest spelled ends g derived context _ => ?_, ⟨ident, [], rfl⟩, rfl⟩
  obtain ⟨joint, _, rfl, none⟩ := OfKinds.of_cons spelled
  obtain rfl := OfKinds.of_nil none
  refine (Reads.expectIdentifier ends.ne_nil rfl).andThen (.byPlace fun state known => ?_)
  have noLess : state.isAt .less = false := ends.notAt known (by decide)
  rw [noLess]
  exact .pure rfl

theorem templateSegment_isRead (ident : String) {arguments : Trees .templateArgument}
    (each : ∀ argument ∈ arguments.toList, argument.IsReadArgument nest) :
    (Tree.templateSegment ident arguments false).IsReadSegment (nest + 1) := by
  refine ⟨fun glyphs rest spelled ends g derived context fits => ?_,
    ⟨ident, arguments.listKinds, rfl⟩, rfl⟩
  obtain ⟨joint, list, rfl, listKinds⟩ := OfKinds.of_cons spelled
  have reads := templateArguments_reads each listKinds ends.ne_nil derived fits
  obtain ⟨opened, later, rfl, _⟩ := OfKinds.of_cons listKinds
  refine (Reads.expectIdentifier (List.cons_ne_nil _ _) rfl).andThen (.byPlace fun state known => ?_)
  have less : state.isAt .less = true := by
    rw [State.isAt_of_glyphs known]
    rfl
  have fitting : (g.fittingTemplateArguments false).Reads context True _ (· = arguments.toList) rest :=
    reads.andThen (.byPlace fun _ _ => .pure rfl)
  rw [less]
  refine .attempt fitting (fun found same => .pure ?_) fun never => absurd trivial never
  rw [same, Trees.ofList_toList]

/-- One more part of a name, behind which the name goes on or not. -/
private theorem nameStep_reads {segment : Tree .segment} {behind last : List Glyph}
    {good : List (Tree .segment) ⊕ List (Tree .segment) → Prop} (found : List (Tree .segment))
    (isRead : segment.IsReadSegment nest) (spelled : OfKinds segment.kinds glyphs)
    (ends : EndsSegment behind) (derived : g.IsDerived) (fits : context.depth + nest ≤ nestingLimit)
    (later : (here >>= fun state =>
      if state.isAt .scope && continuesName (state.ahead 1) then
        (do advance; return .inl (found ++ [segment]))
      else pure (.inr (found ++ [segment])) : Parser _).Reads context True behind good last) :
    (g.nameStep false found).Reads context True (glyphs ++ behind) good last := by
  have own := isRead.reads glyphs behind spelled ends g derived context fits
  obtain ⟨ident, more, kinds⟩ := isRead.opens
  obtain ⟨joint, tail, rfl, _⟩ := OfKinds.of_cons (kinds ▸ spelled)
  have one : (g.segment false).Reads context True (⟨.identifier ident, joint⟩ :: tail ++ behind)
      (· = (segment, true)) behind := by
    refine (Reads.missingWord (by simp)).andThen ?_
    refine (Reads.missing (by simp)).andThen ?_
    refine (Reads.missingWord (by simp)).andThen ?_
    exact own.andThen (.pure rfl)
  exact one.andThen later

private theorem name_loop {glyphs : List Glyph} {segment : Tree .segment} {segments : Trees .segment}
    (each : ∀ part ∈ (Trees.cons segment segments).toList, part.IsReadSegment nest)
    (spelled : OfKinds (Punctuator.scope.between (segment.kinds :: segments.kinds)) glyphs)
    (ends : EndsTypeName rest) (found : List (Tree .segment)) (derived : g.IsDerived)
    (fits : context.depth + nest ≤ nestingLimit) (fuel : Nat) :
    (iterate (g.nameStep false) fuel found).Reads context True (glyphs ++ rest)
      (· = found ++ segment :: segments.toList) rest := by
  obtain ⟨first, others⟩ := List.forall_mem_cons.mp each
  cases segments with
  | nil =>
    rw [Trees.kinds, Punctuator.between_single] at spelled
    refine .stopWith ?_ fuel
    refine nameStep_reads found first spelled (ends.mono (by decide)) derived fits ?_
    refine .byPlace fun state known => ?_
    have noScope : state.isAt .scope = false := ends.notAt known (by decide)
    rw [noScope]
    exact .pure rfl
  | cons next segments =>
    rw [Trees.kinds, Punctuator.between_cons] at spelled
    obtain ⟨front, back, rfl, own, behind⟩ := OfKinds.of_append spelled
    obtain ⟨joint, later, rfl, more⟩ := OfKinds.of_cons behind
    obtain ⟨ident, following, kinds⟩ := (List.forall_mem_cons.mp others).1.opens
    obtain ⟨tail, opens⟩ := Punctuator.between_opens .scope (.identifier ident) following segments.kinds
    have nextKinds : OfKinds (.identifier ident :: tail) later := by
      rw [← opens, ← kinds]
      exact more
    obtain ⟨nextJoint, after, rfl, _⟩ := OfKinds.of_cons nextKinds
    let ending : List Glyph := ⟨.identifier ident, nextJoint⟩ :: after ++ rest
    have step : (g.nameStep false found).Reads context True (front ++ ⟨.punctuator .scope, joint⟩ :: ending)
        (· = .inl (found ++ [segment])) ending := by
      refine nameStep_reads found first own ⟨_, _, _, rfl, by decide⟩ derived fits ?_
      refine .byPlace fun state known => ?_
      have goesOn : (state.isAt .scope && continuesName (state.ahead 1)) = true := by
        rw [State.isAt_of_glyphs known, State.ahead_one_of_glyphs known]
        rfl
      rw [goesOn]
      exact (Reads.advance (by simp [ending]) (by simp)).bind fun _ _ => .pure rfl
    rw [List.append_assoc]
    refine .again step (fun fuel => ?_) fuel
    refine Reads.mono (name_loop others more ends (found ++ [segment]) derived fits fuel)
      fun all same => ?_
    simpa [Trees.toList] using same

/-- A name is read from its tokens. -/
theorem qualifiedName_isRead (isGlobal : Bool) {segment : Tree .segment} {segments : Trees .segment}
    (each : ∀ part ∈ (Trees.cons segment segments).toList, part.IsReadSegment nest) :
    (Tree.qualifiedName isGlobal (.cons segment segments)).IsReadInside (fun g => g.name) nest
      EndsTypeName := by
  intro glyphs rest spelled ends g derived context fits
  obtain ⟨before, back, rfl, mark, parts⟩ := OfKinds.of_append spelled
  refine derived.symbol (.name false) fun inner innerDerived => ?_
  have loop : (inner.loop (inner.nameStep false) []).Reads context True (back ++ rest)
      (· = segment :: segments.toList) rest := name_loop each parts ends [] innerDerived fits inner.fuel
  have named : (inner.loop (inner.nameStep false) [] >>= fun segments =>
      pure (Tree.qualifiedName isGlobal (.ofList segments)) : Parser _).Reads context True (back ++ rest)
      (· = .qualifiedName isGlobal (.cons segment segments)) rest := by
    refine loop.andThen (.pure ?_)
    show Tree.qualifiedName isGlobal (Trees.ofList (Trees.cons segment segments).toList) = _
    rw [Trees.ofList_toList]
  cases isGlobal with
  | true =>
    obtain ⟨joint, _, rfl, none⟩ := OfKinds.of_cons mark
    obtain rfl := OfKinds.of_nil none
    exact (Reads.accept (by simp [ends.ne_nil]) rfl).andThen named
  | false =>
    obtain rfl := OfKinds.of_nil mark
    obtain ⟨ident, following, kinds⟩ := (List.forall_mem_cons.mp each).1.opens
    obtain ⟨tail, opens⟩ := Punctuator.between_opens .scope (.identifier ident) following segments.kinds
    rw [Trees.kinds, kinds, opens] at parts
    obtain ⟨joint, after, rfl, _⟩ := OfKinds.of_cons parts
    exact (Reads.missing (by simp)).andThen named

/-- The specifiers are a type and nothing else. -/
def ParsedSpecifiers.AreType (spec : TypeSpecifier) (specs : ParsedSpecifiers) : Prop :=
  specs.modifiers = [] ∧ specs.isTypedef = false ∧ specs.type = some spec

theorem typeId_reads {pointers : Trees .pointerOperator} {spec : TypeSpecifier} {type : List Glyph}
    (specs : (g.specifiers .inBlock).Reads context True type (·.AreType spec) (glyphs ++ rest))
    (row : pointers.PointerRow) (spelled : OfKinds pointers.kinds.flatten glyphs)
    (ends : EndsType rest) (derived : g.IsDerived) (allowed : context.depth < nestingLimit) :
    g.typeId.Reads context True type (· = .typeId spec (.declarator pointers false .unnamed .nil))
      rest := by
  have certain : g.certainTypeSpecifier.Reads context True type (·.1 = spec) (glyphs ++ rest) := by
    refine .byPlace fun state known => specs.bind fun found same => ?_
    obtain ⟨noModifiers, noTypedef, type⟩ := same
    rw [noModifiers, noTypedef, type]
    exact .pure rfl
  have whole : g.certainTypeId.Reads context True type
      (·.1 = .typeId spec (.declarator pointers false .unnamed .nil)) rest := by
    refine certain.bind fun found same => ?_
    obtain ⟨type, certainly⟩ := found
    cases same
    exact (pointersOnly_read row spelled (ends.mono (by decide)) derived fun _ => allowed).andThen
      (.pure rfl)
  exact whole.bind fun _ same => .pure same

/-- A name is read in place of a type: its tokens start it, and it is no name of a function. -/
structure Tree.IsReadTypeName (nest : Nat) (target : Name) : Prop where
  reads : target.IsReadInside (fun g => g.name) nest EndsTypeName
  opens : ∃ kind more, target.kinds = kind :: more ∧
    ((∃ ident, kind = .identifier ident) ∨ kind = .punctuator .scope)
  noFunction : ∀ enclosing, target.namesFunction .inBlock enclosing false = false

theorem qualifiedName_isReadTypeName (isGlobal : Bool) {segment : Tree .segment}
    {segments : Trees .segment}
    (each : ∀ part ∈ (Trees.cons segment segments).toList, part.IsReadSegment nest) :
    (Tree.qualifiedName isGlobal (.cons segment segments)).IsReadTypeName nest := by
  refine ⟨qualifiedName_isRead isGlobal each, ?_, fun enclosing => ?_⟩
  · cases isGlobal with
    | true => exact ⟨.punctuator .scope, _, rfl, .inr rfl⟩
    | false =>
      obtain ⟨ident, following, kinds⟩ := (List.forall_mem_cons.mp each).1.opens
      obtain ⟨tail, opens⟩ :=
        Punctuator.between_opens .scope (.identifier ident) following segments.kinds
      refine ⟨.identifier ident, tail, ?_, .inl ⟨ident, rfl⟩⟩
      rw [← opens, ← kinds]
      rfl
  · have named : ∀ part ∈ (Trees.cons segment segments).toList.reverse, part.plainIdent?.isSome = true :=
      fun part member => (each part (List.mem_reverse.mp member)).named
    rw [Tree.namesFunction, Tree.segments]
    cases parts : (Trees.cons segment segments).toList.reverse with
    | nil => rfl
    | cons last before =>
      rw [parts] at named
      obtain ⟨ident, isIdent⟩ := Option.isSome_iff_exists.mp (named last (List.mem_cons_self ..))
      simp [isIdent]

private theorem declaratorNameAhead_reads {target : Name} (isRead : target.IsReadTypeName nest)
    (spelled : OfKinds target.kinds glyphs) (ends : EndsTypeName rest) (derived : g.IsDerived)
    (fits : context.depth + nest ≤ nestingLimit) :
    (g.declaratorNameAhead .inBlock).Reads context True (glyphs ++ rest) (· = false)
      (glyphs ++ rest) := by
  refine .byContext ?_
  have name : (g.declaratorName .inBlock context.classes.head?).Reads context True (glyphs ++ rest)
      (· = false) rest := by
    refine (isRead.reads glyphs rest spelled ends g derived context fits).andThen ?_
    refine .byPlace fun state known => ?_
    have noParen : state.isAt .leftParen = false := ends.notAt known (by decide)
    rw [noParen, isRead.noFunction]
    exact .pure rfl
  exact .lookahead name (fun value same => .pure (by rw [same]; rfl)) fun never => absurd trivial never

/-- The draft with a type that is not yet qualified. -/
private def Named (cv : Qualifiers) (target : Name) (draft : SpecifierDraft) : Prop :=
  ∃ certain, draft = ⟨⟨[], [], [], some (.namedType .none target), false, certain⟩, cv, []⟩

private theorem specifierStep_reads_name {target : Name} {cv : Qualifiers} {certain : Bool}
    (isRead : target.IsReadTypeName nest) (spelled : OfKinds target.kinds glyphs)
    (ends : EndsTypeName rest) (derived : g.IsDerived) (fits : context.depth + nest ≤ nestingLimit) :
    (g.specifierStep .inBlock ⟨⟨[], [], [], none, false, certain⟩, cv, []⟩).Reads context True
      (glyphs ++ rest) (fun result => ∃ next, result = .inl next ∧ Named cv target next) rest := by
  have ahead := declaratorNameAhead_reads isRead spelled ends derived fits
  have own := isRead.reads glyphs rest spelled ends g derived context fits
  have named : (g.namedSpecifier .inBlock ⟨⟨[], [], [], none, false, certain⟩, cv, []⟩).Reads context
      True (glyphs ++ rest) (fun result => ∃ next, result = .inl next ∧ Named cv target next)
      rest := by
    refine ahead.andThen (own.andThen (.byPlace fun state _ => ?_))
    dsimp only
    split
    · exact .pure ⟨_, rfl, true, rfl⟩
    · exact .pure ⟨_, rfl, certain, rfl⟩
  obtain ⟨kind, more, kinds, starts⟩ := isRead.opens
  obtain ⟨joint, tail, rfl, _⟩ := OfKinds.of_cons (kinds ▸ spelled)
  refine .byPlace fun state known => ?_
  rw [State.kind_of_glyphs known]
  rcases starts with ⟨ident, rfl⟩ | rfl
  · exact named
  · exact named

private theorem foldl_qualifiers (cv : Qualifiers) : ∃ certain,
    (cv.before []).foldl SpecifierDraft.withWord .empty = ⟨⟨[], [], [], none, false, certain⟩, cv, []⟩ := by
  obtain ⟨isConst, isVolatile⟩ := cv
  cases isConst <;> cases isVolatile
  · exact ⟨false, rfl⟩
  · exact ⟨true, rfl⟩
  · exact ⟨true, rfl⟩
  · exact ⟨true, rfl⟩

/-- A name with its qualifiers is read as a type. -/
theorem namedSpecifiers_read {target : Name} {cv : Qualifiers} {words : List Glyph}
    (isRead : target.IsReadTypeName nest) (qualified : OfKinds cv.kinds words)
    (spelled : OfKinds target.kinds glyphs) (ends : EndsTypeName rest) (derived : g.IsDerived)
    (fits : context.depth + nest ≤ nestingLimit) :
    (g.specifiers .inBlock).Reads context True (words ++ (glyphs ++ rest))
      (·.AreType (.namedType cv target)) rest := by
  refine derived.symbol (.specifiers .inBlock) fun inner innerDerived => ?_
  have stops (draft : SpecifierDraft) (named : Named cv target draft) (fuel : Nat) :
      (iterate (inner.specifierStep .inBlock) fuel draft).Reads context True rest (Named cv target)
        rest := by
    obtain ⟨certain, rfl⟩ := named
    exact .stop (specifierStep_stops (ends.stopsSpecifiers (by decide)) rfl) ⟨certain, rfl⟩ fuel
  obtain ⟨certain, folded⟩ := foldl_qualifiers cv
  have loop : (inner.loop (inner.specifierStep .inBlock) .empty).Reads context True
      (words ++ (glyphs ++ rest)) (Named cv target) rest := by
    refine typeWords_then qualified (isTypeWord_of_mem_before nofun) (by simp [ends.ne_nil]) .empty rfl
      ?_ inner.fuel
    rw [folded]
    exact .againAny (specifierStep_reads_name isRead spelled ends innerDerived fits) stops
  refine loop.bind fun draft named => ?_
  obtain ⟨certain, rfl⟩ := named
  exact .pure ⟨rfl, rfl, rfl⟩

theorem endsTypeName_pointers {pointers : Trees .pointerOperator} (row : pointers.PointerRow)
    (spelled : OfKinds pointers.kinds.flatten glyphs) (ends : EndsType rest) :
    EndsTypeName (glyphs ++ rest) := by
  rcases row.front spelled with ⟨_, rfl⟩ | ⟨⟨_, joint⟩, tail, rfl, mark, rfl, isMark⟩
  · exact ends.mono (by decide)
  · refine StartsWithMark.mono ⟨mark, joint, tail ++ rest, rfl, isMark⟩ (by decide)

/-- A type is read from its tokens, of which the first one closes no list. -/
structure Tree.IsReadType (nest : Nat) (target : TypeId) : Prop where
  reads : target.IsReadInside (fun g => g.typeId) nest EndsType
  opens : ∃ kind more, target.kinds = kind :: more ∧ kind ≠ .punctuator .greater

theorem kinds_typeId (spec : TypeSpecifier) (pointers : Trees .pointerOperator) :
    (Tree.typeId spec (.declarator pointers false .unnamed .nil)).kinds =
      spec.kinds ++ pointers.kinds.flatten := by
  simp [Tree.kinds, Trees.kinds]

theorem namedType_isRead {pointers : Trees .pointerOperator} {target : Name} (cv : Qualifiers)
    (row : pointers.PointerRow) (isRead : target.IsReadTypeName (nest + 1)) :
    (Tree.typeId (.namedType cv target) (.declarator pointers false .unnamed .nil)).IsReadType
      (nest + 1) := by
  refine ⟨fun glyphs rest spelled ends g derived context fits => ?_, ?_⟩
  · rw [kinds_typeId] at spelled
    obtain ⟨type, tokens, rfl, typed, own⟩ := OfKinds.of_append spelled
    obtain ⟨words, names, rfl, qualified, named⟩ := OfKinds.of_append typed
    have specs := namedSpecifiers_read isRead qualified named (endsTypeName_pointers row own ends) derived
      fits
    rw [List.append_assoc, List.append_assoc]
    exact typeId_reads specs row own ends derived (by omega)
  · obtain ⟨kind, more, kinds, starts⟩ := isRead.opens
    have whole : (Tree.typeId (.namedType cv target) (.declarator pointers false .unnamed .nil)).kinds =
        cv.kinds ++ (kind :: more) ++ pointers.kinds.flatten := by
      rw [kinds_typeId, ← kinds]
      rfl
    rw [whole]
    obtain ⟨isConst, isVolatile⟩ := cv
    cases isConst <;> cases isVolatile
    · refine ⟨kind, _, rfl, ?_⟩
      rcases starts with ⟨ident, rfl⟩ | rfl <;> simp
    · exact ⟨.keyword .kwVolatile, _, rfl, by simp⟩
    · exact ⟨.keyword .kwConst, _, rfl, by simp⟩
    · exact ⟨.keyword .kwConst, _, rfl, by simp⟩

theorem builtinType_isRead {pointers : Trees .pointerOperator} {words : List Keyword} (cv : Qualifiers)
    (row : pointers.PointerRow) (builtin : ∀ word ∈ words, word.isBuiltinType = true)
    (nonempty : words ≠ []) :
    (Tree.typeId (.builtinType cv (words.map Keyword.spelling))
      (.declarator pointers false .unnamed .nil)).IsReadType (nest + 1) := by
  refine ⟨fun glyphs rest spelled ends g derived context fits => ?_, ?_⟩
  · rw [kinds_typeId, Tree.kinds_builtinType] at spelled
    obtain ⟨type, tokens, rfl, typed, own⟩ := OfKinds.of_append spelled
    have stops := (endsTypeName_pointers row own ends).stopsSpecifiers (by decide)
    have specs : (g.specifiers .inBlock).Reads context True (type ++ (tokens ++ rest))
        (·.AreType (.builtinType cv (words.map Keyword.spelling))) (tokens ++ rest) :=
      (specifiers_reads_before typed builtin nonempty stops derived).mono fun _ same =>
        same ▸ ⟨rfl, rfl, rfl⟩
    rw [List.append_assoc]
    exact typeId_reads specs row own ends derived (by omega)
  · rw [kinds_typeId, Tree.kinds_builtinType]
    obtain ⟨word, more, front⟩ := exists_first_word cv nonempty
    rw [front]
    exact ⟨.keyword word, _, rfl, by simp⟩

theorem typeArgument_isRead {target : TypeId} (isRead : target.IsReadType nest) :
    (Tree.typeArgument target).IsReadArgument nest := by
  refine ⟨fun glyphs rest spelled ends g derived context _ fits => ?_, isRead.opens⟩
  have own := isRead.reads glyphs rest spelled (ends.mono (by decide)) g derived context fits
  have type : g.typeArgument.Reads context True (glyphs ++ rest) (· = target) rest := by
    refine own.andThen (.byPlace fun state known => ?_)
    have closes : (state.isAt .comma || state.isAt .greater || state.isAt .ellipsis) = true := by
      obtain ⟨mark, joint, tail, rfl, isMark⟩ := ends
      simp only [State.isAt_of_glyphs known]
      cases mark <;> first | rfl | cases isMark
    rw [closes]
    exact .pure rfl
  refine .attempt type (fun found same => ?_) fun never => absurd trivial never
  exact (ends.missing (by decide)).andThen (.pure (by rw [same]))

private theorem postfixed_reads_integer {text : String} {joint : Bool} (ends : EndsArgument rest) :
    g.postfixed.Reads context True (⟨.integer text, joint⟩ :: rest) (· = .literal ⟨.integer, text⟩)
      rest := by
  have primary : g.primary.Reads context True (⟨.integer text, joint⟩ :: rest)
      (· = .literal ⟨.integer, text⟩) rest := by
    refine .byPlace fun state known => ?_
    rw [State.kind_of_glyphs known]
    exact (Reads.advance ends.ne_nil (by simp)).bind fun _ _ => .pure rfl
  obtain ⟨mark, next, tail, rfl, isMark⟩ := ends
  refine primary.andThen (.stopWith ?_ g.fuel)
  refine .byPlace fun state known => ?_
  rw [State.kind_of_glyphs known]
  cases mark <;> first | exact .pure rfl | cases isMark

/-- An integer is an operand on its own before a comma or a closing bracket. -/
private theorem cast_reads_integer {text : String} {joint : Bool} (ends : EndsArgument rest)
    (derived : g.IsDerived) (allowed : context.depth < nestingLimit) :
    g.cast.Reads context True (⟨.integer text, joint⟩ :: rest) (· = .literal ⟨.integer, text⟩) rest := by
  refine derived.symbol .cast fun inner innerDerived => .nested (fun _ => allowed) ?_
  refine .byPlace fun state known => ?_
  have noParen : state.isAt .leftParen = false := by
    rw [State.isAt_of_glyphs known]
    rfl
  rw [noParen]
  refine innerDerived.symbol .unary fun inner _ => .byPlace fun state known => ?_
  rw [State.kind_of_glyphs known]
  exact postfixed_reads_integer ends

/-- An integer is read up to the comma or bracket behind it, where that bracket closes a list. -/
private theorem conditional_reads_integer {text : String} {joint : Bool} (ends : EndsArgument rest)
    (derived : g.IsDerived) (closes : context.inTemplateArguments = true)
    (allowed : context.depth < nestingLimit) :
    g.conditional.Reads context True (⟨.integer text, joint⟩ :: rest)
      (· = .literal ⟨.integer, text⟩) rest := by
  have binary : (g.binary Precedence.logicalOr).Reads context True (⟨.integer text, joint⟩ :: rest)
      (· = .literal ⟨.integer, text⟩) rest := by
    refine derived.symbol (.binary Precedence.logicalOr) fun inner innerDerived => ?_
    refine (cast_reads_integer ends innerDerived allowed).andThen (.stopWith ?_ inner.fuel)
    obtain ⟨mark, next, tail, rfl, isMark⟩ := ends
    refine .byPlace fun state known => .byContext ?_
    have noOperator : state.binaryOp? context = none := by
      rw [State.binaryOp?, State.kind_of_glyphs known, closes]
      cases mark <;> first | rfl | cases isMark
    rw [noOperator]
    exact .pure rfl
  exact binary.andThen ((ends.missing (by decide)).andThen (.pure rfl))

theorem valueArgument_isRead (text : String) :
    (Tree.valueArgument (.literal ⟨.integer, text⟩)).IsReadArgument (nest + 1) := by
  refine ⟨fun glyphs rest spelled ends g derived context closes fits => ?_, .integer text, [], rfl,
    by simp⟩
  obtain ⟨joint, _, rfl, none⟩ := OfKinds.of_cons spelled
  obtain rfl := OfKinds.of_nil none
  have value : g.conditional.Reads context True (⟨.integer text, joint⟩ :: rest)
      (· = .literal ⟨.integer, text⟩) rest := conditional_reads_integer ends derived closes (by omega)
  have noType : g.typeArgument.Refuses context (⟨.integer text, joint⟩ :: rest) :=
    Refuses.bind (Refuses.bind (certainTypeId_refuses rfl derived))
  have mapped : (Tree.valueArgument <$> g.conditional : Parser _).Reads context True
      (⟨.integer text, joint⟩ :: rest) (· = .valueArgument (.literal ⟨.integer, text⟩)) rest :=
    value.andThen (.pure rfl)
  exact .attemptNone noType (mapped.andThen ((ends.missing (by decide)).andThen (.pure rfl)))

/-- What reading comes to for each part of a type. -/
def Tree.IsReadAngled (nest : Nat) : {c : Category} → Tree c → Prop
  | .segment, part => part.IsReadSegment nest
  | .name, target => target.IsReadTypeName nest
  | .templateArgument, argument => argument.IsReadArgument nest
  | .typeId, target => target.IsReadType nest
  | _, _ => True

theorem Tree.InAngles.isReadAngled {c : Category} {tree : Tree c} (angled : tree.InAngles nest) :
    tree.IsReadAngled (nest + 1) := by
  induction angled with
  | @plain nest ident plain => exact plainSegment_isRead ident
  | @template nest ident arguments plain each ih => exact templateSegment_isRead ident ih
  | name isGlobal each ih => exact qualifiedName_isReadTypeName isGlobal ih
  | @value nest text whole => exact valueArgument_isRead text
  | type inner ih => exact typeArgument_isRead ih
  | named cv row inner ih => exact namedType_isRead cv row ih
  | builtin cv row builtin nonempty => exact builtinType_isRead cv row builtin nonempty

end

end CppSyntax
