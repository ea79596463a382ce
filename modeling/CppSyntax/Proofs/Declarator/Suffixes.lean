import CppSyntax.Proofs.Declarator.Pointers
import CppSyntax.Proofs.Expression.Forms

/-!
What stands behind the name of a declarator. Array bounds and parameter lists are read one after the
other, up to a mark that ends the declarator.
-/

namespace CppSyntax

open CppSyntax.Parser Grammar

/-- From its tokens, before what may follow, the rule reads the tree. -/
def Tree.IsRead {c : Category} (rule : Grammar Parser → Parser (Tree c)) (nest : Nat)
    (follows : List Glyph → Prop) (tree : Tree c) : Prop :=
  ∀ glyphs rest, OfKinds tree.kinds glyphs → follows rest →
    RuleReads rule nest (glyphs ++ rest) (· = tree) rest

/-- One of the marks comes first. -/
def StartsWithMark (marks : List Punctuator) (glyphs : List Glyph) : Prop :=
  ∃ mark joint tail, glyphs = ⟨.punctuator mark, joint⟩ :: tail ∧ marks.contains mark = true

namespace StartsWithMark

variable {marks others : List Punctuator} {mark : Punctuator} {rest : List Glyph}

theorem ne_nil (starts : StartsWithMark marks rest) : rest ≠ [] := by
  obtain ⟨mark, joint, tail, rfl, _⟩ := starts
  exact List.cons_ne_nil _ _

theorem mono (starts : StartsWithMark marks rest) (among : marks ⊆ others) :
    StartsWithMark others rest := by
  obtain ⟨mark, joint, tail, rfl, isMark⟩ := starts
  exact ⟨mark, joint, tail, rfl, List.contains_iff_mem.mpr (among (List.contains_iff_mem.mp isMark))⟩

/-- A mark that is none of them does not come first. -/
theorem ne {next : Glyph} {tail : List Glyph} (starts : StartsWithMark marks (next :: tail))
    (unlike : marks.contains mark = false) : next.kind ≠ .punctuator mark := by
  obtain ⟨other, joint, _, ⟨⟩, isMark⟩ := starts
  rintro ⟨⟩
  rw [unlike] at isMark
  cases isMark

theorem notAt (starts : StartsWithMark marks rest) {state : State} (known : state.glyphs = rest)
    (unlike : marks.contains mark = false) : state.isAt mark = false := by
  cases rest with
  | nil => exact absurd rfl starts.ne_nil
  | cons next tail =>
    rw [State.isAt_of_glyphs known]
    exact beq_eq_false_iff_ne.mpr (starts.ne unlike)

theorem missing {context : Context} {sure : Prop} (starts : StartsWithMark marks rest)
    (unlike : marks.contains mark = false) :
    (accept mark : Parser Bool).Reads context sure rest (· = false) rest := by
  cases rest with
  | nil => exact absurd rfl starts.ne_nil
  | cons next tail => exact Reads.missing (starts.ne unlike)

theorem stopsSpecifiers (starts : StartsWithMark marks rest)
    (noBracket : marks.contains .leftBracket = false) : StopsSpecifiers rest := by
  obtain ⟨mark, joint, tail, rfl, isMark⟩ := starts
  refine .mark rfl ?_
  rintro rfl
  rw [noBracket] at isMark
  cases isMark

end StartsWithMark

/-- A declarator ends before these tokens. -/
abbrev EndsDeclarator : List Glyph → Prop :=
  StartsWithMark [.comma, .rightParen, .semicolon, .greater, .leftBrace]

/-- A parameter ends before these tokens. -/
abbrev EndsParameter : List Glyph → Prop := StartsWithMark [.comma, .rightParen]

theorem EndsParameter.endsDeclarator {rest : List Glyph} (ends : EndsParameter rest) :
    EndsDeclarator rest :=
  ends.mono (by decide)

/-- Behind an opening parenthesis, a list of parameters of builtin types starts with the token. -/
def TokenKind.opensParameters : TokenKind → Bool
  | .punctuator mark => [.rightParen, .ellipsis].contains mark
  | .keyword word => word.isTypeWord
  | _ => false

/-- The tokens are those of a suffix, with others behind it. -/
inductive StartsSuffix : List Glyph → Prop where
  | array {joint : Bool} {second : Glyph} {tail : List Glyph}
      (single : second.kind ≠ .punctuator .leftBracket) :
      StartsSuffix (⟨.punctuator .leftBracket, joint⟩ :: second :: tail)
  | function {joint : Bool} {second : Glyph} {tail : List Glyph}
      (opens : second.kind.opensParameters = true) :
      StartsSuffix (⟨.punctuator .leftParen, joint⟩ :: second :: tail)

/-- The tokens follow the core of a declarator: a suffix, or what ends the declarator. -/
def FollowsCore (rest : List Glyph) : Prop := StartsSuffix rest ∨ EndsDeclarator rest

namespace FollowsCore

variable {rest : List Glyph}

/-- The mark with which everything starts that follows a core. -/
theorem starts (follows : FollowsCore rest) :
    StartsWithMark [.leftBracket, .leftParen, .comma, .rightParen, .semicolon, .greater, .leftBrace]
      rest := by
  rcases follows with suffix | ends
  · cases suffix with
    | array => exact ⟨_, _, _, rfl, by decide⟩
    | function => exact ⟨_, _, _, rfl, by decide⟩
  · exact ends.mono (by decide)

theorem ne_nil (follows : FollowsCore rest) : rest ≠ [] := follows.starts.ne_nil

theorem noMark (follows : FollowsCore rest) (other : Punctuator)
    (unlike : [Punctuator.leftBracket, .leftParen, .comma, .rightParen, .semicolon, .greater,
      .leftBrace].contains other = false) :
    ∃ next tail, rest = next :: tail ∧ next.kind ≠ .punctuator other := by
  have starts := follows.starts
  obtain ⟨mark, joint, tail, rfl, _⟩ := follows.starts
  exact ⟨_, tail, rfl, starts.ne unlike⟩

theorem endsPointers (follows : FollowsCore rest) : EndsPointers rest := by
  obtain ⟨mark, joint, tail, rfl, isMark⟩ := follows.starts
  refine .mark rfl ?_
  cases mark <;> first | rfl | cases isMark

theorem stopsSpecifiers (follows : FollowsCore rest) : StopsSpecifiers rest := by
  rcases follows with suffix | ends
  · cases suffix with
    | array single => exact ⟨_, _, rfl, by simp, fun _ => ⟨_, _, rfl, single⟩⟩
    | function => exact .mark rfl (by decide)
  · exact ends.stopsSpecifiers (by decide)

/-- Nothing that follows a core opens a nested declarator or starts a name. -/
theorem noCore (follows : FollowsCore rest) {state : State} (known : state.glyphs = rest) :
    state.atNestedDeclarator = false ∧ state.atDeclaredName = false := by
  obtain ⟨mark, joint, tail, rfl, isMark⟩ := follows.starts
  have kind := State.kind_of_glyphs known
  have noName : state.atDeclaredName = false := by
    simp only [State.atDeclaredName, State.isAtIdentifier, State.isAt_of_glyphs known,
      State.isAtWord_of_glyphs known, kind]
    cases mark <;> first | rfl | cases isMark
  refine ⟨?_, noName⟩
  rw [State.atNestedDeclarator, State.isAt_of_glyphs known]
  rcases follows with suffix | ⟨other, _, _, same, ends⟩
  · cases suffix with
    | array => rfl
    | function opens =>
      rw [State.ahead_one_of_glyphs known]
      rename_i second _
      obtain ⟨kind, _⟩ := second
      cases kind with
      | punctuator mark =>
        cases mark <;> first | rfl | cases opens
      | identifier => cases opens
      | _ => rfl
  · cases same
    cases mark <;> first | rfl | cases ends

end FollowsCore

namespace Grammar

/-- One more suffix, or the end of them. -/
def suffixStep (g : Grammar Parser) (mode : DeclaratorMode) (found : List (Tree .declaratorSuffix)) :
    Parser (List (Tree .declaratorSuffix) ⊕ List (Tree .declaratorSuffix)) := do
  let state ← here
  if state.isAt .leftBracket && !state.isAhead 1 .leftBracket then
    advance
    let size ← g.arraySize
    expect .rightBracket "to close array bound"
    return .inl (found ++ [.arraySuffix (.ofOption size)])
  if state.isAt .leftParen then
    if mode == .unnamed || (← g.parameterListAhead) then
      return .inl (found ++ [.functionSuffix (← g.signature)])
  return .inr found

/-- One more parameter, or the end of the list. -/
def parameterStep (g : Grammar Parser) (items : List (Tree .parameter)) :
    Parser (List (Tree .parameter) ⊕ (List (Tree .parameter) × Bool)) := do
  if ← accept .ellipsis then return .inr (items, true)
  let items := items ++ [← g.parameter]
  if ← accept .ellipsis then return .inr (items, true)
  if ← accept .comma then return .inl items else return .inr (items, false)

end Grammar

section

variable {glyphs rest : List Glyph} {context : Context} {sure : Prop} {g : Grammar Parser}

/-- The bound of an array: none, or an integer. -/
inductive Part.IsBound : Part .expression → Prop where
  | absent : IsBound .absent
  | present {text : String} (whole : isIntegerLiteral text = true) :
      IsBound (.present (.literal ⟨.integer, text⟩))

theorem Part.IsBound.reads {size : Part .expression} (bound : IsBound size) {closed : Bool}
    (spelled : OfKinds size.kinds.flatten glyphs) :
    RuleReads (fun g => g.arraySize) 1 (glyphs ++ ⟨.punctuator .rightBracket, closed⟩ :: rest)
      (· = size.toOption) (⟨.punctuator .rightBracket, closed⟩ :: rest) := by
  intro g derived sure context room
  cases bound with
  | absent =>
    obtain rfl := OfKinds.of_nil spelled
    refine .byPlace fun state known => ?_
    have isAt : state.isAt .rightBracket = true := by
      rw [State.isAt_of_glyphs known]
      rfl
    rw [isAt]
    exact .pure rfl
  | @present text _ =>
    obtain ⟨joint, _, rfl, none⟩ := OfKinds.of_cons spelled
    obtain rfl := OfKinds.of_nil none
    refine .byPlace fun state known => ?_
    have notAt : state.isAt .rightBracket = false := by
      rw [State.isAt_of_glyphs known]
      rfl
    rw [notAt]
    have literal : ReadsAs Precedence.primary 0 (.literal ⟨.integer, text⟩)
        (⟨.integer text, joint⟩ :: ⟨.punctuator .rightBracket, closed⟩ :: rest)
        (⟨.punctuator .rightBracket, closed⟩ :: rest) := .integer (List.cons_ne_nil _ _)
    refine (literal.bracketed ?_ g derived sure context room).andThen (.pure rfl)
    rw [tightness_ends rfl rfl]
    decide

theorem arraySuffix_reads {size : Part .expression} (bound : size.IsBound) (mode : DeclaratorMode)
    (found : List (Tree .declaratorSuffix)) (spelled : OfKinds (Tree.arraySuffix size).kinds glyphs)
    (more : rest ≠ []) :
    RuleReads (fun g => g.suffixStep mode found) 1 (glyphs ++ rest)
      (· = .inl (found ++ [.arraySuffix size])) rest ∧ StartsSuffix (glyphs ++ rest) := by
  obtain ⟨opened, _, rfl, later⟩ := OfKinds.of_cons spelled
  obtain ⟨inner, _, rfl, within, close⟩ := OfKinds.of_append later
  obtain ⟨closed, _, rfl, none⟩ := OfKinds.of_cons close
  obtain rfl := OfKinds.of_nil none
  have starts : StartsSuffix (⟨.punctuator .leftBracket, opened⟩ ::
      (inner ++ ⟨.punctuator .rightBracket, closed⟩ :: rest)) := by
    cases bound with
    | absent =>
      obtain rfl := OfKinds.of_nil within
      exact .array (by simp)
    | present =>
      obtain ⟨joint, _, rfl, none⟩ := OfKinds.of_cons within
      exact .array (by simp)
  have reads : RuleReads (fun g => g.suffixStep mode found) 1 (⟨.punctuator .leftBracket, opened⟩ ::
      (inner ++ ⟨.punctuator .rightBracket, closed⟩ :: rest))
      (· = .inl (found ++ [.arraySuffix size])) rest := by
    intro g derived sure context room
    refine .byPlace fun state known => ?_
    have bracket : (state.isAt .leftBracket && !state.isAhead 1 .leftBracket) = true := by
      generalize inner ++ ⟨.punctuator .rightBracket, closed⟩ :: rest = tail at starts known
      cases starts with
      | array single =>
        rw [State.isAt_of_glyphs known, State.isAhead, State.ahead_one_of_glyphs known]
        simpa using single
    rw [bracket]
    refine (Reads.advance (by simp) (by simp)).bind fun _ _ => ?_
    refine (bound.reads within g derived sure context room).andThen ?_
    refine (Reads.expect more rfl).bind fun _ _ => .pure ?_
    rw [Part.ofOption_toOption]
  exact ⟨by simpa using reads, by simpa using starts⟩

/-- A parameter is read from its tokens, of which the first one is a word of a type. -/
structure Tree.IsReadParameter (nest : Nat) (parameter : Tree .parameter) : Prop where
  reads : parameter.IsRead (fun g => g.parameter) nest EndsParameter
  opens : ∃ word more, parameter.kinds = .keyword word :: more ∧ word.isTypeWord = true

/-- The tokens behind the last parameter. -/
def trailingKinds (variadic : Bool) : List TokenKind :=
  if variadic then [.punctuator .comma, .punctuator .ellipsis] else []

theorem kinds_parameterList (items : Trees .parameter) (variadic : Bool) :
    (Tree.parameterList items variadic).kinds =
      .punctuator .leftParen :: (Punctuator.comma.between items.kinds ++
        ((if variadic then ellipsisKinds items.kinds.isEmpty else []) ++ [.punctuator .rightParen])) :=
  rfl

section

variable {nest : Nat} {item : Tree .parameter} {found : List (Tree .parameter)} {front : List Glyph}

private theorem parameterStep_reads {behind last : List Glyph}
    {good : List (Tree .parameter) ⊕ (List (Tree .parameter) × Bool) → Prop}
    (isRead : item.IsReadParameter nest) (spelled : OfKinds item.kinds front)
    (ends : EndsParameter behind) (derived : g.IsDerived) (room : Room sure context nest)
    (later : (accept .comma >>= fun more =>
      if more then pure (.inl (found ++ [item])) else pure (.inr (found ++ [item], false)) :
        Parser _).Reads context sure behind good last) :
    (g.parameterStep found).Reads context sure (front ++ behind) good last := by
  have one := isRead.reads front behind spelled ends g derived sure context room
  obtain ⟨word, more, kinds, _⟩ := isRead.opens
  obtain ⟨joint, tail, rfl, _⟩ := OfKinds.of_cons (kinds ▸ spelled)
  refine (Reads.missing (by simp)).andThen (one.andThen ?_)
  exact (ends.missing (by decide)).andThen later

private theorem parameterStep_last {closed : Bool} (isRead : item.IsReadParameter nest)
    (spelled : OfKinds item.kinds front) (derived : g.IsDerived) (room : Room sure context nest) :
    (g.parameterStep found).Reads context sure (front ++ ⟨.punctuator .rightParen, closed⟩ :: rest)
      (· = .inr (found ++ [item], false)) (⟨.punctuator .rightParen, closed⟩ :: rest) :=
  parameterStep_reads isRead spelled ⟨_, _, _, rfl, by decide⟩ derived room
    ((Reads.missing (by simp)).andThen (.pure rfl))

private theorem parameterStep_more {joint : Bool} (isRead : item.IsReadParameter nest)
    (spelled : OfKinds item.kinds front) (derived : g.IsDerived) (room : Room sure context nest)
    (more : rest ≠ []) :
    (g.parameterStep found).Reads context sure (front ++ ⟨.punctuator .comma, joint⟩ :: rest)
      (· = .inl (found ++ [item])) rest :=
  parameterStep_reads isRead spelled ⟨_, _, _, rfl, by decide⟩ derived room
    ((Reads.accept more rfl).andThen (.pure rfl))

private theorem parameterStep_ellipsis {joint : Bool} (more : rest ≠ []) :
    (g.parameterStep found).Reads context sure (⟨.punctuator .ellipsis, joint⟩ :: rest)
      (· = .inr (found, true)) rest :=
  (Reads.accept more rfl).andThen (.pure rfl)

end

private theorem parameterItems_loop {glyphs : List Glyph} {item : Tree .parameter} {items : Trees .parameter} {nest : Nat}
    {variadic closed : Bool} (first : item.IsReadParameter nest)
    (each : ∀ item ∈ items.toList, item.IsReadParameter nest)
    (spelled : OfKinds (Punctuator.comma.between (item.kinds :: items.kinds) ++ trailingKinds variadic)
      glyphs)
    (found : List (Tree .parameter)) (derived : g.IsDerived) (room : Room sure context nest)
    (fuel : Nat) :
    (iterate g.parameterStep fuel found).Reads context sure
      (glyphs ++ ⟨.punctuator .rightParen, closed⟩ :: rest)
      (· = (found ++ item :: items.toList, variadic)) (⟨.punctuator .rightParen, closed⟩ :: rest) := by
  cases items with
  | nil =>
    rw [Trees.kinds, Punctuator.between_single] at spelled
    obtain ⟨front, back, rfl, own, behind⟩ := OfKinds.of_append spelled
    cases variadic with
    | false =>
      obtain rfl := OfKinds.of_nil behind
      rw [List.append_nil]
      exact .stopWith (parameterStep_last first own derived room) fuel
    | true =>
      obtain ⟨joint, _, rfl, later⟩ := OfKinds.of_cons behind
      obtain ⟨dots, _, rfl, none⟩ := OfKinds.of_cons later
      obtain rfl := OfKinds.of_nil none
      rw [List.append_assoc]
      refine .again (parameterStep_more first own derived room (by simp)) (fun fuel => ?_) fuel
      exact .stopWith (parameterStep_ellipsis (by simp)) fuel
  | cons next items =>
    rw [Trees.kinds, Punctuator.between_cons, List.append_assoc] at spelled
    obtain ⟨front, back, rfl, own, behind⟩ := OfKinds.of_append spelled
    obtain ⟨joint, later, rfl, more⟩ := OfKinds.of_cons behind
    obtain ⟨second, others⟩ := List.forall_mem_cons.mp each
    rw [List.append_assoc]
    refine .again (parameterStep_more first own derived room (by simp)) (fun fuel => ?_) fuel
    refine Reads.mono (parameterItems_loop second others more (found ++ [item]) derived room fuel)
      fun all same => ?_
    simpa [Trees.toList] using same

/-- What stands in the parentheses of a parameter list. -/
private theorem parameters_read {items : Trees .parameter} {nest : Nat} {variadic closed : Bool}
    (each : ∀ item ∈ items.toList, item.IsReadParameter nest)
    (spelled : OfKinds (Punctuator.comma.between items.kinds ++
      if variadic then ellipsisKinds items.kinds.isEmpty else []) glyphs)
    (derived : g.IsDerived) (room : Room sure context nest) :
    (do if (← here).isAt .rightParen then return ([], false) else g.parameterItems :
      Parser _).Reads context sure (glyphs ++ ⟨.punctuator .rightParen, closed⟩ :: rest)
      (· = (items.toList, variadic)) (⟨.punctuator .rightParen, closed⟩ :: rest) := by
  cases items with
  | nil =>
    cases variadic with
    | false =>
      obtain rfl := OfKinds.of_nil spelled
      refine .byPlace fun state known => ?_
      have isAt : state.isAt .rightParen = true := by
        rw [State.isAt_of_glyphs known]
        rfl
      rw [isAt]
      exact .pure rfl
    | true =>
      obtain ⟨joint, _, rfl, none⟩ := OfKinds.of_cons spelled
      obtain rfl := OfKinds.of_nil none
      refine .byPlace fun state known => ?_
      have notAt : state.isAt .rightParen = false := by
        rw [State.isAt_of_glyphs known]
        rfl
      rw [notAt]
      exact .stopWith (parameterStep_ellipsis (by simp)) g.fuel
  | cons item items =>
    obtain ⟨first, others⟩ := List.forall_mem_cons.mp each
    have loop : (iterate g.parameterStep g.fuel []).Reads context sure
        (glyphs ++ ⟨.punctuator .rightParen, closed⟩ :: rest)
        (· = (item :: items.toList, variadic)) (⟨.punctuator .rightParen, closed⟩ :: rest) :=
      parameterItems_loop first others spelled [] derived room g.fuel
    obtain ⟨word, more, kinds, _⟩ := first.opens
    obtain ⟨tail, opens⟩ := Punctuator.between_opens .comma (.keyword word) more items.kinds
    rw [Trees.kinds, kinds, opens] at spelled
    obtain ⟨joint, behind, rfl, _⟩ := OfKinds.of_cons spelled
    refine .byPlace fun state known => ?_
    have notAt : state.isAt .rightParen = false := by
      rw [State.isAt_of_glyphs known]
      rfl
    rw [notAt]
    exact loop

/-- A list of parameters is read from its tokens. -/
theorem parameterList_reads {items : Trees .parameter} {nest : Nat} {variadic : Bool}
    (each : ∀ item ∈ items.toList, item.IsReadParameter nest)
    (spelled : OfKinds (Tree.parameterList items variadic).kinds glyphs) (more : rest ≠ []) :
    RuleReads (fun g => g.parameterList) nest (glyphs ++ rest) (· = .parameterList items variadic)
      rest := by
  intro g derived sure context room
  obtain ⟨opened, _, rfl, later⟩ := OfKinds.of_cons spelled
  rw [← List.append_assoc] at later
  obtain ⟨inner, _, rfl, within, close⟩ := OfKinds.of_append later
  obtain ⟨closed, _, rfl, none⟩ := OfKinds.of_cons close
  obtain rfl := OfKinds.of_nil none
  rw [List.cons_append, List.append_assoc]
  refine (Reads.expect (by simp) rfl).bind fun _ _ => ?_
  refine (Reads.angleCloses (parameters_read each within derived room.bracketed)).andThen ?_
  refine (Reads.expect more rfl).bind fun _ _ => .pure ?_
  rw [Trees.ofList_toList]

theorem parameterList_starts {items : Trees .parameter} {nest : Nat} {variadic : Bool}
    (each : ∀ item ∈ items.toList, item.IsReadParameter nest)
    (spelled : OfKinds (Tree.parameterList items variadic).kinds glyphs) :
    StartsSuffix (glyphs ++ rest) := by
  have opens {kind : TokenKind} {kinds : List TokenKind} (starts : kind.opensParameters = true)
      (spelled : OfKinds (.punctuator .leftParen :: kind :: kinds) glyphs) :
      StartsSuffix (glyphs ++ rest) := by
    obtain ⟨opened, _, rfl, later⟩ := OfKinds.of_cons spelled
    obtain ⟨joint, tail, rfl, _⟩ := OfKinds.of_cons later
    exact .function starts
  rw [kinds_parameterList] at spelled
  cases items with
  | nil => cases variadic with
    | false => exact opens (by decide) spelled
    | true => exact opens (by decide) spelled
  | cons item items =>
    obtain ⟨word, more, kinds, isWord⟩ := (List.forall_mem_cons.mp each).1.opens
    obtain ⟨tail, front⟩ := Punctuator.between_opens .comma (.keyword word) more items.kinds
    rw [Trees.kinds, kinds, front] at spelled
    exact opens (show (TokenKind.keyword word).opensParameters = true from isWord) spelled

/-- The signature of a function with nothing but parameters. -/
def Tree.bareSignature (items : Trees .parameter) (variadic : Bool) : Tree .signature :=
  .signature (.parameterList items variadic) .none none .absent .absent

theorem functionQualifiers_reads_nothing (follows : FollowsCore rest) :
    g.functionQualifiers.Reads context sure rest (· = ⟨.none, none, none⟩) rest := by
  have starts := follows.starts
  obtain ⟨mark, joint, tail, rfl, _⟩ := follows.starts
  refine .stopWith ?_ g.fuel
  refine (Reads.missingWord (by simp)).andThen ?_
  refine (Reads.missingWord (by simp)).andThen ?_
  refine (starts.missing (by decide)).andThen ?_
  refine (starts.missing (by decide)).andThen (.byPlace fun state known => ?_)
  have none : state.atExceptionSpec = false := by
    rw [State.atExceptionSpec, State.isAtWord_of_glyphs known, State.isAtWord_of_glyphs known]
    rfl
  rw [none]
  exact .pure rfl

theorem signature_reads {items : Trees .parameter} {nest : Nat} {variadic : Bool}
    (each : ∀ item ∈ items.toList, item.IsReadParameter nest)
    (spelled : OfKinds (Tree.parameterList items variadic).kinds glyphs) (follows : FollowsCore rest) :
    RuleReads (fun g => g.signature) nest (glyphs ++ rest) (· = .bareSignature items variadic) rest := by
  intro g derived sure context room
  have noResult : g.trailingResult.Reads context sure rest (· = none) rest :=
    (follows.starts.missing (by decide)).andThen (.pure rfl)
  refine (parameterList_reads each spelled follows.ne_nil g derived sure context room).andThen ?_
  refine (functionQualifiers_reads_nothing follows).andThen ?_
  exact noResult.andThen (.pure rfl)

theorem parameterListAhead_reads {second : Glyph} {tail : List Glyph} {joint : Bool}
    (opens : second.kind.opensParameters = true) :
    g.parameterListAhead.Reads context sure (⟨.punctuator .leftParen, joint⟩ :: second :: tail)
      (· = true) (⟨.punctuator .leftParen, joint⟩ :: second :: tail) := by
  refine .byPlace fun state known => ?_
  rw [State.ahead_one_of_glyphs known]
  cases kind : second.kind with
  | punctuator mark =>
    rw [kind] at opens
    cases mark <;> first | exact .pure rfl | cases opens
  | keyword word =>
    rw [kind] at opens
    refine .pure ?_
    simp only [TokenKind.opensParameters, Keyword.isTypeWord, Bool.or_eq_true, beq_iff_eq] at opens
    rcases opens with (builtin | rfl) | rfl
    · simp [builtin]
    · rfl
    · rfl
  | _ =>
    rw [kind] at opens
    cases opens

theorem functionSuffix_reads {items : Trees .parameter} {nest : Nat} {variadic : Bool}
    (each : ∀ item ∈ items.toList, item.IsReadParameter nest) (mode : DeclaratorMode)
    (found : List (Tree .declaratorSuffix))
    (spelled : OfKinds (Tree.functionSuffix (.bareSignature items variadic)).kinds glyphs)
    (follows : FollowsCore rest) :
    RuleReads (fun g => g.suffixStep mode found) nest (glyphs ++ rest)
      (· = .inl (found ++ [.functionSuffix (.bareSignature items variadic)])) rest := by
  intro g derived sure context room
  have reads := signature_reads each spelled follows g derived sure context room
  obtain ⟨opened, later, rfl, behind⟩ := OfKinds.of_cons spelled
  have starts : StartsSuffix (⟨.punctuator .leftParen, opened⟩ :: later ++ rest) :=
    parameterList_starts each spelled
  rw [List.cons_append] at reads starts ⊢
  generalize later ++ rest = tail at reads starts ⊢
  cases starts with
  | function opens =>
    refine .byPlace fun state known => ?_
    have noBracket : state.isAt .leftBracket = false := by
      rw [State.isAt_of_glyphs known]
      rfl
    have paren : state.isAt .leftParen = true := by
      rw [State.isAt_of_glyphs known]
      rfl
    rw [noBracket, paren]
    refine (parameterListAhead_reads opens).andThen ?_
    rw [Bool.or_true]
    exact reads.andThen (.pure rfl)

/-- A suffix is read from its tokens wherever the core before it may end. -/
structure Tree.IsReadSuffix (nest : Nat) (suffix : Tree .declaratorSuffix) : Prop where
  reads : ∀ mode found glyphs rest, OfKinds suffix.kinds glyphs → FollowsCore rest →
    RuleReads (fun g => g.suffixStep mode found) nest (glyphs ++ rest)
      (· = .inl (found ++ [suffix])) rest
  starts : ∀ glyphs rest, OfKinds suffix.kinds glyphs → FollowsCore rest → StartsSuffix (glyphs ++ rest)

theorem functionSuffix_isRead {items : Trees .parameter} {nest : Nat} (variadic : Bool)
    (each : ∀ item ∈ items.toList, item.IsReadParameter nest) :
    (Tree.functionSuffix (.bareSignature items variadic)).IsReadSuffix nest :=
  ⟨fun mode found _ _ spelled follows => functionSuffix_reads each mode found spelled follows,
    fun _ _ spelled _ => parameterList_starts each spelled⟩

theorem suffixes_follow {glyphs : List Glyph} {suffixes : Trees .declaratorSuffix} {nest : Nat}
    (each : ∀ suffix ∈ suffixes.toList, suffix.IsReadSuffix nest)
    (spelled : OfKinds suffixes.kinds.flatten glyphs) (ends : EndsDeclarator rest) :
    FollowsCore (glyphs ++ rest) := by
  cases suffixes with
  | nil =>
    obtain rfl := OfKinds.of_nil spelled
    exact .inr ends
  | cons suffix suffixes =>
    obtain ⟨first, others⟩ := List.forall_mem_cons.mp each
    obtain ⟨front, back, rfl, own, behind⟩ := OfKinds.of_append spelled
    rw [List.append_assoc]
    exact .inl (first.starts front _ own (suffixes_follow others behind ends))

private theorem suffixes_loop {glyphs : List Glyph} {suffixes : Trees .declaratorSuffix} {nest : Nat}
    (each : ∀ suffix ∈ suffixes.toList, suffix.IsReadSuffix nest)
    (spelled : OfKinds suffixes.kinds.flatten glyphs) (ends : EndsDeclarator rest)
    (mode : DeclaratorMode) (found : List (Tree .declaratorSuffix)) (derived : g.IsDerived)
    (room : Room sure context nest) (fuel : Nat) :
    (iterate (g.suffixStep mode) fuel found).Reads context sure (glyphs ++ rest)
      (· = found ++ suffixes.toList) rest := by
  cases suffixes with
  | nil =>
    obtain rfl := OfKinds.of_nil spelled
    rw [List.nil_append, Trees.toList, List.append_nil]
    refine .stopWith ?_ fuel
    refine .byPlace fun state known => ?_
    have noBracket : state.isAt .leftBracket = false := ends.notAt known (by decide)
    have noParen : state.isAt .leftParen = false := ends.notAt known (by decide)
    rw [noBracket, noParen]
    exact .pure rfl
  | cons suffix suffixes =>
    obtain ⟨first, others⟩ := List.forall_mem_cons.mp each
    obtain ⟨front, back, rfl, own, behind⟩ := OfKinds.of_append spelled
    have follows := suffixes_follow others behind ends
    rw [List.append_assoc]
    refine .again (first.reads mode found front _ own follows g derived sure context room)
      (fun fuel => ?_) fuel
    refine Reads.mono (suffixes_loop others behind ends mode (found ++ [suffix]) derived room fuel)
      fun all same => ?_
    simpa [Trees.toList] using same

/-- Suffixes in a row are all read. -/
theorem declaratorSuffixes_reads {suffixes : Trees .declaratorSuffix} {nest : Nat}
    (each : ∀ suffix ∈ suffixes.toList, suffix.IsReadSuffix nest)
    (spelled : OfKinds suffixes.kinds.flatten glyphs) (ends : EndsDeclarator rest)
    (mode : DeclaratorMode) :
    RuleReads (fun g => g.declaratorSuffixes mode) nest (glyphs ++ rest) (· = suffixes.toList) rest :=
  fun g derived _ _ room => suffixes_loop each spelled ends mode [] derived room g.fuel

/-- Pointer operators alone are read as the declarator of nothing. -/
theorem pointersOnly_read {pointers : Trees .pointerOperator} (row : pointers.PointerRow)
    (spelled : OfKinds pointers.kinds.flatten glyphs) (ends : EndsDeclarator rest) (derived : g.IsDerived)
    (allowed : sure → context.depth < nestingLimit) :
    (g.declarator .unnamed).Reads context sure (glyphs ++ rest)
      (· = .declarator pointers false .unnamed .nil) rest := by
  have follows : FollowsCore rest := .inr ends
  refine derived.symbol (.declarator .unnamed) fun inner innerDerived => .nested allowed ?_
  refine (row.reads spelled follows.endsPointers innerDerived).andThen ?_
  refine (ends.missing (by decide)).andThen ?_
  have core : (inner.declaratorCore .unnamed).Reads { context with depth := context.depth + 1 } sure
      rest (· = .unnamed) rest := by
    refine .byPlace fun state known => ?_
    rw [(follows.noCore known).1]
    exact .pure rfl
  refine core.andThen ?_
  obtain ⟨next, tail, rfl⟩ := List.exists_cons_of_ne_nil ends.ne_nil
  refine (declaratorSuffixes_reads_nothing (ends.ne rfl) (ends.ne rfl)).andThen (.pure ?_)
  rw [Trees.ofList_toList]
  rfl

end

end CppSyntax
