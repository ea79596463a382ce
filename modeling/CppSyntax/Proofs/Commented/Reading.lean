import CppSyntax.Proofs.Commented.Writing
import CppSyntax.Proofs.Parsing.Builtin
import CppSyntax.Proofs.Parsing.Fuel
import CppSyntax.Proofs.Statement.Block

/-!
Declarations with comments read back from their tokens. The place of reading stands in a known sequence
of tokens, so that what is left to read says which comments stand around the place.
-/

namespace CppSyntax

open CppSyntax.Parser Grammar

/-- The places of nodes are not left, but their comments are. -/
def Erasure.locations : Erasure := ⟨fun place => { place with location := ⟨0, 0⟩ }, id⟩

/-- The place stands in the sequence of tokens, whose own places do not matter. -/
def State.Along (all : List Token) (state : State) : Prop :=
  ∃ done, all = done ++ state.tokens.map Token.unplaced ∧
    state.previous.map Token.unplaced = done.getLast?

namespace State.Along

variable {all done rest : List Token} {state : State}

theorem next (along : state.Along all) : state.next.Along all := by
  cases inside : state.atEnd with
  | true => rwa [next_of_atEnd inside]
  | false =>
    cases following : state.following with
    | nil =>
      have same : state.next = state := by simp [State.next, following]
      rwa [same]
    | cons token behind =>
      obtain ⟨done, whole, _⟩ := along
      rw [next_of_following inside following]
      refine ⟨done ++ [state.current.unplaced], ?_, by simp⟩
      simpa [tokens, following] using whole

theorem steady (all : List Token) : Steady (State.Along all) := by
  refine ⟨fun reaches along => ?_⟩
  induction reaches with
  | refl => exact along
  | next _ ih => exact ih.next
  | declare ident _ ih => exact ih

/-- What is left to read says where the place stands. -/
theorem split (along : state.Along all) (whole : all = done ++ rest)
    (left : state.glyphs = rest.map Token.glyph) :
    state.tokens.map Token.unplaced = rest ∧ state.previous.map Token.unplaced = done.getLast? := by
  obtain ⟨before, same, previous⟩ := along
  have lengths : (state.tokens.map Token.unplaced).length = rest.length := by
    have counted := congrArg List.length left
    simpa [State.glyphs] using counted
  obtain ⟨rfl, rfl⟩ := List.append_inj' (same.symm.trans whole) lengths
  exact ⟨rfl, previous⟩

theorem current {first : Token} (along : state.Along all) (whole : all = done ++ first :: rest)
    (left : state.glyphs = (first :: rest).map Token.glyph) : state.current.unplaced = first :=
  (List.cons.inj (along.split whole left).1).1

theorem trailing (along : state.Along all) (whole : all = done ++ rest)
    (left : state.glyphs = rest.map Token.glyph) :
    state.previous.bind (·.trailingComment) = done.getLast?.bind (·.trailingComment) := by
  rw [← (along.split whole left).2]
  cases state.previous <;> rfl

end State.Along

/-- Reading keeps to the tokens. -/
theorem Parser.Reads.along {p : Parser α} {context : Context} {sure : Prop} {glyphs rest : List Glyph}
    {good : α → Prop} (reads : p.Reads context sure glyphs good rest) (all : List Token) :
    p.ReadsUnder (State.Along all) context sure glyphs good rest :=
  .ofReads (State.Along.steady all) reads

/-- A declaration may start with the token. -/
def TokenKind.startsDeclaration : TokenKind → Bool
  | .keyword _ | .directive _ => true
  | _ => false

/-- The tokens have the comments of the node around them. -/
structure Placement.IsAround (place : Placement) (first : Token) (tail : List Token) : Prop where
  leading : first.leadingComments = place.leadingComments
  blankLine : first.blankLineBefore = place.blankLineBefore
  trailing : (first :: tail).getLast?.bind (·.trailingComment) = place.trailingComment
  starts : first.kind.startsDeclaration = true

section

variable {all done rest : List Token} {context : Context} {sure : Prop} {g : Grammar Parser}
  {scope : Scope}

/-- A declaration is read with its comments once its form is read. -/
theorem declaration_reads_around {place : Placement} {form : Tree .declarationForm}
    {first : Token} {tail : List Token} (around : place.IsAround first tail)
    (whole : all = done ++ (first :: tail ++ rest)) (derived : g.IsDerived)
    (allowed : sure → context.depth < nestingLimit)
    (reads : ∀ inner : Grammar Parser, inner.IsDerived →
      (inner.declarationForm scope).ReadsUnder (State.Along all)
        { context with depth := context.depth + 1 } sure ((first :: tail ++ rest).map Token.glyph)
        (fun found => found.without .locations = form.without .locations ∧
          found.endsInDeclaration = false) (rest.map Token.glyph)) :
    (g.declaration scope).ReadsUnder (State.Along all) context sure
      ((first :: tail ++ rest).map Token.glyph)
      (fun answer => ∃ found, answer = some found ∧
        found.without .locations = (Tree.declaration place form).without .locations)
      (rest.map Token.glyph) := by
  refine .symbol derived (.declaration scope) fun inner innerDerived => .nested allowed ?_
  refine .byPlace fun state along left => ?_
  have here := along.current whole left
  have noSemicolon : first.glyph.kind ≠ .punctuator .semicolon := by
    intro same
    have starts := around.starts
    rw [show first.kind = _ from same] at starts
    cases starts
  refine ((Reads.missing noSemicolon).along all).andThen ?_
  refine (reads inner innerDerived).bind fun found known => ?_
  obtain ⟨same, single⟩ := known
  rw [single]
  have whole' : all = (done ++ first :: tail) ++ rest := by simpa using whole
  refine .byPlace fun final along left => .pure ⟨_, rfl, ?_⟩
  have behind := along.trailing whole' left
  rw [List.getLast?_append_of_ne_nil _ (List.cons_ne_nil _ _), around.trailing] at behind
  have leading : state.current.leadingComments = place.leadingComments :=
    (congrArg Token.leadingComments here).trans around.leading
  have blank : state.current.blankLineBefore = place.blankLineBefore :=
    (congrArg Token.blankLineBefore here).trans around.blankLine
  show Tree.declaration _ (found.without .locations) = Tree.declaration _ (form.without .locations)
  rw [same]
  simp [Erasure.locations, behind, leading, blank]

theorem directive_reads {text : String} {joint : Bool} {glyphs : List Glyph} (more : glyphs ≠ []) :
    (g.declarationForm scope).Reads context sure (⟨.directive text, joint⟩ :: glyphs)
      (· = .directive text) glyphs := by
  refine .byPlace fun state known => ?_
  rw [State.kind_of_glyphs known]
  exact (Reads.advance more (by simp)).bind fun _ _ => .pure rfl

theorem label_reads {access : Access} {joint closed : Bool} {glyphs : List Glyph} (more : glyphs ≠ []) :
    (g.declarationForm .inClass).Reads context sure
      (⟨.keyword access.keyword, joint⟩ :: ⟨.punctuator .colon, closed⟩ :: glyphs)
      (· = .accessLabel access) glyphs := by
  refine .byPlace fun state known => ?_
  rw [State.kind_of_glyphs known]
  have rest : (do
        advance
        expect .colon "after access specifier"
        return Tree.accessLabel access : Parser _).Reads
      context sure (⟨.keyword access.keyword, joint⟩ :: ⟨.punctuator .colon, closed⟩ :: glyphs)
      (· = .accessLabel access) glyphs := by
    refine (Reads.advance (by simp) (by simp)).bind fun _ _ => ?_
    exact (Reads.expect more rfl).bind fun _ _ => .pure rfl
  refine .byPlace fun state known => ?_
  cases access <;> exact rest

theorem initDeclarators_reads {shape : Declarator} {joint : Bool} {glyphs : List Glyph} :
    (g.initDeclarators scope shape).Reads context sure (⟨.punctuator .semicolon, joint⟩ :: glyphs)
      (· = [.initDeclarator shape .absent .absent]) (⟨.punctuator .semicolon, joint⟩ :: glyphs) := by
  refine .stopWith ?_ g.fuel
  have noWidth : (g.bitWidth scope).Reads context sure (⟨.punctuator .semicolon, joint⟩ :: glyphs)
      (· = none) (⟨.punctuator .semicolon, joint⟩ :: glyphs) := by
    cases scope with
    | inClass => exact (Reads.missing (by simp)).andThen (.pure rfl)
    | inNamespace | inBlock => exact .pure rfl
  have noInit : g.initializer.Reads context sure (⟨.punctuator .semicolon, joint⟩ :: glyphs)
      (· = none) (⟨.punctuator .semicolon, joint⟩ :: glyphs) := by
    refine (Reads.missing (by simp)).andThen (.byPlace fun state known => ?_)
    have noBrace : state.isAt .leftBrace = false := by
      rw [State.isAt_of_glyphs known]
      rfl
    rw [noBrace]
    exact (Reads.missing (by simp)).andThen (.pure rfl)
  refine noWidth.andThen (noInit.andThen ?_)
  exact (Reads.missing (by simp)).andThen (.pure rfl)

theorem variable_reads {ident : String} {spaced named closed : Bool} {glyphs : List Glyph}
    (more : glyphs ≠ []) (derived : g.IsDerived) (allowed : sure → context.depth < nestingLimit) :
    (g.declarationForm scope).Reads context sure (⟨.keyword .kwInt, spaced⟩ ::
        ⟨.identifier ident, named⟩ :: ⟨.punctuator .semicolon, closed⟩ :: glyphs)
      (· = .integerVariable ident) glyphs := by
  refine .byPlace fun state known => ?_
  rw [State.kind_of_glyphs known]
  have spelled : SpellWords (Qualifiers.none.before [.kwInt]) [⟨.keyword .kwInt, spaced⟩] := rfl
  have specs : (g.specifiers scope).Reads context sure (⟨.keyword .kwInt, spaced⟩ ::
        ⟨.identifier ident, named⟩ :: ⟨.punctuator .semicolon, closed⟩ :: glyphs) (· = _)
      (⟨.identifier ident, named⟩ :: ⟨.punctuator .semicolon, closed⟩ :: glyphs) :=
    specifiers_reads spelled (by simp; rfl) (by simp) (.inr ⟨ident, rfl⟩) derived
  have simple : (g.simpleForm scope).Reads context sure (⟨.keyword .kwInt, spaced⟩ ::
        ⟨.identifier ident, named⟩ :: ⟨.punctuator .semicolon, closed⟩ :: glyphs)
      (· = .integerVariable ident) glyphs := by
    refine specs.andThen ?_
    refine (Reads.missing (by simp)).andThen ?_
    have shape : (g.declarator .named).Reads context sure (⟨.identifier ident, named⟩ ::
        ⟨.punctuator .semicolon, closed⟩ :: glyphs) (· = .namedDeclarator ident)
        (⟨.punctuator .semicolon, closed⟩ :: glyphs) :=
      declarator_reads (by simp) (by simp) derived allowed fun inner _ =>
        declaratorSuffixes_reads_nothing (by simp) (by simp)
    have member : (g.memberDeclarator scope).Reads context sure (⟨.identifier ident, named⟩ ::
        ⟨.punctuator .semicolon, closed⟩ :: glyphs) (· = .namedDeclarator ident)
        (⟨.punctuator .semicolon, closed⟩ :: glyphs) := by
      refine .byPlace fun state known => ?_
      have noColon : state.isAt .colon = false := by
        rw [State.isAt_of_glyphs known]
        rfl
      rw [noColon, Bool.and_false]
      exact shape
    refine member.andThen ?_
    refine initDeclarators_reads.andThen ?_
    exact (Reads.expect more rfl).bind fun _ _ => .pure rfl
  refine .byPlace fun state known => ?_
  cases scope <;> exact simple

/-- From the tokens the declaration is read with its comments, wherever they stand. -/
structure Tree.ReadAs (scope : Scope) (nest : Nat) (inner : Declaration) (tokens : List Token) : Prop where
  starts : ∃ first tail, tokens = first :: tail ∧ first.kind.startsDeclaration = true
  reads : ∀ (all done rest : List Token) (g : Grammar Parser) (sure : Prop) (context : Context),
    g.IsDerived → rest ≠ [] → all = done ++ (tokens ++ rest) → Room sure context nest →
      (g.declaration scope).ReadsUnder (State.Along all) context sure
        ((tokens ++ rest).map Token.glyph)
        (fun answer => ∃ found, answer = some found ∧
          found.without .locations = inner.without .locations) (rest.map Token.glyph)

/-- Declarations in a row. -/
theorem Tree.ReadAs.row {members : List Declaration} {rows : List (List Token)} {nest : Nat}
    {ends : TokenKind → Bool} {last : Token}
    (read : List.Forall₂ (Tree.ReadAs scope nest) members rows)
    (finished : ends last.kind = true)
    (goesOn : ∀ kind : TokenKind, kind.startsDeclaration = true → ends kind = false)
    (derived : g.IsDerived) (room : Room sure context nest)
    (whole : all = done ++ (rows.flatten ++ last :: rest)) :
    ReadsRow (State.Along all) (g.declaration scope) context sure ends (·.without .locations)
      (members.map (·.without .locations)) ((rows.flatten ++ last :: rest).map Token.glyph)
      ((last :: rest).map Token.glyph) := by
  induction read generalizing done with
  | nil => exact .nil finished
  | @cons inner tokens members rows one _ ih =>
    obtain ⟨first, tail, rfl, starts⟩ := one.starts
    have whole' : all = done ++ ((first :: tail) ++ (rows.flatten ++ last :: rest)) := by
      simpa using whole
    have reads := one.reads all done _ g sure context derived (by simp) whole' room
    have later := @ih (done ++ first :: tail) (by simpa using whole')
    have text : ((first :: tail) :: rows).flatten ++ last :: rest =
        first :: (tail ++ (rows.flatten ++ last :: rest)) := by simp
    rw [text]
    exact .cons (goesOn _ starts) reads later

theorem Tree.ReadAs.members {members : List Declaration} {rows : List (List Token)} {nest : Nat}
    {closing : Token} (read : List.Forall₂ (Tree.ReadAs scope nest) members rows)
    (closes : closing.kind = .punctuator .rightBrace) (derived : g.IsDerived)
    (room : Room sure context nest) (whole : all = done ++ (rows.flatten ++ closing :: rest)) :
    (g.itemsUntil .rightBrace (g.declaration scope)).ReadsUnder (State.Along all) context sure
      ((rows.flatten ++ closing :: rest).map Token.glyph)
      (fun found => found.map (·.without .locations) = members.map (·.without .locations))
      ((closing :: rest).map Token.glyph) := by
  have goesOn : ∀ kind : TokenKind, kind.startsDeclaration = true →
      (kind == .punctuator .rightBrace || kind == .endOfFile) = false := by
    intro kind starts
    cases kind <;> first | rfl | cases starts
  have row : ReadsRow (State.Along all) (g.declaration scope) context sure
      (fun kind => kind == .punctuator .rightBrace || kind == .endOfFile) (·.without .locations)
      (members.map (·.without .locations)) ((rows.flatten ++ closing :: rest).map Token.glyph)
      ((closing :: rest).map Token.glyph) :=
    Tree.ReadAs.row read (by simp [closes]) goesOn derived room whole
  exact row.itemsUntil g

/-- Items between braces, with the comments before the closing one. -/
theorem braced_reads_along {construct : String} {items : Parser (List Declaration)}
    {good : List Declaration → Prop} {opening closing : Token} {inner : List Token}
    (opens : opening.kind = .punctuator .leftBrace) (closes : closing.kind = .punctuator .rightBrace)
    (silent : opening.trailingComment = none) (more : rest ≠ [])
    (whole : all = done ++ (opening :: (inner ++ closing :: rest)))
    (reads : items.ReadsUnder (State.Along all) context sure
      ((inner ++ closing :: rest).map Token.glyph) good ((closing :: rest).map Token.glyph)) :
    (braced construct items : Parser _).ReadsUnder (State.Along all) context sure
      ((opening :: (inner ++ closing :: rest)).map Token.glyph)
      (fun found => good found.1 ∧ found.2 = closing.leadingComments) (rest.map Token.glyph) := by
  have behindOpening : all = (done ++ [opening]) ++ (inner ++ closing :: rest) := by simpa using whole
  have atClosing : all = (done ++ opening :: inner) ++ closing :: rest := by simpa using whole
  refine braced_reads_under (State.Along.steady all) opens closes (by simp) (by simpa using more)
    (fun state along left => ?_) (fun state along left => ?_) reads
  · simpa [silent] using along.trailing behindOpening left
  · have same : state.current.unplaced.leadingComments = closing.leadingComments :=
      congrArg Token.leadingComments (along.current atClosing left)
    exact same

private theorem path_loop {path : List String} {ident : String} {opening : Token} {glyphs : List Glyph}
    (opens : opening.kind = .punctuator .leftBrace) (found : List String) (fuel : Nat) :
    (iterate (fun path => do
      unless ← accept .scope do return .inr path
      return .inl (path ++ [← expectIdentifier "in nested namespace name"])) fuel found : Parser _).Reads
      context sure (((Token.ofPath (ident :: path)).map Token.glyph).tail ++ opening.glyph :: glyphs)
      (· = found ++ path) (opening.glyph :: glyphs) := by
  induction path generalizing ident found fuel with
  | nil =>
    have noScope : opening.glyph.kind ≠ .punctuator .scope := by simp [Token.glyph, opens]
    rw [List.append_nil]
    refine .stopWith ?_ fuel
    exact (Reads.missing noScope).andThen (.pure rfl)
  | cons next path ih =>
    have rest : (Token.ofPath (next :: path)).map Token.glyph = ⟨.identifier next, !path.isEmpty⟩ ::
        ((Token.ofPath (next :: path)).map Token.glyph).tail := by
      cases path <;> rfl
    have whole : ((Token.ofPath (ident :: next :: path)).map Token.glyph).tail =
        ⟨.punctuator .scope, true⟩ :: (Token.ofPath (next :: path)).map Token.glyph := rfl
    rw [whole, rest]
    have later := fun fuel => @ih next (found ++ [next]) fuel
    rw [List.append_assoc, List.singleton_append] at later
    refine .again ?_ later fuel
    refine (Reads.accept (by simp) rfl).andThen ?_
    exact (Reads.expectIdentifier (by simp) rfl).andThen (.pure rfl)

theorem namespacePath_reads (path : List String) {opening : Token} {glyphs : List Glyph}
    (opens : opening.kind = .punctuator .leftBrace) :
    g.namespacePath.Reads context sure
      ((Token.ofPath path).map Token.glyph ++ opening.glyph :: glyphs) (· = path)
      (opening.glyph :: glyphs) := by
  cases path with
  | nil =>
    refine .byPlace fun state known => ?_
    have noName : state.isAtIdentifier = false := by
      rw [State.isAtIdentifier, State.kind_of_glyphs known]
      simp [Token.glyph, opens]
    rw [noName]
    exact .pure rfl
  | cons ident path =>
    have whole : (Token.ofPath (ident :: path)).map Token.glyph = ⟨.identifier ident, !path.isEmpty⟩ ::
        ((Token.ofPath (ident :: path)).map Token.glyph).tail := by
      cases path <;> rfl
    rw [whole]
    refine .byPlace fun state known => ?_
    have isName : state.isAtIdentifier = true := by
      rw [State.isAtIdentifier, State.kind_of_glyphs known]
    rw [isName]
    refine (Reads.expectIdentifier (by simp) rfl).andThen ?_
    exact path_loop opens [ident] g.fuel

section

variable {members : List Declaration} {rows : List (List Token)} {nest : Nat} {closing : Token}

/-- A namespace from its keyword on. -/
theorem namespaceForm_reads (isInline : Bool) (path : List String)
    (read : List.Forall₂ (Tree.ReadAs .inNamespace nest) members rows)
    (closes : closing.kind = .punctuator .rightBrace) (more : rest ≠ []) (derived : g.IsDerived)
    (room : Room sure context nest)
    (whole : all = done ++ (.plain (.punctuator .leftBrace) false :: (rows.flatten ++ closing :: rest))) :
    (g.namespaceForm isInline).ReadsUnder (State.Along all) context sure
      ((Token.ofNamespaceHead false path ++ (rows.flatten ++ closing :: rest)).map Token.glyph)
      (fun found => found.without .locations = (Tree.namespaceBlock path isInline (.ofList members)
          closing.leadingComments).without .locations ∧ found.endsInDeclaration = false)
      (rest.map Token.glyph) := by
  have behindOpening : all = (done ++ [.plain (.punctuator .leftBrace) false]) ++
      (rows.flatten ++ closing :: rest) := by simpa using whole
  have inside := Tree.ReadAs.members read closes derived room behindOpening
  have block : (braced "namespace body" (g.itemsUntil .rightBrace (g.declaration .inNamespace)) >>=
      fun found => pure (Tree.namespaceBlock path isInline (.ofList found.1) found.2) :
        Parser _).ReadsUnder (State.Along all) context sure
      ((.plain (.punctuator .leftBrace) false :: (rows.flatten ++ closing :: rest)).map Token.glyph)
      (fun found => found.without .locations = (Tree.namespaceBlock path isInline (.ofList members)
          closing.leadingComments).without .locations ∧ found.endsInDeclaration = false)
      (rest.map Token.glyph) := by
    refine (braced_reads_along rfl closes rfl more whole inside).bind fun found known => .pure ⟨?_, rfl⟩
    obtain ⟨same, comments⟩ := known
    show Tree.namespaceBlock path isInline ((Trees.ofList found.1).without .locations) found.2 =
      .namespaceBlock path isInline ((Trees.ofList members).without .locations) closing.leadingComments
    rw [Trees.without_ofList, Trees.without_ofList, same, comments]
  have tokens : (Token.ofNamespaceHead false path ++ (rows.flatten ++ closing :: rest)).map Token.glyph =
      ⟨.keyword .kwNamespace, false⟩ :: ((Token.ofPath path).map Token.glyph ++
        (.plain (.punctuator .leftBrace) false :: (rows.flatten ++ closing :: rest)).map Token.glyph) := by
    simp [Token.ofNamespaceHead, Token.plain, Token.glyph]
  rw [tokens]
  refine ((Reads.expectWord (by simp) rfl).along all).bind fun _ _ => ?_
  refine ((namespacePath_reads path rfl).along all).andThen ?_
  rcases path with _ | ⟨ident, _ | ⟨next, path⟩⟩
  · exact block
  · refine ((Reads.missing (by simp [Token.plain, Token.glyph])).along all).andThen ?_
    exact block
  · exact block

theorem namespace_reads (isInline : Bool) (path : List String)
    (read : List.Forall₂ (Tree.ReadAs .inNamespace nest) members rows)
    (closes : closing.kind = .punctuator .rightBrace) (more : rest ≠ []) (derived : g.IsDerived)
    (room : Room sure context nest)
    (whole : all = done ++ (.plain (.punctuator .leftBrace) false :: (rows.flatten ++ closing :: rest))) :
    (g.declarationForm scope).ReadsUnder (State.Along all) context sure
      ((Token.ofNamespaceHead isInline path ++ (rows.flatten ++ closing :: rest)).map Token.glyph)
      (fun found => found.without .locations = (Tree.namespaceBlock path isInline (.ofList members)
          closing.leadingComments).without .locations ∧ found.endsInDeclaration = false)
      (rest.map Token.glyph) := by
  have form := namespaceForm_reads isInline path read closes more derived room whole
  cases isInline with
  | false =>
    refine .byPlace fun state along left => ?_
    rw [State.kind_of_glyphs left]
    exact .byPlace fun _ _ _ => form
  | true =>
    refine .byPlace fun state along left => ?_
    rw [State.kind_of_glyphs left]
    refine .byPlace fun state along left => ?_
    have next := State.ahead_one_of_glyphs left
    rw [next]
    refine ((Reads.advance (by simp) (by simp [Token.plain, Token.glyph])).along all).bind fun _ _ => ?_
    exact form

private theorem declaredTitle_reads {ident : String} {joint : Bool} {next : Glyph} {glyphs : List Glyph}
    (noScope : next.kind ≠ .punctuator .scope) (noLess : next.kind ≠ .punctuator .less)
    (derived : g.IsDerived) :
    g.declaredTitle.Reads context sure (⟨.identifier ident, joint⟩ :: next :: glyphs)
      (· = some (.simpleName ident)) (next :: glyphs) := by
  refine .byPlace fun state known => ?_
  have isName : state.isAtIdentifier = true := by
    rw [State.isAtIdentifier, State.kind_of_glyphs known]
  rw [isName]
  refine (name_reads noScope noLess derived).andThen ?_
  have declared : (declareTypes [ident] : Parser Unit).Reads context sure (next :: glyphs)
      (fun _ => True) (next :: glyphs) := (Reads.declareType ident).bind fun _ _ => .pure trivial
  exact declared.bind fun _ _ => .pure rfl

private theorem classFinal_reads (isFinal : Bool) {opening : Glyph} {glyphs : List Glyph}
    (opens : opening.kind = .punctuator .leftBrace) :
    (acceptIf (·.atClassFinal) : Parser Bool).Reads context sure
      ((if isFinal then [Token.plain (.identifier "final") false] else []).map Token.glyph ++
        opening :: glyphs) (· = isFinal) (opening :: glyphs) := by
  intro state known
  rw [acceptIf_apply]
  cases isFinal with
  | false =>
    have other : state.atClassFinal = false := by
      simp [State.atClassFinal, State.isAtIdent, State.kind_of_glyphs known, opens]
    rw [other]
    exact ⟨rfl, known, .refl⟩
  | true =>
    have there : state.atClassFinal = true := by
      simp [State.atClassFinal, State.isAtIdent, State.kind_of_glyphs known, State.isAhead,
        State.ahead_one_of_glyphs known, opens, Token.plain, Token.glyph]
    rw [there]
    exact ⟨rfl, State.glyphs_next known (by simp) (by simp [Token.plain, Token.glyph]), .next .refl⟩

private theorem attributes_reads_nothing {ident : String} {joint : Bool} {glyphs : List Glyph} :
    g.attributesAndAlignment.Reads context sure (⟨.identifier ident, joint⟩ :: glyphs) (· = ([], []))
      (⟨.identifier ident, joint⟩ :: glyphs) := by
  refine .stopWith ?_ g.fuel
  refine .byPlace fun state known => ?_
  have noAttribute : state.atAttribute = false := by
    rw [State.atAttribute, State.isAt_of_glyphs known]
    rfl
  have noAlignment : state.isAtWord .kwAlignas = false := by
    rw [State.isAtWord_of_glyphs known]
    rfl
  rw [noAttribute, noAlignment]
  exact .pure rfl

/-- What is read of a class definition. Its members may stand at other places. -/
def Tree.ReadsClass (key : ClassKey) (ident : String) (isFinal : Bool) (members : List Declaration)
    (closing : List String) (found : TypeSpecifier) : Prop :=
  ∃ inner, found = .classType .none (.classSpecifier key [] [] (.present (.simpleName ident)) isFinal
      .nil (.ofList inner) closing) ∧
    inner.map (·.without .locations) = members.map (·.without .locations)

theorem classSpecifier_reads {ident : String} (key : ClassKey) (isFinal : Bool)
    (read : List.Forall₂ (Tree.ReadAs .inClass nest) members rows)
    (closes : closing.kind = .punctuator .rightBrace) (more : rest ≠ []) (derived : g.IsDerived)
    (room : Room sure context nest)
    (whole : all = done ++ (.plain (.punctuator .leftBrace) false :: (rows.flatten ++ closing :: rest))) :
    (g.classSpecifier key).ReadsUnder (State.Along all) context sure
      ((Token.ofClassHead key ident isFinal ++ (rows.flatten ++ closing :: rest)).map Token.glyph)
      (Tree.ReadsClass key ident isFinal members closing.leadingComments) (rest.map Token.glyph) := by
  have behindOpening : all = (done ++ [.plain (.punctuator .leftBrace) false]) ++
      (rows.flatten ++ closing :: rest) := by simpa using whole
  have room' : Room sure { context with
      classes := ident :: context.classes
      inTemplateArguments := false } nest := ⟨rfl, room.allowed⟩
  have inside := (Tree.ReadAs.members read closes derived room' behindOpening).angleCloses.insideClass
  have tokens : (Token.ofClassHead key ident isFinal ++ (rows.flatten ++ closing :: rest)).map Token.glyph =
      ⟨.keyword key.keyword, false⟩ :: ⟨.identifier ident, false⟩ ::
        ((if isFinal then [Token.plain (.identifier "final") false] else []).map Token.glyph ++
        (.plain (.punctuator .leftBrace) false :: (rows.flatten ++ closing :: rest)).map Token.glyph) := by
    simp [Token.ofClassHead, Token.plain, Token.glyph]
  rw [tokens]
  refine ((Reads.advance (by simp) (by simp)).along all).bind fun _ _ => ?_
  refine (attributes_reads_nothing.along all).andThen ?_
  have title : g.declaredTitle.Reads context sure (⟨.identifier ident, false⟩ ::
      ((if isFinal then [Token.plain (.identifier "final") false] else []).map Token.glyph ++
        (.plain (.punctuator .leftBrace) false :: (rows.flatten ++ closing :: rest)).map Token.glyph))
      (· = some (.simpleName ident))
      ((if isFinal then [Token.plain (.identifier "final") false] else []).map Token.glyph ++
        (.plain (.punctuator .leftBrace) false :: (rows.flatten ++ closing :: rest)).map Token.glyph) := by
    cases isFinal <;> exact declaredTitle_reads (by simp [Token.plain, Token.glyph])
      (by simp [Token.plain, Token.glyph]) derived
  refine (title.along all).andThen ?_
  refine ((classFinal_reads isFinal rfl).along all).andThen ?_
  refine .byPlace fun state along left => ?_
  have isAt : state.isAt .leftBrace = true := by
    rw [State.isAt_of_glyphs left]
    rfl
  rw [isAt]
  refine ((Reads.missing (by simp [Token.plain, Token.glyph])).along all).andThen ?_
  refine (braced_reads_along rfl closes rfl more whole inside).bind fun found known => .pure ?_
  obtain ⟨same, comments⟩ := known
  exact ⟨found.1, by rw [← comments]; rfl, same⟩

/-- A class definition as the only specifier of a declaration. -/
theorem classSpecifiers_reads {ident : String} (key : ClassKey) (isFinal : Bool) {semicolon : Token}
    (read : List.Forall₂ (Tree.ReadAs .inClass nest) members rows)
    (closes : closing.kind = .punctuator .rightBrace) (ends : semicolon.kind = .punctuator .semicolon)
    (derived : g.IsDerived) (room : Room sure context nest)
    (whole : all = done ++ (.plain (.punctuator .leftBrace) false ::
      (rows.flatten ++ closing :: semicolon :: rest))) :
    (g.specifiers scope).ReadsUnder (State.Along all) context sure
      ((Token.ofClassHead key ident isFinal ++ (rows.flatten ++ closing :: semicolon :: rest)).map
        Token.glyph)
      (fun specs => ∃ found, specs = ⟨[], [], [], some found, false, true⟩ ∧
        Tree.ReadsClass key ident isFinal members closing.leadingComments found)
      ((semicolon :: rest).map Token.glyph) := by
  refine .symbol derived (.specifiers scope) fun inner innerDerived => ?_
  let typed (draft : SpecifierDraft) : Prop := ∃ found,
    draft = (SpecifierDraft.empty.withType found).sure ∧
      Tree.ReadsClass key ident isFinal members closing.leadingComments found
  have first : (inner.specifierStep scope .empty).ReadsUnder (State.Along all) context sure
      ((Token.ofClassHead key ident isFinal ++ (rows.flatten ++ closing :: semicolon :: rest)).map
        Token.glyph) (fun result => ∃ draft, result = .inl draft ∧ typed draft)
      ((semicolon :: rest).map Token.glyph) := by
    refine .byPlace fun state along left => ?_
    rw [State.kind_of_glyphs left]
    refine .byPlace fun _ _ _ => ?_
    have definition : (inner.classSpecifier key >>= fun found =>
        pure (.inl (SpecifierDraft.empty.withType found).sure) :
          Parser (SpecifierDraft ⊕ SpecifierDraft)).ReadsUnder (State.Along all) context sure
        ((Token.ofClassHead key ident isFinal ++ (rows.flatten ++ closing :: semicolon :: rest)).map
          Token.glyph) (fun result => ∃ draft, result = .inl draft ∧ typed draft)
        ((semicolon :: rest).map Token.glyph) :=
      (classSpecifier_reads key isFinal read closes (List.cons_ne_nil _ _) innerDerived room
        whole).bind fun found known => .pure ⟨_, rfl, found, rfl, known⟩
    cases key <;> exact definition
  have last (draft : SpecifierDraft) : (inner.specifierStep scope draft).Reads context sure
      ((semicolon :: rest).map Token.glyph) (· = .inr draft) ((semicolon :: rest).map Token.glyph) := by
    refine .byPlace fun state known => ?_
    have noAttribute : state.atAttribute = false := by
      rw [State.atAttribute, State.isAt_of_glyphs known, Token.glyph, ends]
      rfl
    rw [State.kind_of_glyphs known, Token.glyph, ends, noAttribute]
    exact .pure rfl
  have loop : (inner.loop (inner.specifierStep scope) .empty).ReadsUnder (State.Along all) context sure
      ((Token.ofClassHead key ident isFinal ++ (rows.flatten ++ closing :: semicolon :: rest)).map
        Token.glyph) typed ((semicolon :: rest).map Token.glyph) :=
    .again typed first (fun draft known fuel => .stop draft ((last draft).along all) known fuel) inner.fuel
  refine loop.bind fun draft known => ?_
  obtain ⟨found, rfl, definition, rfl, same⟩ := known
  exact .pure ⟨_, rfl, definition, rfl, same⟩

/-- A class definition with nothing but a semicolon behind it. -/
theorem class_reads {ident : String} (key : ClassKey) (isFinal : Bool) {semicolon : Token}
    (read : List.Forall₂ (Tree.ReadAs .inClass nest) members rows)
    (closes : closing.kind = .punctuator .rightBrace) (ends : semicolon.kind = .punctuator .semicolon)
    (more : rest ≠ []) (derived : g.IsDerived) (room : Room sure context nest)
    (whole : all = done ++ (.plain (.punctuator .leftBrace) false ::
      (rows.flatten ++ closing :: semicolon :: rest))) :
    (g.declarationForm scope).ReadsUnder (State.Along all) context sure
      ((Token.ofClassHead key ident isFinal ++ (rows.flatten ++ closing :: semicolon :: rest)).map
        Token.glyph)
      (fun found => found.without .locations = (Tree.plainClass key ident isFinal (.ofList members)
          closing.leadingComments).without .locations ∧ found.endsInDeclaration = false)
      (rest.map Token.glyph) := by
  refine .byPlace fun state along left => ?_
  rw [State.kind_of_glyphs left]
  have simple : (g.simpleForm scope).ReadsUnder (State.Along all) context sure
      ((Token.ofClassHead key ident isFinal ++ (rows.flatten ++ closing :: semicolon :: rest)).map
        Token.glyph)
      (fun found => found.without .locations = (Tree.plainClass key ident isFinal (.ofList members)
          closing.leadingComments).without .locations ∧ found.endsInDeclaration = false)
      (rest.map Token.glyph) := by
    refine (classSpecifiers_reads key isFinal read closes ends derived room whole).bind
      fun specs known => ?_
    obtain ⟨_, rfl, definition, rfl, same⟩ := known
    refine ((Reads.accept (by simpa using more) ends).along all).andThen (.pure ⟨?_, rfl⟩)
    show Tree.classDeclaration (.classSpecifier key [] [] _ isFinal .nil
      ((Trees.ofList definition).without .locations) closing.leadingComments) =
        .classDeclaration (.classSpecifier key [] [] _ isFinal .nil
          ((Trees.ofList members).without .locations) closing.leadingComments)
    rw [Trees.without_ofList, Trees.without_ofList, same]
  refine .byPlace fun _ _ _ => ?_
  cases scope <;> cases key <;> exact simple

variable {place : Placement} {form : Tree .declarationForm} {first : Token} {tail : List Token}

/-- A declaration whose form is read from the tokens without their surroundings. -/
theorem Tree.ReadAs.ofForm (plain : first.leadingComments = [] ∧ first.blankLineBefore = false)
    (starts : first.kind.startsDeclaration = true)
    (trailing : (first :: tail).getLast?.bind (·.trailingComment) = place.trailingComment)
    (reads : ∀ (all done rest : List Token) (g : Grammar Parser) (sure : Prop) (context : Context),
      g.IsDerived → rest ≠ [] → all = done ++ (tail ++ rest) → Room sure context nest →
        (g.declarationForm scope).ReadsUnder (State.Along all) context sure
          ((first :: tail ++ rest).map Token.glyph)
          (fun found => found.without .locations = form.without .locations ∧
            found.endsInDeclaration = false) (rest.map Token.glyph)) :
    (Tree.declaration place form).ReadAs scope (nest + 1)
      (Token.ledBy place.leadingComments place.blankLineBefore (first :: tail)) := by
  refine ⟨⟨_, _, rfl, starts⟩, fun all done rest g sure context derived more whole room => ?_⟩
  refine declaration_reads_around ⟨?_, ?_, ?_, starts⟩ whole derived room.fits fun inner innerDerived => ?_
  · simp [plain]
  · simp [plain]
  · rw [← trailing]
    cases tail <;> rfl
  · refine reads all (done ++ Token.ledBy place.leadingComments place.blankLineBefore [first]) rest inner
      sure _ innerDerived more ?_ room.deeper
    rw [whole]
    simp [Token.ledBy]

theorem readAs_directive {text : String} (alone : place.trailingComment = none) :
    (Tree.declaration place (.directive text)).ReadAs scope (nest + 1)
      (Token.ledBy place.leadingComments place.blankLineBefore [.plain (.directive text) false]) := by
  refine .ofForm ⟨rfl, rfl⟩ rfl alone.symm fun all done rest g sure context _ more _ _ => ?_
  refine .mono ((directive_reads (by simpa using more)).along all) ?_
  rintro _ rfl
  exact ⟨rfl, rfl⟩

theorem readAs_label (access : Access) :
    (Tree.declaration place (.accessLabel access)).ReadAs .inClass (nest + 1)
      (Token.ledBy place.leadingComments place.blankLineBefore
        (Token.ofLabel access place.trailingComment)) := by
  refine .ofForm ⟨rfl, rfl⟩ rfl rfl fun all done rest g sure context _ more _ _ => ?_
  refine .mono ((label_reads (by simpa using more)).along all) ?_
  rintro _ rfl
  exact ⟨rfl, rfl⟩

theorem readAs_variable (ident : String) :
    (Tree.declaration place (.integerVariable ident)).ReadAs scope (nest + 2)
      (Token.ledBy place.leadingComments place.blankLineBefore
        (Token.ofVariable ident place.trailingComment)) := by
  refine .ofForm ⟨rfl, rfl⟩ rfl rfl fun all done rest g sure context derived more _ room => ?_
  refine .mono ((variable_reads (by simpa using more) derived room.fits).along all) ?_
  rintro _ rfl
  exact ⟨rfl, rfl⟩

theorem readAs_namespace {members : Trees .declaration} {comments : List String} (isInline : Bool)
    (path : List String) (read : List.Forall₂ (Tree.ReadAs .inNamespace nest) members.toList rows) :
    (Tree.declaration place (.namespaceBlock path isInline members comments)).ReadAs scope (nest + 1)
      (Token.ledBy place.leadingComments place.blankLineBefore
        (Token.ofNamespace isInline path rows.flatten comments place.trailingComment)) := by
  obtain ⟨word, front, head⟩ : ∃ word front, Token.ofNamespaceHead isInline path =
      Token.plain (.keyword word) false :: (front ++ [Token.plain (.punctuator .leftBrace) false]) := by
    cases isInline
    · exact ⟨_, Token.ofPath path, rfl⟩
    · exact ⟨_, _ :: Token.ofPath path, rfl⟩
  have whole : Token.ofNamespace isInline path rows.flatten comments place.trailingComment =
      Token.plain (.keyword word) false :: (front ++ .plain (.punctuator .leftBrace) false ::
        (rows.flatten ++ Token.ledBy comments false [.ending .rightBrace place.trailingComment])) := by
    simp [Token.ofNamespace, head]
  rw [whole]
  refine .ofForm ⟨rfl, rfl⟩ rfl ?_ fun all done rest g sure context derived more same room => ?_
  · simp [Token.ledBy, Token.ending, List.getLast?_cons, List.getLast?_append]
  · let closing : Token :=
      { Token.ending .rightBrace place.trailingComment with leadingComments := comments }
    have ended : Token.ledBy comments false [.ending .rightBrace place.trailingComment] = [closing] := by
      simp [closing, Token.ledBy, Token.ending, Token.plain]
    have behind : all = (done ++ front) ++
        (.plain (.punctuator .leftBrace) false :: (rows.flatten ++ closing :: rest)) := by
      simpa [ended] using same
    have tokens : Token.plain (.keyword word) false :: (front ++ .plain (.punctuator .leftBrace) false ::
        (rows.flatten ++ Token.ledBy comments false [.ending .rightBrace place.trailingComment])) ++ rest =
        Token.ofNamespaceHead isInline path ++ (rows.flatten ++ closing :: rest) := by
      simp [head, ended]
    rw [tokens, ← members.ofList_toList]
    exact namespace_reads isInline path read rfl more derived room behind

theorem readAs_class {members : Trees .declaration} {comments : List String} {ident : String}
    (key : ClassKey) (isFinal : Bool)
    (read : List.Forall₂ (Tree.ReadAs .inClass nest) members.toList rows) :
    (Tree.declaration place (.plainClass key ident isFinal members comments)).ReadAs scope (nest + 1)
      (Token.ledBy place.leadingComments place.blankLineBefore
        (Token.ofClass key ident isFinal rows.flatten comments place.trailingComment)) := by
  let closing : Token := { Token.plain (.punctuator .rightBrace) true with leadingComments := comments }
  let front : List Token := Token.plain (.identifier ident) false ::
    (if isFinal then [Token.plain (.identifier "final") false] else [])
  have whole : Token.ofClass key ident isFinal rows.flatten comments place.trailingComment =
      Token.plain (.keyword key.keyword) false :: (front ++ .plain (.punctuator .leftBrace) false ::
        (rows.flatten ++ [closing, .ending .semicolon place.trailingComment])) := by
    simp [Token.ofClass, Token.ofClassHead, front, closing, Token.ledBy, Token.plain]
  rw [whole]
  refine .ofForm ⟨rfl, rfl⟩ rfl ?_ fun all done rest g sure context derived more same room => ?_
  · simp [Token.ending, List.getLast?_cons, List.getLast?_append]
  · have behind : all = (done ++ front) ++ (.plain (.punctuator .leftBrace) false ::
        (rows.flatten ++ closing :: .ending .semicolon place.trailingComment :: rest)) := by
      simpa using same
    have tokens : Token.plain (.keyword key.keyword) false ::
        (front ++ .plain (.punctuator .leftBrace) false ::
          (rows.flatten ++ [closing, .ending .semicolon place.trailingComment])) ++ rest =
        Token.ofClassHead key ident isFinal ++
          (rows.flatten ++ closing :: .ending .semicolon place.trailingComment :: rest) := by
      simp [Token.ofClassHead, front]
    rw [tokens, ← members.ofList_toList]
    exact class_reads key isFinal read rfl rfl more derived room behind

end

end

end CppSyntax
