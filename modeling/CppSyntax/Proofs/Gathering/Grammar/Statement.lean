import CppSyntax.Proofs.Gathering.Grammar.Declaration
import CppSyntax.Grammar.Statement

/-!
Statements. One that ends in a statement of its own leaves the comment behind it to that one, and the
placement of a declaration goes over to the statement made of it.
-/

set_option synthInstance.maxSize 4096

namespace CppSyntax

open CppSyntax.Parser

theorem Tree.stretch_statementForm (form : Tree .statementForm) :
    form.stretch = if form.endsInStatement then .behind else .inside := by
  cases form <;> rfl

namespace Grammar

variable {g : Grammar Parser} [gathering : g.Gathering]

/-- A declaration can be counted as a level or not, as its statement does. -/
theorem declarationStatement_remade (inner : Declaration) :
    Remade (piecesIn inner) (Tree.declarationStatement inner).pieces := by
  unfold Tree.pieces
  dsimp only
  split
  · exact .discounted _
  · exact .refl _

instance declarationStatement_gathers : Gathers [] .whole headersIn g.declarationStatement := by
  refine .ofAlone fun {context state reached value} ended answered => ?_
  obtain ⟨found, behind, read, answered⟩ := Parser.done_of_bind
    (p := g.declaration .inBlock) answered
  cases found with
  | none =>
    cases answered
    have token := gathering.stray .inBlock ended read
    have form : Gathered .inside context.depth state reached
        (Tree.statement (.bare state.current.location) .emptyStatement).pieces :=
      token.remade (.built Tree.emptyStatement rfl)
    exact form.placed (.inl rfl) rfl Placement.spans_bare
  | some inner =>
    cases answered
    have rows : Rows (g.declaration .inBlock) := inferInstance
    have declared : Gathered .whole context.depth state reached (piecesIn inner) := by
      simpa using rows.alone ended read
    exact (declared.remade (declarationStatement_remade inner)).restated

omit gathering in
theorem expressionStatement_spans (start : State) :
    g.expressionStatement.Ensures (· = start) fun inner reached => inner.Spans start reached := by
  refine .bind (startPlacement_ensures start) fun place => .assume fun same => ?_
  refine .bind .anything fun value => .bind .anything fun _ => .bind trailingComment_ensures fun trailing => ?_
  refine .pure ?_
  rintro reached rfl
  exact ⟨_, rfl, same ▸ Placement.spans_trailing⟩

instance expressionStatement_gathers : Gathers [] .whole headersIn g.expressionStatement := by
  refine .placed (fun inner => inner) ?_ expressionStatement_spans
  unfold Grammar.expressionStatement
  infer_instance

instance eitherStatement_gathers : Gathers [] .whole headersIn g.eitherStatement := by
  have declared : Gathers [] .whole headersIn g.declarationStatement := inferInstance
  have evaluated : Gathers [] .whole headersIn g.expressionStatement := inferInstance
  have later (found : Option (Except SyntaxError Statement)) : GathersOf (fun _ => .whole) headersIn .whole [] (do
      match ← speculate g.expressionStatement, found with
      | .ok statement, _ => return statement
      | .error error, some (.error earlier) => failWith (earlier.further error)
      | .error error, _ => failWith error : Parser Statement) := by
    refine .speculateThen (evaluated.behind .whole) (fun value => ?_) fun error => ?_
    · infer_instance
    · rcases found with _ | (earlier | statement) <;> infer_instance
  unfold Grammar.eitherStatement
  refine .closed .whole (.nextPlain fun ahead => ?_)
  dsimp only
  split
  · rw [Parser.map_bind]
    refine .speculateThen (declared.behind .whole) (fun value => ?_) fun error => ?_
    · infer_instance
    · exact later (some (.error error))
  · exact later none

instance declarationOrExpression_gathers : Gathers [] .whole headersIn g.declarationOrExpression := by
  unfold Grammar.declarationOrExpression
  refine .closed .whole (.byPlace fun state => ?_)
  split <;> infer_instance

instance condition_rows : Rows g.condition := by
  unfold Grammar.condition
  exact .closed .whole inferInstance

/-- A condition and what precedes it. -/
@[reducible] def headed (found : Option Statement × Tree .condition) : List Piece :=
  headersIn found.1 ++ piecesIn found.2

instance initAndCondition_gathers : Gathers [] .whole headed g.initAndCondition := by
  unfold Grammar.initAndCondition
  exact .closed .whole inferInstance

instance (priority := 10001) {after : α → Stretch} {pieces : α → List Piece}
    {stretch reached : Stretch} {given rest : List Piece}
    {p : Parser (Option Statement × Tree .condition)}
    {f : Option Statement × Tree .condition → Parser α} [first : First stretch given reached rest headed p]
    [later : ∀ init test,
      GathersOf after pieces reached (rest ++ headersIn init ++ piecesIn test) (f (init, test))] :
    GathersOf after pieces stretch given (p >>= f) :=
  .next fun (init, test) => by simpa using later init test

instance : Forms g.ifForm := by
  unfold Grammar.ifForm
  infer_instance

instance : Forms g.whileForm := by
  unfold Grammar.whileForm
  infer_instance

theorem doForm_gathers {place : State} (inside : place.atEnd = false) :
    GathersAt place Tree.stretch piecesIn .fresh [] g.doForm := by
  unfold Grammar.doForm
  exact .advance inside inferInstance

instance : Forms g.switchForm := by
  unfold Grammar.switchForm
  infer_instance

/-- The pieces of what stands between the parentheses of a loop. -/
@[reducible] def LoopHeader.pieces : LoopHeader → List Piece
  | .counted init test step => headersIn init ++ piecesIn test ++ piecesIn step
  | .ranged init element range => headersIn init ++ headersIn element ++ piecesIn range

instance countedHeader_gathers (init : Option Statement) :
    Gathers (headersIn init) .whole LoopHeader.pieces (g.countedHeader init) := by
  unfold Grammar.countedHeader
  exact ⟨fun stretch _ => inferInstance⟩

instance rangedHeader_gathers (init : Option Statement) :
    Gathers (headersIn init) .whole LoopHeader.pieces (g.rangedHeader init) := by
  unfold Grammar.rangedHeader
  exact ⟨fun stretch _ => inferInstance⟩

instance loopHeader_gathers : Gathers [] .whole LoopHeader.pieces g.loopHeader := by
  have ranged (init : Option Statement) := (inferInstance : Gathers (headersIn init) .whole
    LoopHeader.pieces (g.rangedHeader init)).behind .whole
  unfold Grammar.loopHeader
  refine .closed .whole (.accept inferInstance (.attemptThen (ranged none) (fun header => ?_) ?_))
  · infer_instance
  refine .next fun init => .attemptThen (ranged (some init)) (fun header => ?_) ?_
  · infer_instance
  · dsimp only
    infer_instance

instance forForm_forms : Forms g.forForm := by
  unfold Grammar.forForm
  refine .nextPlain fun _ => .nextPlain fun _ => .next fun header => .nextPlain fun _ => ?_
  refine .next fun body => ?_
  cases header <;> infer_instance

instance handlerParameter_collects : Collects g.handlerParameter := by
  unfold Grammar.handlerParameter
  exact .closed .fresh inferInstance

instance handler_finishes : Finishes g.handler := by
  unfold Grammar.handler
  exact .closed .fresh inferInstance

instance handlerStep_gathers (handlers : List (Tree .handler)) :
    Gathers (piecesIn handlers) .fresh piecesIn (g.handlerStep handlers) := by
  unfold Grammar.handlerStep
  exact .kept fun _ => inferInstance

instance tryForm_finishes : Finishes g.tryForm := by
  unfold Grammar.tryForm
  exact .closed .fresh inferInstance

instance returnForm_finishes : Finishes g.returnForm := by
  unfold Grammar.returnForm
  exact .closed .fresh inferInstance

instance gotoForm_finishes : Finishes (gotoForm : Parser (Tree .statementForm)) := by
  unfold Grammar.gotoForm
  exact .closed .fresh inferInstance

instance caseForm_finishes : Finishes g.caseForm := by
  unfold Grammar.caseForm
  exact .closed .fresh inferInstance

instance wordForm_finishes {form : Tree .statementForm} [Makes [] ([] ++ piecesIn form)] {close : Punctuator}
    {purpose : String} : Finishes (wordForm form close purpose : Parser (Tree .statementForm)) := by
  unfold Grammar.wordForm
  exact .closed .fresh inferInstance

theorem statementKeyword?_gathers {word : Keyword} {form : Parser (Tree .statementForm)}
    (found : g.statementKeyword? word = some form) {place : State} (inside : place.atEnd = false) :
    GathersAt place Tree.stretch piecesIn .fresh [] form := by
  unfold Grammar.statementKeyword? at found
  split at found
  case h_3 =>
    cases found
    exact doForm_gathers inside
  case h_13 => cases found
  all_goals
    cases found
    exact .anywhere inferInstance

/-- A form that is known from its first tokens, unless it is a directive. -/
theorem statementForm?_gathers {place : State} {form : Parser (Tree .statementForm)}
    (found : g.statementForm? place = some form) (plain : ∀ text, place.kind ≠ .directive text) :
    GathersAt place Tree.stretch piecesIn .fresh [] form := by
  unfold Grammar.statementForm? at found
  split at found
  · exact absurd ‹_› (plain _)
  · cases found
    exact .anywhere inferInstance
  · rename_i known
    cases found
    exact .advance (State.inside_of_kind known (by simp)) inferInstance
  · rename_i known
    exact statementKeyword?_gathers found (State.inside_of_kind known (by simp))
  · rename_i known
    split at found
    · cases found
      exact .advanceBy (State.inside_of_kind known (by simp)) inferInstance
    · cases found
  · cases found

/-- A directive is a declaration that becomes a statement. -/
theorem directive_gathers {depth : Nat} {state : State} {text : String} (ended : state.Ended)
    (known : state.kind = .directive text) : Gathered .whole depth state state.next
      [.part (Tree.declaration { state.placement with trailingComment := state.next.trailing }
        (.directive text)).asStatement.node] := by
  have token : Gathered .inside depth state state.next [] :=
    (Gathered.nothing ended).token (State.inside_of_kind known (by simp))
  have inner : Gathered .inside depth state state.next
      (Tree.declaration { state.placement with trailingComment := state.next.trailing }
        (.directive text)).pieces := token.remade (.built (.directive text) rfl)
  exact .restated (inner.placed (.inl rfl) rfl Placement.spans_trailing)

/-- A statement is an item. -/
theorem statementRule_gathers {context : Context} {state reached : State} {statement : Statement}
    (ended : state.Ended) (answered : g.statementRule context state = .done statement reached) :
    context.depth < nestingLimit ∧
      Gathered .whole (context.depth + 1) state reached [.part statement.node] := by
  obtain ⟨low, answered⟩ := Parser.done_of_nested answered
  refine ⟨low, ?_⟩
  obtain ⟨_, _, ⟨⟩, answered⟩ := Parser.done_of_bind answered
  by_cases directive : ∃ text, state.kind = .directive text
  · obtain ⟨text, known⟩ := directive
    simp only [statementForm?, known] at answered
    cases answered
    exact directive_gathers ended known
  cases found : g.statementForm? state with
  | none =>
    rw [found] at answered
    have either : Gathers [] .whole headersIn g.declarationOrExpression := inferInstance
    exact either.alone ended answered
  | some form =>
    rw [found] at answered
    obtain ⟨_, _, ⟨⟩, answered⟩ := Parser.done_of_bind answered
    obtain ⟨form, behind, read, answered⟩ := Parser.done_of_bind answered
    obtain ⟨trailing, ⟨⟩, spans⟩ := Parser.done_of_ownTrailing state answered
    have nothing : Gathered .fresh (context.depth + 1) state state ([] ++ []) := .nothing ended
    have inner : Gathered form.stretch (context.depth + 1) state reached
        (Tree.statement { state.placement with trailingComment := trailing } form).pieces :=
      (statementForm?_gathers found (not_exists.mp directive)).gathered nothing read
    exact inner.placed form.stretch_begun rfl (form.stretch_statementForm ▸ spans)

instance statementRule_rows : Rows g.statementRule := by
  refine .ofAlone fun {context state reached statement} ended answered => ?_
  obtain ⟨low, item⟩ := statementRule_gathers ended answered
  cases statement with
  | statement place form => exact .level low item

end Grammar

end CppSyntax
