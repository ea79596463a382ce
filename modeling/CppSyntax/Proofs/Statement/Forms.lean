import CppSyntax.Proofs.Statement.Block
import CppSyntax.Proofs.Statement.Conditions

/-!
Statements that hold no other statements. The first token of such a statement tells its form.
-/

namespace CppSyntax

open CppSyntax.Parser Grammar

section

variable {nest : Nat} {glyphs rest : List Glyph}

/-- A statement whose form is known from its first tokens. -/
theorem ReadsErased.statement (form : Grammar Parser → Parser (Tree .statementForm))
    {shape : Tree .statementForm}
    (chosen : ∀ (g : Grammar Parser) (state : State), state.glyphs = glyphs →
      g.statementForm? state = some (form g))
    (reads : ReadsErased form nest glyphs shape rest) :
    ReadsErased (fun g => g.statement) (nest + 1) glyphs (.statement .erased shape) rest := by
  intro g derived sure context room
  refine .symbol derived .statement fun inner innerDerived => .nested room.fits ?_
  refine .byPlace fun state _ place => ?_
  rw [chosen inner state place]
  refine .byPlace fun start _ _ => ?_
  refine (reads inner innerDerived sure _ room.deeper).bind fun found same => ?_
  have placed (place : Placement) :
      (Tree.statement place found).erase = .statement .erased shape := same ▸ rfl
  cases found.endsInStatement with
  | true => exact .pure (placed _)
  | false => exact .byPlace fun _ _ _ => .pure (placed _)

/-- A word with the mark behind it that ends the statement. -/
private theorem wordForm_reads {form : Tree .statementForm} {word : Keyword} {mark : Punctuator}
    {purpose : String} {joint closed : Bool} (more : rest ≠ []) (plain : form.erase = form) :
    ReadsErased (fun _ => wordForm form mark purpose) nest
      (⟨.keyword word, joint⟩ :: ⟨.punctuator mark, closed⟩ :: rest) form rest := by
  intro g derived sure context room
  refine Reads.quietly ?_
  refine (Reads.advance (List.cons_ne_nil _ _) (by simp)).bind fun _ _ => ?_
  exact (Reads.expect more rfl).bind fun _ _ => .pure plain

theorem chosen_of_word {form : Grammar Parser → Parser (Tree .statementForm)} {word : Keyword}
    {joint : Bool} (known : ∀ g : Grammar Parser, g.statementKeyword? word = some (form g)) (g : Grammar Parser)
    (state : State) (place : state.glyphs = ⟨.keyword word, joint⟩ :: glyphs) :
    g.statementForm? state = some (form g) := by
  rw [statementForm?, State.kind_of_glyphs place]
  exact known g

section

variable {joint closed : Bool}

theorem ReadsErased.breaking (more : rest ≠ []) :
    ReadsErased (fun g => g.statement) 1
      (⟨.keyword .kwBreak, joint⟩ :: ⟨.punctuator .semicolon, closed⟩ :: rest)
      (.statement .erased .breakStatement) rest :=
  .statement _ (chosen_of_word fun _ => rfl) (wordForm_reads more rfl)

theorem ReadsErased.continuing (more : rest ≠ []) :
    ReadsErased (fun g => g.statement) 1
      (⟨.keyword .kwContinue, joint⟩ :: ⟨.punctuator .semicolon, closed⟩ :: rest)
      (.statement .erased .continueStatement) rest :=
  .statement _ (chosen_of_word fun _ => rfl) (wordForm_reads more rfl)

theorem ReadsErased.defaultLabel (more : rest ≠ []) :
    ReadsErased (fun g => g.statement) 1
      (⟨.keyword .kwDefault, joint⟩ :: ⟨.punctuator .colon, closed⟩ :: rest)
      (.statement .erased .defaultLabel) rest :=
  .statement _ (chosen_of_word fun _ => rfl) (wordForm_reads more rfl)

theorem ReadsErased.goto {target : String} {named : Bool} (more : rest ≠ []) :
    ReadsErased (fun g => g.statement) 1 (⟨.keyword .kwGoto, joint⟩ ::
        ⟨.identifier target, named⟩ :: ⟨.punctuator .semicolon, closed⟩ :: rest)
      (.statement .erased (.goto target)) rest := by
  refine .statement _ (chosen_of_word fun _ => rfl) fun g derived sure context room => ?_
  refine Reads.quietly ?_
  refine (Reads.advance (List.cons_ne_nil _ _) (by simp)).bind fun _ _ => ?_
  refine (Reads.expectIdentifier (List.cons_ne_nil _ _) rfl).andThen ?_
  exact (Reads.expect more rfl).bind fun _ _ => .pure rfl

theorem ReadsErased.label {ident : String} (more : rest ≠ []) :
    ReadsErased (fun g => g.statement) 1
      (⟨.identifier ident, joint⟩ :: ⟨.punctuator .colon, closed⟩ :: rest)
      (.statement .erased (.namedLabel ident)) rest := by
  refine .statement (fun _ => do advanceBy 2; return .namedLabel ident) (fun g state place => ?_)
    fun g derived sure context room => Reads.quietly ?_
  · rw [statementForm?, State.kind_of_glyphs place]
    simp [State.isAhead, State.ahead_one_of_glyphs place]
  · have passed : (advanceBy 2 : Parser _).Reads context sure
        ([⟨.identifier ident, joint⟩, ⟨.punctuator .colon, closed⟩] ++ rest) (fun _ => True) rest :=
      .advanceBy more (by simp)
    exact passed.bind fun _ _ => .pure rfl

theorem ReadsErased.nothing (more : rest ≠ []) :
    ReadsErased (fun g => g.statement) 1 (⟨.punctuator .semicolon, joint⟩ :: rest)
      (.statement .erased .emptyStatement) rest := by
  refine .statement (fun _ => do advance; return .emptyStatement) (fun g state place => ?_)
    fun g derived sure context room => Reads.quietly ?_
  · rw [statementForm?, State.kind_of_glyphs place]
  · exact (Reads.advance more (by simp)).bind fun _ _ => .pure rfl

theorem ReadsErased.returningNothing (more : rest ≠ []) :
    ReadsErased (fun g => g.statement) 1
      (⟨.keyword .kwReturn, joint⟩ :: ⟨.punctuator .semicolon, closed⟩ :: rest)
      (.statement .erased (.returnStatement .absent)) rest := by
  refine .statement _ (chosen_of_word fun _ => rfl) fun g derived sure context room => ?_
  refine Reads.quietly ?_
  refine (Reads.advance (List.cons_ne_nil _ _) (by simp)).bind fun _ _ => .byPlace fun state known => ?_
  have nothing : state.isAt .semicolon = true := by
    simp [State.isAt_of_glyphs known]
  rw [nothing]
  exact (Reads.expect more rfl).bind fun _ _ => .pure rfl

theorem ReadsErased.compound {body : Tree .block} {opening : Glyph}
    (opens : opening.kind = .punctuator .leftBrace)
    (block : ReadsErased (fun g => g.block) nest (opening :: glyphs) body rest) :
    ReadsErased (fun g => g.statement) (nest + 1) (opening :: glyphs)
      (.statement .erased (.compound body)) rest := by
  refine .statement (fun g => Tree.compound <$> g.block) (fun g state place => ?_)
    fun g derived sure context room => ?_
  · rw [statementForm?, State.kind_of_glyphs place, opens]
  · exact (block g derived sure context room).bind fun found same => .pure (same ▸ rfl)

theorem ReadsErased.caseLabel {digits : String} {spaced : Bool} (more : rest ≠ []) :
    ReadsErased (fun g => g.statement) 2 (⟨.keyword .kwCase, joint⟩ ::
        ⟨.integer digits, spaced⟩ :: ⟨.punctuator .colon, closed⟩ :: rest)
      (.statement .erased (.caseLabel (.integer digits))) rest := by
  refine .statement _ (chosen_of_word fun _ => rfl) fun g derived sure context room => ?_
  refine Reads.quietly ?_
  have number : ReadsAs Precedence.primary 0 (.integer digits)
      (⟨.integer digits, spaced⟩ :: ⟨.punctuator .colon, closed⟩ :: rest)
      (⟨.punctuator .colon, closed⟩ :: rest) := .integer (List.cons_ne_nil _ _)
  have loose : tightness (⟨.punctuator .colon, closed⟩ :: rest) < Precedence.conditional := by
    rw [tightness_ends rfl rfl]
    decide
  refine (Reads.advance (List.cons_ne_nil _ _) (by simp)).bind fun _ _ => ?_
  refine (number.conditional (by decide) loose g derived sure context room).andThen ?_
  exact (Reads.expect more rfl).bind fun _ _ => .pure rfl

theorem ReadsErased.evaluating {digits : String} (more : rest ≠ []) :
    ReadsErased (fun g => g.statement) 2
      (⟨.integer digits, joint⟩ :: ⟨.punctuator .semicolon, closed⟩ :: rest)
      (.integerStatement .erased digits) rest := by
  intro g derived sure context room
  refine .symbol derived .statement fun inner innerDerived => .nested room.fits ?_
  refine .byPlace fun state _ place => ?_
  have formless : inner.statementForm? state = none := by
    rw [statementForm?, State.kind_of_glyphs place]
  rw [formless]
  exact (declarationOrExpression_reads more innerDerived room.deeper).quietly

end

/-- A mark with which no expression starts is not where an expression starts. -/
theorem StartsExpression.isAt {state : State} {mark : Punctuator}
    (starts : StartsExpression glyphs) (known : state.glyphs = glyphs)
    (other : (TokenKind.punctuator mark).startsExpression = false) : state.isAt mark = false := by
  obtain ⟨first, tail, rfl, _⟩ := id starts
  simpa [State.isAt_of_glyphs known] using starts.ne other

private theorem expressionOrBraced_reads {value : Expr} {context : Context} {sure : Prop}
    {g : Grammar Parser} (starts : StartsExpression glyphs)
    (reads : g.expression.Reads context sure glyphs (· = value) rest) :
    g.expressionOrBraced.Reads context sure glyphs (· = value) rest := by
  refine .byPlace fun state known => ?_
  rw [starts.isAt known rfl]
  exact reads

/-- An expression between `return` and a semicolon. -/
theorem ReadsErased.returning {value : Expr} {returned closed : Bool} (more : rest ≠ [])
    (starts : StartsExpression glyphs)
    (reads : RuleReads (fun g => g.expression) nest glyphs (· = value)
      (⟨.punctuator .semicolon, closed⟩ :: rest)) :
    ReadsErased (fun g => g.statement) (nest + 1) (⟨.keyword .kwReturn, returned⟩ :: glyphs)
      (.statement .erased (.returnStatement (.present value.erase))) rest := by
  obtain ⟨first, tail, rfl, _⟩ := id starts
  refine ReadsErased.statement (fun g => g.returnForm) (fun g state known => ?_) ?_
  · rw [statementForm?, State.kind_of_glyphs known]
    rfl
  · intro g derived sure context room
    have given : (some <$> g.expressionOrBraced : Parser (Option Expr)).Reads context sure
        (first :: tail) (· = some value) (⟨.punctuator .semicolon, closed⟩ :: rest) :=
      (expressionOrBraced_reads starts (reads g derived sure context room)).andThen (.pure rfl)
    have form : g.returnForm.Reads context sure (⟨.keyword .kwReturn, returned⟩ :: first :: tail)
        (·.erase = .returnStatement (.present value.erase)) rest := by
      refine (Reads.advance (List.cons_ne_nil _ _) (by simp)).bind fun _ _ => ?_
      refine .byPlace fun state known => ?_
      rw [starts.isAt known rfl]
      exact given.andThen ((Reads.expect more rfl).bind fun _ _ => .pure rfl)
    exact form.quietly

end

end CppSyntax
