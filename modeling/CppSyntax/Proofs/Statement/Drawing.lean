import CppSyntax.Proofs.Statement.Texts

/-!
Statements as they are drawn. What is drawn of a statement whose expressions are numbers is its text
around what is drawn of the statements in it, so it is read like them.
-/

namespace CppSyntax

open Doc Render

theorem continued_text (closed : Bool) (word : String) (layout : Layout) :
    ∃ gap, IsGap gap ∧ continued closed word layout = gap ++ word := by
  have onNextLine : IsGap ("\n" ++ Doc.margin layout) := .line layout
  cases closed with
  | false => exact ⟨_, onNextLine, rfl⟩
  | true =>
    unfold continued
    cases layout.options.braceStyle with
    | sameLine => exact ⟨" ", .space, rfl⟩
    | nextLine => exact ⟨_, onNextLine, rfl⟩

/-- A number before a condition, on its own or left out. -/
inductive Tree.IsNumberBefore : Part .statement → Option String → Prop where
  | absent : IsNumberBefore .absent none
  | present (place : Placement) {digits : String} (decimal : isDecimal digits = true) :
      IsNumberBefore (.present (.integerStatement place digits)) (some digits)

namespace Tree.IsNumberBefore

variable {init : Part .statement} {digits : Option String}

theorem decimals (before : IsNumberBefore init digits) :
    ∀ number ∈ digits, isDecimal number = true := by
  intro number member
  cases before with
  | absent => cases member
  | present place decimal =>
    cases member
    exact decimal

theorem erase (before : IsNumberBefore init digits) :
    init.erase = .ofOption (digits.map (.integerStatement .erased)) := by
  cases before with
  | absent => rfl
  | present place decimal => rfl

/-- No number is read as a declaration, so it stands without parentheses. -/
theorem integerStatement_text (place : Placement) {digits : String}
    (decimal : isDecimal digits = true) (layout : Layout) :
    (Tree.integerStatement place digits).drawing layout = digits ++ ";" := by
  have noType : startsWith (fun c => Text.isAlphabetic c || c == '_' || c == ':') digits = false := by
    simp only [isDecimal, Bool.and_eq_true, List.all_eq_true] at decimal
    cases known : digits.toList with
    | nil => simp [known] at decimal
    | cons c tail =>
      have digit : c.isDigit = true := decimal.2 c (by simp [known])
      have noLetter := Text.isAlphabetic_eq_false_of_isDigit digit
      have noUnderscore : c ≠ '_' := by
        rintro rfl
        cases digit
      have noColon : c ≠ ':' := by
        rintro rfl
        cases digit
      simp [startsWith, known, noLetter, noUnderscore, noColon]
  show (if (startsWith _ digits && _) = true then _ else digits ++ ";") = _
  rw [noType]
  rfl

theorem init_text (before : IsNumberBefore init digits) (layout : Layout) :
    initStatement (init.drawn.map (·.drawing)) layout = initText digits := by
  cases before with
  | absent => rfl
  | present place decimal =>
    show (Tree.integerStatement place _).drawing layout ++ " " = _
    rw [integerStatement_text place decimal, initText, String.append_assoc]
    rfl

theorem test_text (before : IsNumberBefore init digits) (number : String) (layout : Layout) :
    (initStatement (init.drawn.map (·.drawing)) ++
      (Tree.integerTest number).drawing).parenthesized layout = testText digits number := by
  show "(" ++ (initStatement _ layout ++ number) ++ ")" = _
  rw [before.init_text]
  simp [testText, String.append_assoc]

end Tree.IsNumberBefore

/-- A handler of everything. -/
def Tree.handlerOf (statements : Trees .statement) : Tree .handler :=
  .handler .absent (.block statements [])

theorem Tree.StatedAs.mono {nest more : Nat} {body expected : Statement}
    (stated : body.StatedAs nest expected) (le : nest ≤ more) : body.StatedAs more expected := by
  obtain ⟨place, form, shape, same, reads, bare, written⟩ := stated
  exact ⟨place, form, shape, same, reads, bare, fun layout => (written layout).mono le⟩

namespace Tree.Stated

variable {nest : Nat} {digits : String} {body expected : Statement}

theorem mono {more : Nat} {form shape : Tree .statementForm} (stated : Stated nest form shape)
    (le : nest ≤ more) : Stated more form shape := by
  intro layout
  exact (stated layout).mono le

theorem evaluating (decimal : isDecimal digits = true) :
    Stated 2 (.expressionStatement (.integer digits)) (.expressionStatement (.integer digits)) := by
  intro layout
  have text := IsNumberBefore.integerStatement_text .erased decimal layout
  show IsStated 2 _ _ ((Tree.integerStatement .erased digits).drawing layout).toList
  rw [text]
  exact .evaluating decimal

theorem breaking : Stated 1 .breakStatement .breakStatement := by
  intro layout
  exact .breaking

theorem continuing : Stated 1 .continueStatement .continueStatement := by
  intro layout
  exact .continuing

theorem nothing : Stated 1 .emptyStatement .emptyStatement := by
  intro layout
  exact .nothing

theorem returningNothing : Stated 1 (.returnStatement .absent) (.returnStatement .absent) := by
  intro layout
  exact .returningNothing

theorem defaultLabel : Stated 1 .defaultLabel .defaultLabel := by
  intro layout
  exact .defaultLabel

theorem goto {target : String} (valid : isIdentifier target = true) :
    Stated 1 (.goto target) (.goto target) := by
  intro layout
  exact .goto valid

theorem label {ident : String} (valid : isIdentifier ident = true) :
    Stated 1 (.namedLabel ident) (.namedLabel ident) := by
  intro layout
  exact .label valid

theorem caseLabel (decimal : isDecimal digits = true) :
    Stated 2 (.caseLabel (.integer digits)) (.caseLabel (.integer digits)) := by
  intro layout
  exact .caseLabel decimal

theorem repeating (decimal : isDecimal digits = true) (inner : body.StatedAs (nest + 1) expected) :
    Stated (nest + 2) (.whileStatement (.integerTest digits) body)
      (.whileStatement (.integerTest digits) expected) := by
  intro layout
  have whole := IsStated.repeating decimal (inner.sub layout).1
  show IsStated _ body.endsInOpenIf _ ("while " ++ ("(" ++ digits ++ ")") ++
    subStatement ⟨body, body.drawing⟩ layout).toList
  simpa using whole

theorem doing (decimal : isDecimal digits = true) (inner : body.StatedAs (nest + 1) expected) :
    Stated (nest + 2) (.doStatement body (.integer digits))
      (.doStatement expected (.integer digits)) := by
  intro layout
  obtain ⟨reads, apart⟩ := inner.sub layout
  obtain ⟨gap, isGap, text⟩ := continued_text (endsInBrace body) "while (" layout
  have whole : IsStated (nest + 2) false _ _ := IsStated.doing decimal isGap reads apart
  show IsStated _ false _ ("do" ++ subStatement ⟨body, body.drawing⟩ layout ++
    continued (endsInBrace body) "while (" layout ++ digits ++ ");").toList
  rw [text]
  simpa using whole

theorem switching {init : Part .statement} {number : Option String}
    (before : IsNumberBefore init number) (decimal : isDecimal digits = true)
    (inner : body.StatedAs (nest + 1) expected) :
    Stated (nest + 2) (.switchStatement init (.integerTest digits) body)
      (.switchStatement init.erase (.integerTest digits) expected) := by
  intro layout
  have whole := IsStated.switching before.decimals decimal (inner.sub layout).1
  have test := before.test_text digits layout
  rw [before.erase]
  show IsStated _ body.endsInOpenIf _ ("switch " ++ (initStatement (init.drawn.map (·.drawing)) ++
    (Tree.integerTest digits).drawing).parenthesized layout ++
      subStatement ⟨body, body.drawing⟩ layout).toList
  rw [test]
  simpa using whole

theorem counting {init : Part .statement} {start test step : Option String}
    (before : IsNumberBefore init start) (decimalTest : ∀ digits ∈ test, isDecimal digits = true)
    (decimalStep : ∀ digits ∈ step, isDecimal digits = true)
    (inner : body.StatedAs (nest + 1) expected) :
    Stated (nest + 2)
      (.forStatement init (.ofOption (test.map .integerTest)) (.ofOption (step.map .integer)) body)
      (.forStatement init.erase (.ofOption (test.map .integerTest)) (.ofOption (step.map .integer))
        expected) := by
  intro layout
  have whole := IsStated.counting before.decimals decimalTest decimalStep (inner.sub layout).1
  have first : (init.drawn.map (·.drawing)).getD (text ";") layout =
      start.elim "" ("" ++ ·) ++ ";" := by
    cases before with
    | absent => rfl
    | present place decimal =>
      show (Tree.integerStatement place _).drawing layout = _
      rw [IsNumberBefore.integerStatement_text place decimal]
      simp
  have second : spacedBefore ((Part.ofOption (test.map Tree.integerTest)).drawn.map (·.drawing))
      layout = test.elim "" (" " ++ ·) := by
    cases test <;> rfl
  have third : spacedBefore ((Part.ofOption (step.map Tree.integer)).drawn.map (·.anyExpression))
      layout = step.elim "" (" " ++ ·) := by
    cases step <;> rfl
  rw [before.erase]
  show IsStated _ body.endsInOpenIf _ ("for (" ++ (init.drawn.map (·.drawing)).getD (text ";") layout ++
    spacedBefore ((Part.ofOption (test.map Tree.integerTest)).drawn.map (·.drawing)) layout ++ ";" ++
    spacedBefore ((Part.ofOption (step.map Tree.integer)).drawn.map (·.anyExpression)) layout ++ ")" ++
    subStatement ⟨body, body.drawing⟩ layout).toList
  rw [first, second, third]
  simpa using whole

section

variable {isConstexpr : Bool} {init : Part .statement} {number : Option String}

theorem branching (before : IsNumberBefore init number) (decimal : isDecimal digits = true)
    (inner : body.StatedAs (nest + 1) expected) :
    Stated (nest + 2) (.ifStatement isConstexpr init (.integerTest digits) body .absent)
      (.ifStatement isConstexpr init.erase (.integerTest digits) expected .absent) := by
  intro layout
  have whole := IsStated.branching isConstexpr before.decimals decimal (inner.sub layout).1
  have test := before.test_text digits layout
  rw [before.erase]
  show IsStated _ true _ ("if " ++ (if isConstexpr then "constexpr " else "") ++
    (initStatement (init.drawn.map (·.drawing)) ++ (Tree.integerTest digits).drawing).parenthesized
      layout ++ subStatement ⟨body, body.drawing⟩ layout ++ "").toList
  rw [test]
  simpa [headText] using whole

/-- The first branch stands in braces if the `else` would go to an `if` in it otherwise. -/
theorem branchingBoth {elseBranch other : Statement} (before : IsNumberBefore init number)
    (decimal : isDecimal digits = true) (first : body.StatedAs nest expected)
    (second : elseBranch.StatedAs (nest + 1) other) :
    Stated (nest + 2) (.ifStatement isConstexpr init (.integerTest digits) body (.present elseBranch))
      (.ifStatement isConstexpr init.erase (.integerTest digits)
        (if body.endsInOpenIf then expected.inBraces else expected) (.present other)) := by
  intro layout
  obtain ⟨gap, isGap, continues⟩ :=
    continued_text (body.endsInOpenIf || endsInBrace body) "else" layout
  have branch : IsStated (nest + 1) false (if body.endsInOpenIf then expected.inBraces else expected)
      (thenPart body.endsInOpenIf ⟨body, body.drawing⟩ layout).toList := by
    cases openIf : body.endsInOpenIf with
    | true => exact (first.inBraces layout).1
    | false =>
      have alone := (first.sub layout).1
      rw [openIf] at alone
      exact alone.mono (Nat.le_succ nest)
  obtain ⟨reads, apart⟩ := second.other layout
  have whole := IsStated.branchingBoth isConstexpr before.decimals decimal isGap branch reads apart
  have test := before.test_text digits layout
  rw [before.erase]
  show IsStated _ elseBranch.endsInOpenIf _ ("if " ++ (if isConstexpr then "constexpr " else "") ++
    (initStatement (init.drawn.map (·.drawing)) ++ (Tree.integerTest digits).drawing).parenthesized
      layout ++ thenPart body.endsInOpenIf ⟨body, body.drawing⟩ layout ++
    (continued (body.endsInOpenIf || endsInBrace body) "else" layout ++
      elsePart ⟨elseBranch, elseBranch.drawing⟩ layout)).toList
  rw [test, continues]
  simpa [headText] using whole

end

section

variable {expect : Statement → Statement}

theorem compound {statements : Trees .statement}
    (stated : ∀ inner ∈ statements.toList, inner.StatedAs nest (expect inner)) :
    Stated (nest + 1) (.compound (.block statements []))
      (.compound (.block (.ofList (statements.toList.map expect)) [])) := by
  intro layout
  exact (block_written stated layout).compound

private theorem handlers_written {bodies : List (Trees .statement)} (layout : Layout)
    (stated : ∀ statements ∈ bodies, ∀ inner ∈ statements.toList, inner.StatedAs nest (expect inner)) :
    IsHandlers nest
      (bodies.map fun statements => .block (.ofList (statements.toList.map expect)) [])
      (concat ((Trees.ofList (bodies.map handlerOf)).drawn.map (·.drawing)) layout).toList := by
  induction bodies with
  | nil => exact .nil
  | cons statements bodies ih =>
    have block := block_written (stated statements (List.mem_cons_self ..)) layout
    have later := ih fun others member => stated others (List.mem_cons_of_mem _ member)
    obtain ⟨gap, isGap, continues⟩ := continued_text true "catch " layout
    have whole := IsHandlers.cons isGap (.beforeBrace layout) block later
    have drawn : concat ((Trees.ofList ((statements :: bodies).map handlerOf)).drawn.map (·.drawing))
        layout = (continued true "catch " layout ++ ("(" ++ "..." ++ ")") ++ Doc.beforeBrace layout ++
          Render.block statements.drawn [] layout) ++
          concat ((Trees.ofList (bodies.map handlerOf)).drawn.map (·.drawing)) layout :=
      String.join_cons
    rw [drawn, continues]
    simpa using whole

/-- A block with at least one handler of everything. -/
theorem trying {statements first : Trees .statement} {others : List (Trees .statement)}
    (inside : ∀ inner ∈ statements.toList, inner.StatedAs nest (expect inner))
    (caught : ∀ statements ∈ first :: others, ∀ inner ∈ statements.toList,
      inner.StatedAs nest (expect inner)) :
    Stated (nest + 1)
      (.tryStatement (.block statements []) (.ofList ((first :: others).map handlerOf)))
      (.tryStatement (.block (.ofList (statements.toList.map expect)) [])
        (.ofList ((first :: others).map fun statements =>
          handlerOf (.ofList (statements.toList.map expect))))) := by
  intro layout
  have block := block_written inside layout
  have handlers := handlers_written layout caught
  have whole : IsStated _ false _ _ := IsStated.trying (.beforeBrace layout) block handlers
  show IsStated _ false _ ("try" ++ Doc.beforeBrace layout ++ Render.block statements.drawn [] layout ++
    concat ((Trees.ofList ((first :: others).map handlerOf)).drawn.map (·.drawing)) layout).toList
  simpa [handlerOf, Function.comp_def] using whole

end

end Tree.Stated

end CppSyntax
