import CppSyntax.Proofs.Statement.Control
import CppSyntax.Proofs.Statement.Lines

/-!
The texts of statements made of numbers. Each form is spelled from its end to its start, since what a
token is read as depends on the text behind it.
-/

namespace CppSyntax

open Doc Render

namespace Spelled

variable {rest : List Char} {glyphs : List Glyph} {c : Char}

/-- A number before a character that it does not go on with. -/
theorem number {digits : String} (decimal : isDecimal digits = true)
    (ends : Lexeme.endsNumber c = true) (later : Spelled (c :: rest) glyphs) :
    ∃ joint, Spelled (digits.toList ++ c :: rest) (⟨.integer digits, joint⟩ :: glyphs) :=
  ⟨_, later.integer decimal (Lexeme.numberEnds_of_head ends)⟩

/-- A number behind blanks, or nothing at all. -/
theorem optionalNumber {part : Option String} (decimal : ∀ digits ∈ part, isDecimal digits = true)
    {gap : String} (blank : ∀ rest glyphs, Spelled rest glyphs → Spelled (gap.toList ++ rest) glyphs)
    (ends : Lexeme.endsNumber c = true) (later : Spelled (c :: rest) glyphs) :
    ∃ front, SpellsDigits part front ∧
      Spelled ((part.elim "" (gap ++ ·)).toList ++ c :: rest) (front ++ glyphs) := by
  cases part with
  | none => exact ⟨[], .none, later⟩
  | some digits =>
    obtain ⟨joint, spelled⟩ := later.number (decimal digits rfl) ends
    exact ⟨_, .some digits joint, by simpa using blank _ _ spelled⟩

/-- A colon that no other colon follows. -/
theorem colon (apart : OpensApart rest) (later : Spelled rest glyphs) :
    ∃ joint, Spelled (':' :: rest) (⟨.punctuator .colon, joint⟩ :: glyphs) := by
  obtain ⟨c, tail, rfl, blank⟩ := apart
  refine ⟨_, Spelled.mark .colon ?_ later⟩
  rintro _ ⟨⟩
  rcases blank with rfl | rfl <;> rfl

/-- A keyword before a mark. -/
theorem wordBefore (word : Keyword) (ends : Lexeme.endsNumber c = true)
    (later : Spelled (c :: rest) glyphs) :
    ∃ joint, Spelled (word.spelling.toList ++ c :: rest) (⟨.keyword word, joint⟩ :: glyphs) :=
  ⟨_, later.word word (Lexeme.numberEnds_of_head ends).1⟩

/-- A keyword before text that stands apart. -/
theorem wordApart (word : Keyword) (apart : OpensApart rest) (later : Spelled rest glyphs) :
    ∃ joint, Spelled (word.spelling.toList ++ rest) (⟨.keyword word, joint⟩ :: glyphs) :=
  ⟨_, later.word word apart.nameEnds⟩

/-- A number in parentheses behind a keyword. -/
theorem numberTest {digits : String} (word : Keyword) (decimal : isDecimal digits = true)
    (later : Spelled rest glyphs) :
    ∃ named opened spaced closed,
      Spelled (word.spelling.toList ++ ' ' :: '(' :: (digits.toList ++ ')' :: rest))
        (⟨.keyword word, named⟩ :: ⟨.punctuator .leftParen, opened⟩ :: ⟨.integer digits, spaced⟩ ::
          ⟨.punctuator .rightParen, closed⟩ :: glyphs) := by
  obtain ⟨closed, close⟩ := later.single .rightParen ')' rfl rfl
  obtain ⟨spaced, test⟩ := close.number decimal (by decide)
  obtain ⟨opened, head⟩ := test.single .leftParen '(' rfl rfl
  exact ⟨false, opened, spaced, closed, head.wordThenSpace word⟩

end Spelled

/-- The text of a number as a statement before a condition. -/
def initText (init : Option String) : String := init.elim "" (· ++ "; ")

/-- The text of a condition with a statement before it, or with none. -/
def testText (init : Option String) (digits : String) : String :=
  "(" ++ initText init ++ digits ++ ")"

/-- The text between the word `if` and the first branch. -/
def headText (isConstexpr : Bool) (init : Option String) (digits : String) : String :=
  "if " ++ (if isConstexpr then "constexpr " else "") ++ testText init digits

namespace Spelled

variable {rest : List Char} {glyphs : List Glyph} {init : Option String} {digits : String}

private theorem optionalStatement (decimals : ∀ digits ∈ init, isDecimal digits = true)
    (later : Spelled rest glyphs) : ∃ front, SpellsStatement init front ∧
      Spelled ((initText init).toList ++ rest) (front ++ glyphs) := by
  cases init with
  | none => exact ⟨[], .none, later⟩
  | some digits =>
    obtain ⟨closed, close⟩ := later.space.single .semicolon ';' rfl rfl
    obtain ⟨joint, spelled⟩ := close.number (decimals digits rfl) (by decide)
    exact ⟨_, .some digits joint closed, by simpa [initText] using spelled⟩

theorem test (decimals : ∀ digits ∈ init, isDecimal digits = true)
    (decimal : isDecimal digits = true) (later : Spelled rest glyphs) :
    ∃ opened front spaced closed, SpellsStatement init front ∧
      Spelled ((testText init digits).toList ++ rest) (⟨.punctuator .leftParen, opened⟩ ::
        (front ++ ⟨.integer digits, spaced⟩ :: ⟨.punctuator .rightParen, closed⟩ :: glyphs)) := by
  obtain ⟨closed, close⟩ := later.single .rightParen ')' rfl rfl
  obtain ⟨spaced, value⟩ := close.number decimal (by decide)
  obtain ⟨front, spelledInit, inside⟩ := value.optionalStatement decimals
  obtain ⟨opened, whole⟩ := inside.single .leftParen '(' rfl rfl
  exact ⟨opened, front, spaced, closed, spelledInit, by simpa [testText] using whole⟩

theorem head {isConstexpr : Bool} (decimals : ∀ digits ∈ init, isDecimal digits = true)
    (decimal : isDecimal digits = true) (later : Spelled rest glyphs) :
    ∃ named joint opened front spaced closed, SpellsStatement init front ∧
      Spelled ((headText isConstexpr init digits).toList ++ rest) (⟨.keyword .kwIf, named⟩ ::
        (constexprGlyphs isConstexpr joint ++ ⟨.punctuator .leftParen, opened⟩ ::
          (front ++ ⟨.integer digits, spaced⟩ :: ⟨.punctuator .rightParen, closed⟩ :: glyphs))) := by
  obtain ⟨opened, front, spaced, closed, spelledInit, test⟩ := later.test decimals decimal
  refine ⟨false, false, opened, front, spaced, closed, spelledInit, ?_⟩
  cases isConstexpr with
  | true =>
    have spelled := (test.wordThenSpace .kwConstexpr).wordThenSpace .kwIf
    simpa [headText, Keyword.spelling, constexprGlyphs] using spelled
  | false =>
    have spelled := test.wordThenSpace .kwIf
    simpa [headText, Keyword.spelling, constexprGlyphs] using spelled

end Spelled

namespace IsStated

variable {nest : Nat} {openIf : Bool} {digits : String}

private theorem of_word {form : Tree .statementForm} (word : Keyword)
    (starts : (TokenKind.keyword word).startsStatement = true)
    (reads : ∀ {joint closed : Bool} {rest : List Glyph}, rest ≠ [] →
      ReadsErased (fun g => g.statement) 1
        (⟨.keyword word, joint⟩ :: ⟨.punctuator .semicolon, closed⟩ :: rest)
        (.statement .erased form) rest) :
    IsStated 1 openIf (.statement .erased form) (word.spelling ++ ";").toList := by
  intro rest behind ensues
  obtain ⟨closed, close⟩ := ensues.spelled.single .semicolon ';' rfl rfl
  obtain ⟨joint, spelled⟩ := close.wordBefore word (by decide)
  exact ⟨_, _, by simpa using spelled, starts, reads ensues.more⟩

theorem breaking : IsStated 1 openIf (.statement .erased .breakStatement) "break;".toList :=
  of_word .kwBreak rfl .breaking

theorem continuing :
    IsStated 1 openIf (.statement .erased .continueStatement) "continue;".toList :=
  of_word .kwContinue rfl .continuing

theorem returningNothing :
    IsStated 1 openIf (.statement .erased (.returnStatement .absent)) "return;".toList :=
  of_word .kwReturn rfl .returningNothing

theorem nothing : IsStated 1 openIf (.statement .erased .emptyStatement) ";".toList := by
  intro rest behind ensues
  obtain ⟨closed, spelled⟩ := ensues.spelled.single .semicolon ';' rfl rfl
  exact ⟨_, _, spelled, rfl, .nothing ensues.more⟩

theorem goto {target : String} (valid : isIdentifier target = true) :
    IsStated 1 openIf (.statement .erased (.goto target)) ("goto " ++ target ++ ";").toList := by
  intro rest behind ensues
  obtain ⟨closed, close⟩ := ensues.spelled.single .semicolon ';' rfl rfl
  have named := close.identifier valid (Lexeme.numberEnds_of_head (by decide)).1
  have spelled := named.wordThenSpace .kwGoto
  exact ⟨_, _, by simpa [Keyword.spelling] using spelled, rfl, .goto ensues.more⟩

theorem label {ident : String} (valid : isIdentifier ident = true) :
    IsStated 1 openIf (.statement .erased (.namedLabel ident)) (ident ++ ":").toList := by
  intro rest behind ensues
  obtain ⟨closed, close⟩ := ensues.spelled.colon ensues.apart
  have spelled := close.identifier valid (Lexeme.numberEnds_of_head (by decide)).1
  exact ⟨_, _, by simpa using spelled, rfl, .label ensues.more⟩

theorem defaultLabel : IsStated 1 openIf (.statement .erased .defaultLabel) "default:".toList := by
  intro rest behind ensues
  obtain ⟨closed, close⟩ := ensues.spelled.colon ensues.apart
  obtain ⟨joint, spelled⟩ := close.wordBefore .kwDefault (by decide)
  exact ⟨_, _, spelled, rfl, .defaultLabel ensues.more⟩

theorem caseLabel (decimal : isDecimal digits = true) :
    IsStated 2 openIf (.statement .erased (.caseLabel (.integer digits)))
      ("case " ++ digits ++ ":").toList := by
  intro rest behind ensues
  obtain ⟨closed, close⟩ := ensues.spelled.colon ensues.apart
  obtain ⟨spaced, number⟩ := close.number decimal (by decide)
  have spelled := number.wordThenSpace .kwCase
  exact ⟨_, _, by simpa [Keyword.spelling] using spelled, rfl, .caseLabel ensues.more⟩

theorem evaluating (decimal : isDecimal digits = true) :
    IsStated 2 openIf (.integerStatement .erased digits) (digits ++ ";").toList := by
  intro rest behind ensues
  obtain ⟨closed, close⟩ := ensues.spelled.single .semicolon ';' rfl rfl
  obtain ⟨joint, spelled⟩ := close.number decimal (by decide)
  exact ⟨_, _, by simpa using spelled, rfl, .evaluating ensues.more⟩

section

variable {body : Statement} {text : List Char}

theorem repeating (decimal : isDecimal digits = true)
    (inner : IsStated (nest + 1) openIf body text) :
    IsStated (nest + 2) openIf (.statement .erased (.whileStatement (.integerTest digits) body))
      (("while (" ++ digits ++ ")").toList ++ text) := by
  intro rest behind ensues
  obtain ⟨start, glyphs, later, _, reads⟩ := inner rest behind ensues
  obtain ⟨named, opened, spaced, closed, spelled⟩ := later.numberTest .kwWhile decimal
  exact ⟨_, _, by simpa [Keyword.spelling] using spelled, rfl, .repeating reads⟩

theorem switching {init : Option String} (decimals : ∀ digits ∈ init, isDecimal digits = true)
    (decimal : isDecimal digits = true) (inner : IsStated (nest + 1) openIf body text) :
    IsStated (nest + 2) openIf (.statement .erased (.switchStatement
        (.ofOption (init.map (.integerStatement .erased))) (.integerTest digits) body))
      (("switch " ++ testText init digits).toList ++ text) := by
  intro rest behind ensues
  obtain ⟨start, glyphs, later, _, reads⟩ := inner rest behind ensues
  obtain ⟨opened, front, spaced, closed, spelledInit, test⟩ := later.test decimals decimal
  have spelled := test.wordThenSpace .kwSwitch
  exact ⟨_, _, by simpa [Keyword.spelling] using spelled, rfl, .switching spelledInit reads⟩

/-- Nothing but the condition of its own loop follows the body of a `do`. -/
theorem doing {gap : String} {inside : Bool} (decimal : isDecimal digits = true) (isGap : IsGap gap)
    (inner : IsStated (nest + 1) inside body text) (apart : OpensApart text) :
    IsStated (nest + 2) openIf (.statement .erased (.doStatement body (.integer digits)))
      ("do".toList ++ text ++ (gap ++ "while (" ++ digits ++ ");").toList) := by
  intro rest behind ensues
  obtain ⟨ended, ending⟩ := ensues.spelled.single .semicolon ';' rfl rfl
  obtain ⟨named, opened, spaced, closed, test⟩ := ending.numberTest .kwWhile decimal
  have ensuing : Ensues inside (gap.toList ++ (Keyword.kwWhile.spelling.toList ++
      ' ' :: '(' :: (digits.toList ++ ')' :: ';' :: rest))) _ :=
    ⟨isGap.spelled _ _ test, isGap.opens.append _, _, _, rfl, by simp, by simp⟩
  obtain ⟨start, glyphs, later, _, reads⟩ := inner _ _ ensuing
  obtain ⟨joint, spelled⟩ := later.wordApart .kwDo (apart.append _)
  exact ⟨_, _, by simpa [Keyword.spelling] using spelled, rfl, .doing ensues.more reads⟩

theorem counting {init test step : Option String}
    (decimalInit : ∀ digits ∈ init, isDecimal digits = true)
    (decimalTest : ∀ digits ∈ test, isDecimal digits = true)
    (decimalStep : ∀ digits ∈ step, isDecimal digits = true)
    (inner : IsStated (nest + 1) openIf body text) :
    IsStated (nest + 2) openIf (.statement .erased (.forStatement
        (.ofOption (init.map (.integerStatement .erased))) (.ofOption (test.map .integerTest))
        (.ofOption (step.map .integer)) body))
      (("for (" ++ init.elim "" ("" ++ ·) ++ ";" ++ test.elim "" (" " ++ ·) ++ ";" ++
        step.elim "" (" " ++ ·) ++ ")").toList ++ text) := by
  intro rest behind ensues
  obtain ⟨start, glyphs, later, _, reads⟩ := inner rest behind ensues
  obtain ⟨closed, close⟩ := later.single .rightParen ')' rfl rfl
  obtain ⟨final, spelledStep, stepped⟩ :=
    close.optionalNumber decimalStep IsGap.space.spelled (by decide)
  obtain ⟨joint, tested⟩ := stepped.single .semicolon ';' rfl rfl
  obtain ⟨middle, spelledTest, testing⟩ :=
    tested.optionalNumber decimalTest IsGap.space.spelled (by decide)
  obtain ⟨ended, begun⟩ := testing.single .semicolon ';' rfl rfl
  have close (rest : List Char) (glyphs : List Glyph) (later : Spelled rest glyphs) :
      Spelled ("".toList ++ rest) glyphs := later
  obtain ⟨front, spelledInit, beginning⟩ := begun.optionalNumber decimalInit close (by decide)
  obtain ⟨opened, head⟩ := beginning.single .leftParen '(' rfl rfl
  have spelled := head.wordThenSpace .kwFor
  exact ⟨_, _, by simpa [Keyword.spelling] using spelled, rfl,
    .counting spelledInit spelledTest spelledStep reads⟩

/-- Without another branch, the statement ends in an `if` that would take an `else`. -/
theorem branching (isConstexpr : Bool) {inside : Bool} {init : Option String}
    (decimals : ∀ digits ∈ init, isDecimal digits = true) (decimal : isDecimal digits = true)
    (inner : IsStated (nest + 1) inside body text) :
    IsStated (nest + 2) true (.statement .erased (.ifStatement isConstexpr
        (.ofOption (init.map (.integerStatement .erased))) (.integerTest digits) body .absent))
      ((headText isConstexpr init digits).toList ++ text) := by
  intro rest behind ensues
  obtain ⟨start, glyphs, later, _, reads⟩ := inner rest behind (ensues.weaken fun _ => rfl)
  obtain ⟨first, tail, rfl, _, noElse⟩ := ensues.follows
  obtain ⟨_, _, _, front, _, _, spelledInit, spelled⟩ := later.head decimals decimal
  exact ⟨_, _, by simpa using spelled, rfl, .branching spelledInit reads (.none (noElse rfl))⟩

/-- The first branch must not take the `else` of the second one. -/
theorem branchingBoth (isConstexpr : Bool) {init : Option String} {gap : String}
    {other : Statement} {otherText : List Char}
    (decimals : ∀ digits ∈ init, isDecimal digits = true) (decimal : isDecimal digits = true)
    (isGap : IsGap gap) (first : IsStated (nest + 1) false body text)
    (second : IsStated (nest + 1) openIf other otherText) (apart : OpensApart otherText) :
    IsStated (nest + 2) openIf (.statement .erased (.ifStatement isConstexpr
        (.ofOption (init.map (.integerStatement .erased))) (.integerTest digits) body
        (.present other)))
      ((headText isConstexpr init digits).toList ++ text ++ ((gap ++ "else").toList ++ otherText)) := by
  intro rest behind ensues
  obtain ⟨begun, branch, otherwise, _, readsOther⟩ := second rest behind ensues
  obtain ⟨joint, continued⟩ := otherwise.wordApart .kwElse (apart.append _)
  have ensuing : Ensues false (gap.toList ++ (Keyword.kwElse.spelling.toList ++
      (otherText ++ rest))) _ :=
    ⟨isGap.spelled _ _ continued, isGap.opens.append _, _, _, rfl, by simp, by simp⟩
  obtain ⟨start, glyphs, later, _, reads⟩ := first _ _ ensuing
  obtain ⟨_, _, _, front, _, _, spelledInit, spelled⟩ := later.head decimals decimal
  exact ⟨_, _, by simpa [Keyword.spelling] using spelled, rfl,
    .branching spelledInit reads (.some readsOther)⟩

end

end IsStated

/-- The text of handlers without parameters around the texts of their blocks. -/
inductive IsHandlers (nest : Nat) : List (Tree .block) → List Char → Prop where
  | nil : IsHandlers nest [] []
  | cons {before between : String} {body : Tree .block} {bodies : List (Tree .block)}
      {text texts : List Char} (isBefore : IsGap before) (isBetween : IsGap between)
      (block : IsBlock nest body text) (later : IsHandlers nest bodies texts) :
      IsHandlers nest (body :: bodies)
        ((before ++ "catch (...)" ++ between).toList ++ (text ++ texts))

private theorem IsHandlers.spelled {nest : Nat} {bodies : List (Tree .block)} {texts : List Char}
    (handlers : IsHandlers nest bodies texts) {rest : List Char} {first : Glyph} {tail : List Glyph}
    (spelled : Spelled rest (first :: tail)) (noCatch : first.kind ≠ .keyword .kwCatch) :
    ∃ start glyphs, Spelled (texts ++ rest) (start :: glyphs) ∧
      ReadsHandlers nest bodies (start :: glyphs) (first :: tail) := by
  induction handlers with
  | nil => exact ⟨first, tail, spelled, .nil noCatch⟩
  | cons isBefore isBetween block _ ih =>
    obtain ⟨start, glyphs, later, row⟩ := ih
    obtain ⟨joint, inside, body, reads⟩ := block _ _ later (List.cons_ne_nil _ _)
    obtain ⟨closed, close⟩ := (isBetween.spelled _ _ body).single .rightParen ')' rfl rfl
    obtain ⟨skipped, skip⟩ := close.finished .ellipsis rfl
    obtain ⟨opened, params⟩ := skip.single .leftParen '(' rfl rfl
    have whole := isBefore.spelled _ _ (params.wordThenSpace .kwCatch)
    exact ⟨_, _, by simpa [Keyword.spelling, Punctuator.spelling] using whole, .cons reads row⟩

theorem IsStated.trying {nest : Nat} {openIf : Bool} {gap : String} {inner handler : Tree .block}
    {bodies : List (Tree .block)} {text texts : List Char} (isGap : IsGap gap)
    (block : IsBlock nest inner text) (handlers : IsHandlers nest (handler :: bodies) texts) :
    IsStated (nest + 1) openIf (.statement .erased (.tryStatement inner
        (.ofList ((handler :: bodies).map (.handler .absent)))))
      (("try" ++ gap).toList ++ (text ++ texts)) := by
  intro rest behind ensues
  obtain ⟨first, tail, rfl, noCatch, _⟩ := ensues.follows
  obtain ⟨start, glyphs, later, row⟩ := handlers.spelled ensues.spelled noCatch
  obtain ⟨joint, inside, body, reads⟩ := block _ _ later (List.cons_ne_nil _ _)
  obtain ⟨named, spelled⟩ :=
    (isGap.spelled _ _ body).wordApart .kwTry (isGap.opens.append _)
  exact ⟨_, _, by simpa [Keyword.spelling] using spelled, rfl, .trying reads row⟩

end CppSyntax
