import CppSyntax.Proofs.Lexing.Kinds
import CppSyntax.Proofs.WellFormed.Yield
import CppSyntax.Render.Unit
import CppSyntax.Tree.Debrace

/-!
Expression statements are read as expressions. The writer tries the text of one that starts like a type and
puts it into parentheses if it would be a declaration. Any other text starts no declaration because of its
first token, unless that is a name with a dollar sign in front, which the writer does not try.
-/

namespace CppSyntax

open CppSyntax.Parser

/-- At the place there is a token which starts neither a declaration nor a statement of its own word: a
literal, or a mark other than those of names and of attributes. -/
def State.startsEvaluation (place : State) : Prop :=
  place.kind.isLiteral = true ∨ ∃ mark, place.kind = .punctuator mark ∧ mark ≠ .scope ∧
    (mark = .leftBracket → place.isAhead 1 .leftBracket = false)

namespace State

variable {place : State}

theorem startsEvaluation.statementStart (starts : place.startsEvaluation) :
    place.statementStart = .evaluates := by
  unfold State.statementStart
  rcases starts with literal | ⟨mark, known, noScope, noAttribute⟩
  · cases known : place.kind <;> first | rfl | (rw [known] at literal; cases literal)
  · rw [known]
    cases mark with
    | leftBracket => simp [noAttribute rfl]
    | scope => exact absurd rfl noScope
    | _ => rfl

end State

namespace Grammar

variable {g : Grammar Parser}

theorem expressionStatement_noDeclaration {before : State → Prop} :
    g.expressionStatement.Ensures before fun statement _ => statement.isDeclarationStatement = false :=
  .bind .anything fun _ => .bind .anything fun _ => .bind .anything fun _ => .bind .anything fun _ =>
    .pure fun _ _ => rfl

/-- Such a statement is a block, an empty statement or an expression. -/
theorem statementForm_evaluates {place : State} (starts : place.startsEvaluation)
    {form : Parser (Tree .statementForm)} (found : g.statementForm? place = some form) :
    form.Ensures (fun _ => True) fun form _ =>
      ∀ place, (Tree.statement place form).isDeclarationStatement = false := by
  have noWord : (∀ text, place.kind ≠ .directive text) ∧ (∀ word, place.kind ≠ .keyword word) ∧
      ∀ ident, place.kind ≠ .identifier ident := by
    rcases starts with literal | ⟨mark, known, _⟩
    · refine ⟨?_, ?_, ?_⟩ <;>
        (intro _ same
         rw [same] at literal
         cases literal)
    · simp [known]
  unfold Grammar.statementForm? at found
  split at found
  · rename_i known
    exact absurd known (noWord.1 _)
  · cases found
    exact .bind .anything fun _ => .pure fun _ _ _ => rfl
  · cases found
    exact .bind .anything fun _ => .pure fun _ _ _ => rfl
  · rename_i known
    exact absurd known (noWord.2.1 _)
  · rename_i known
    exact absurd known (noWord.2.2 _)
  · cases found

theorem statementRule_evaluates :
    g.statementRule.Ensures State.startsEvaluation fun statement _ =>
      statement.isDeclarationStatement = false := by
  refine .nested (.here fun place starts => ?_)
  split
  · refine .here fun state same => ?_
    rw [same, starts.statementStart]
    exact expressionStatement_noDeclaration
  · rename_i form found
    refine .bind .anything fun _ => .bind (statementForm_evaluates starts found).anywhere fun form => ?_
    refine .assume fun noDeclaration => .branch (fun _ => .pure fun _ _ => noDeclaration _) fun _ => ?_
    exact .bind .anything fun _ => .pure fun _ _ => noDeclaration _

theorem derive_evaluates (fuel depth : Nat) :
    (derive fuel depth .statement : Parser Statement).Ensures State.startsEvaluation
      fun statement _ => statement.isDeclarationStatement = false := by
  cases depth with
  | zero => rintro _ _ _ _ _ ⟨⟩
  | succ depth => exact statementRule_evaluates

end Grammar

/-- Whether a text starts like an expression that no declaration starts like: neither with a name nor with
`::`, an attribute or a directive. -/
def Text.opensEvaluation : List Char → Bool
  | '[' :: c :: _ => !isBlank c && c ∉ ['[', '/', '\\']
  | c :: _ => !isBlank c && !Lexeme.isNameStart c && c ∉ ['[', ':', '#', '/', '\\', '\ufeff']
  | [] => false

theorem Text.opensEvaluation_cons {first : Char} {next : List Char}
    (opens : opensEvaluation (first :: next) = true) :
    isBlank first = false ∧ Lexeme.isNameStart first = false ∧ first ∉ [':', '#', '/', '\\', '\ufeff'] ∧
      (first = '[' → ∃ c tail, next = c :: tail ∧ isBlank c = false ∧ c ∉ ['[', '/', '\\']) := by
  unfold opensEvaluation at opens
  split at opens
  · rename_i c tail same
    obtain ⟨rfl, rfl⟩ := List.cons.inj same
    simp only [Bool.and_eq_true, Bool.not_eq_true', decide_eq_true_eq] at opens
    exact ⟨by decide, by decide, by decide, fun _ => ⟨c, tail, rfl, opens⟩⟩
  · rename_i noBracket same
    cases same
    simp only [Bool.and_eq_true, Bool.not_eq_true', decide_eq_true_eq, List.mem_cons, not_or] at opens
    simp [opens]
  · cases opens

namespace Token

/-- What starts with something else than a bracket is not read as one. -/
theorem kindsFrom_noBracket {afterToken : Bool} {gap : Gap} {cursor : Cursor} {first : Char}
    {next : List Char} {kinds : List TokenKind} (front : cursor.rest = first :: next)
    (solid : Text.isBlank first = false) (other : first ∉ ['[', '/', '\\'])
    (read : kindsFrom afterToken gap cursor = some kinds) :
    ∃ kind rest, kinds = kind :: rest ∧ kind ≠ .punctuator .leftBracket := by
  simp only [List.mem_cons, List.not_mem_nil, or_false, not_or] at other
  obtain ⟨noBracket, noComment, noSplice⟩ := other
  obtain ⟨kind, rest, rfl, value, _⟩ :=
    kindsFrom_opens front (front ▸ GapPiece.first?_eq_none solid noSplice noComment) read
  refine ⟨kind, rest, rfl, ?_⟩
  rintro rfl
  exact noBracket (Option.some.inj (scanKind_mark value)).symm

/-- The first token of such a text is a literal or a mark. -/
theorem kindsOf_evaluation {text : String} {kinds : List TokenKind}
    (opens : Text.opensEvaluation text.toList = true) (read : kindsOf text = some kinds) :
    ∃ kind rest, kinds = kind :: rest ∧ (kind.isLiteral = true ∨ ∃ mark, kind = .punctuator mark ∧
      mark ≠ .scope ∧ (mark = .leftBracket → ∃ second behind, rest = second :: behind ∧
        second ≠ .punctuator .leftBracket)) := by
  cases spelled : text.toList with
  | nil =>
    rw [spelled] at opens
    cases opens
  | cons first next =>
    rw [spelled] at opens
    obtain ⟨solid, noName, noOther, bracket⟩ := Text.opensEvaluation_cons opens
    simp only [List.mem_cons, List.not_mem_nil, or_false, not_or] at noOther
    obtain ⟨noColon, noDirective, noComment, noSplice, unmarked⟩ := noOther
    rw [kindsOf_of_plain (by simpa [spelled] using unmarked), spelled] at read
    obtain ⟨kind, rest, rfl, value, later⟩ :=
      kindsFrom_opens rfl (GapPiece.first?_eq_none solid noSplice noComment) read
    have scanned : (Lexeme.scan first next).value = .ok kind := by
      rw [← value, scanKind, startsDirective, beq_false_of_ne noDirective]
      rfl
    refine ⟨kind, rest, rfl, ?_⟩
    rcases Lexeme.scan_sorts scanned with literal | ⟨_, named⟩ | ⟨mark, rfl⟩
    · exact .inl literal
    · cases noName.symm.trans named
    · refine .inr ⟨mark, rfl, ?_, ?_⟩
      · rintro rfl
        exact noColon (Option.some.inj (scanKind_mark value)).symm
      · rintro rfl
        obtain rfl : '[' = first := Option.some.inj (scanKind_mark value)
        obtain ⟨c, tail, rfl, solid, other⟩ := bracket rfl
        exact kindsFrom_noBracket (pastKind_rest _) solid other later

/-- A reader of such a text starts at a literal or at a mark. -/
theorem startsEvaluation_of_opens {text : String} (opens : Text.opensEvaluation text.toList = true)
    {tokens : List Token} (read : ofSource text = .ok tokens) (known : List String) :
    (State.start known tokens).startsEvaluation := by
  obtain ⟨kind, rest, same, evaluates⟩ := kindsOf_evaluation opens (kindsOf_eq_some.mpr ⟨tokens, read, rfl⟩)
  obtain ⟨token, more, rfl, rfl, rfl⟩ := List.map_eq_cons_iff.mp same
  refine evaluates.imp id fun ⟨mark, isMark, noScope, noAttribute⟩ => ⟨mark, isMark, noScope, fun bracket => ?_⟩
  obtain ⟨_, _, same, other⟩ := noAttribute bracket
  obtain ⟨second, behind, rfl, rfl, rfl⟩ := List.map_eq_cons_iff.mp same
  simpa [State.isAhead, State.ahead, State.start] using other

end Token

theorem readsAsDeclaration_of_opens {text : String}
    (opens : Text.opensEvaluation text.toList = true) (known : List String) :
    readsAsDeclaration text known = false := by
  unfold readsAsDeclaration Reader.ofSource
  cases read : Token.ofSource text with
  | error error => rfl
  | ok tokens =>
    have starts := Token.startsEvaluation_of_opens opens read (libraryTypeNames ++ known)
    dsimp only
    unfold Reader.statement Reader.run
    cases reply : (Grammar.statement (.ofFuel (Reader.fuel _)) : Parser Statement) .top
        (.start (libraryTypeNames ++ known) tokens) with
    | failed error stopped => rfl
    | exhausted => rfl
    | done value reached =>
      have noDeclaration := Grammar.derive_evaluates _ _ _ _ starts value reached reply
      cases value with
      | statement place form =>
        cases form with
        | declarationStatement => cases noDeclaration
        | _ => rfl

namespace Render

/-- The writer tries a text that starts so. -/
def startsLikeType (content : String) : Bool :=
  startsWith (fun c => Text.isAlphabetic c || c == '_' || c == ':') content

theorem startsLikeType_append {content : String} {c : Char}
    (other : (Text.isAlphabetic c || c == '_' || c == ':') = false) (behind : String)
    (spelled : behind.toList.head? = some c) :
    startsLikeType (content ++ behind) = startsLikeType content := by
  unfold startsLikeType startsWith
  cases front : content.toList with
  | nil => simp [front, spelled, other]
  | cons => simp [front]

/-- **Expression statements stay expressions.** The text of an expression statement is not read as a
declaration if it starts like a type, or like an expression that no declaration starts like. -/
theorem expressionStatement_staysExpression {value : Drawn .expression} {layout : Layout}
    (opens : startsLikeType (expressionStatement value layout) = true ∨
      Text.opensEvaluation (expressionStatement value layout).toList = true) :
    readsAsDeclaration (expressionStatement value layout) layout.typeNames = false := by
  have shape : expressionStatement value layout =
      let content := value.anyExpression layout
      if startsLikeType content && readsAsDeclaration (content ++ ";") layout.typeNames then
        "(" ++ content ++ ");"
      else content ++ ";" := rfl
  dsimp only at shape
  rw [shape] at opens ⊢
  split
  · refine readsAsDeclaration_of_opens ?_ _
    simp only [String.append_assoc, String.toList_append]
    rfl
  · rename_i untried
    rw [if_neg untried] at opens
    simp only [Bool.and_eq_true, not_and, Bool.not_eq_true] at untried
    rcases opens with likeType | opens
    · rw [startsLikeType_append (c := ';') (by decide) ";" (by decide)] at likeType
      exact untried likeType
    · exact readsAsDeclaration_of_opens opens _

/-- The expression that is the whole body of the only function of a unit. -/
def onlyExpression? : TranslationUnit → Option Expr
  | .unit (.cons (.declaration _ (.function _ _ _ _ _ _ _ (.defined (.block (.cons
      (.statement _ (.expressionStatement value)) .nil) _)))) .nil) _ => some value
  | _ => none

/-- The surroundings of a statement in the body of a function. -/
def inFunction (unit : TranslationUnit) : Layout := ⟨.standard, unit.typeNames, 1, false⟩

/-- A product that would declare a pointer is put into parentheses. -/
theorem expressionStatement_staysExpression_product : ∃ unit value,
    parse "void f() { (a * b); }" = .ok unit ∧ onlyExpression? unit = some value ∧
      expressionStatement ⟨value, value.drawing⟩ (inFunction unit) = "(a * b);" ∧
      readsAsDeclaration (expressionStatement ⟨value, value.drawing⟩ (inFunction unit)) unit.typeNames =
        false := by
  have text : (parse "void f() { (a * b); }").toOption.bind (fun unit => (onlyExpression? unit).map
      fun value => expressionStatement ⟨value, value.drawing⟩ (inFunction unit)) = some "(a * b);" := by
    decide +kernel
  obtain ⟨unit, parsed, only⟩ := Option.bind_eq_some_iff.mp text
  obtain ⟨value, found, text⟩ := Option.map_eq_some_iff.mp only
  have opens : Text.opensEvaluation "(a * b);".toList = true := by decide
  exact ⟨unit, value, toOption_eq_some.mp parsed, found, text,
    expressionStatement_staysExpression (.inr (text ▸ opens))⟩

/-- A name with a dollar sign in front is not tried, and the product is read as a pointer. -/
theorem expressionStatement_staysExpression_dollar : ∃ unit value,
    parse "void f() { ($a * b); }" = .ok unit ∧ onlyExpression? unit = some value ∧
      readsAsDeclaration (expressionStatement ⟨value, value.drawing⟩ (inFunction unit)) unit.typeNames =
        true := by
  have read : (parse "void f() { ($a * b); }").toOption.bind (fun unit => (onlyExpression? unit).map
      fun value => readsAsDeclaration (expressionStatement ⟨value, value.drawing⟩ (inFunction unit))
        unit.typeNames) = some true := by
    decide +kernel
  obtain ⟨unit, parsed, only⟩ := Option.bind_eq_some_iff.mp read
  obtain ⟨value, found, read⟩ := Option.map_eq_some_iff.mp only
  exact ⟨unit, value, toOption_eq_some.mp parsed, found, read⟩

end Render

end CppSyntax
