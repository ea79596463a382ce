import CppSyntax.Proofs.Lexing.Layout

/-!
Integer literals of every form: with a prefix, a suffix or marks between the digits.
-/

namespace CppSyntax

/-- A text that is all of one integer literal. -/
def isIntegerLiteral (text : String) : Bool :=
  match text.toList with
  | [] => false
  | first :: more =>
    first.isDigit && (Lexeme.number first more).rest.isEmpty && !Lexeme.isFloating text.toList

namespace Lexeme

/-- The characters of numbers. -/
def isNumberChar (c : Char) : Bool :=
  c.isAlphanum || ['_', '.', '+', '-', '\''].contains c

/-- A text before which a number ends, whatever its last character is. -/
def LiteralEnds (rest : List Char) : Prop :=
  NumberEnds rest ∧ rest.head? ≠ some '+' ∧ rest.head? ≠ some '-'

theorem isAlphanum_eq_false_of_ends {c : Char} (ends : isNameChar c = false) :
    c.isAlphanum = false := by
  simp only [isNameChar, Text.isAlphanumeric, Text.isAlphabetic, Text.isNumeric,
    Bool.or_eq_false_iff] at ends
  simp only [Char.isAlphanum, Bool.or_eq_false_iff]
  exact ⟨ends.1.1.1.1, ends.1.1.2.1⟩

/-- Nothing of what follows a whole number is taken for a part of it. -/
theorem numberRest_append {hex : Bool} {last : Char} {more rest : List Char}
    (whole : (numberRest hex last more).rest = []) (ends : LiteralEnds rest) :
    numberRest hex last (more ++ rest) = ⟨(), more, rest⟩ := by
  obtain ⟨⟨name, noDot⟩, noPlus, noMinus⟩ := ends
  induction more generalizing last with
  | nil =>
    cases rest with
    | nil => rfl
    | cons c rest =>
      obtain ⟨noChar, _, noMark⟩ := name c rfl
      simp only [List.head?_cons, ne_eq, Option.some.injEq] at noDot noPlus noMinus
      have noLetter := isAlphanum_eq_false_of_ends noChar
      simp only [isNameChar, Bool.or_eq_false_iff] at noChar
      simp [numberRest, noLetter, noChar.1.2, noDot, isExponentSign, noPlus, noMinus, noMark]
  | cons c more ih =>
    rw [List.cons_append]
    unfold numberRest at whole ⊢
    split at whole
    · rename_i goesOn
      rw [if_pos goesOn, ih whole]
      rfl
    · rename_i noLetter
      split at whole
      · rename_i mark
        have follows : (more ++ rest).head? = more.head? := by
          cases more with
          | nil => simp at mark
          | cons => rfl
        rw [if_neg noLetter, follows, if_pos mark, ih whole]
        rfl
      · cases whole

theorem isNumberChar_of_numberRest {hex : Bool} {last : Char} {more : List Char}
    (whole : (numberRest hex last more).rest = []) : ∀ c ∈ more, isNumberChar c = true := by
  induction more generalizing last with
  | nil => nofun
  | cons c more ih =>
    unfold numberRest at whole
    split at whole
    · rename_i goesOn
      refine List.forall_mem_cons.mpr ⟨?_, ih whole⟩
      simp only [isExponentSign, Bool.or_eq_true, Bool.and_eq_true, beq_iff_eq] at goesOn
      rcases goesOn with ((letter | rfl) | rfl) | ⟨rfl | rfl, _⟩
      · simp [isNumberChar, letter]
      all_goals rfl
    · split at whole
      · rename_i mark
        refine List.forall_mem_cons.mpr ⟨?_, ih whole⟩
        simp only [Bool.and_eq_true, beq_iff_eq] at mark
        rw [mark.1]
        rfl
      · cases whole

/-- Nothing that follows makes a number hexadecimal. -/
private theorem isHex_append {more rest : List Char} (ends : NameEnds rest) :
    (more ++ rest).head?.any (fun c => c == 'x' || c == 'X') =
      more.head?.any fun c => c == 'x' || c == 'X' := by
  cases more with
  | cons => rfl
  | nil =>
    cases rest with
    | nil => rfl
    | cons c rest =>
      have noChar := (ends c rfl).1
      have other : ∀ letter : Char, isNameChar letter = true → c ≠ letter := by
        rintro letter known rfl
        rw [known] at noChar
        cases noChar
      simp [other 'x' (by decide), other 'X' (by decide)]

theorem number_append {first : Char} {more rest : List Char}
    (whole : (number first more).rest = []) (ends : LiteralEnds rest) :
    number first (more ++ rest) = ⟨numberKind (first :: more), first :: more, rest⟩ := by
  unfold number at whole ⊢
  dsimp only at whole ⊢
  rw [isHex_append ends.1.1, numberRest_append whole ends]
  rfl

end Lexeme

section

variable {text : String} (whole : isIntegerLiteral text = true)

include whole

theorem isNumberChar_of_literal : ∀ c ∈ text.toList, Lexeme.isNumberChar c = true := by
  unfold isIntegerLiteral at whole
  split at whole
  · cases whole
  · rename_i first more spelled
    simp only [Bool.and_eq_true, List.isEmpty_iff] at whole
    obtain ⟨⟨digit, all⟩, _⟩ := whole
    rw [spelled]
    refine List.forall_mem_cons.mpr ⟨?_, Lexeme.isNumberChar_of_numberRest all⟩
    simp [Lexeme.isNumberChar, Char.isAlphanum, digit]

theorem TokenKind.readsBefore_literal {rest : List Char} (ends : Lexeme.LiteralEnds rest) :
    ∃ first more, (TokenKind.integer text).ReadsBefore first more rest := by
  have chars := isNumberChar_of_literal whole
  unfold isIntegerLiteral at whole
  split at whole
  · cases whole
  · rename_i first more spelled
    simp only [Bool.and_eq_true, List.isEmpty_iff, Bool.not_eq_true'] at whole
    obtain ⟨⟨digit, all⟩, integral⟩ := whole
    rw [spelled] at chars integral
    have unlike : ∀ c ∈ first :: more, ∀ other, Lexeme.isNumberChar other = false → c ≠ other := by
      rintro c member other known rfl
      rw [chars c member] at known
      cases known
    have noDigit : ∀ c : Char, c.isDigit = false → first ≠ c := by
      rintro c known rfl
      rw [digit] at known
      cases known
    refine ⟨first, more, spelled, noDigit '#' (by decide), ?_, ?_, ?_⟩
    · exact fun member => unlike '\n' member '\n' (by decide) rfl
    · exact GapPiece.first?_eq_none (Text.isBlank_eq_false_of_isDigit digit)
        (noDigit '\\' (by decide)) (noDigit '/' (by decide))
    · have kind : Lexeme.numberKind (first :: more) = .integer text := by
        rw [Lexeme.numberKind, integral, ← spelled, String.ofList_toList]
        rfl
      rw [Lexeme.scan, if_neg (by simp [noDigit '"' (by decide), noDigit '\'' (by decide)]),
        if_pos (by simp [digit]), Lexeme.number_append all ends, kind]
      rfl

theorem Spelled.literal {rest : List Char} {glyphs : List Glyph} (ends : Lexeme.LiteralEnds rest)
    (later : Spelled rest glyphs) :
    Spelled (text.toList ++ rest) (⟨.integer text, Token.isJoint rest⟩ :: glyphs) := by
  obtain ⟨first, more, reads⟩ := TokenKind.readsBefore_literal whole ends
  have spelled : text.toList = first :: more := reads.spelled
  rw [spelled]
  exact later.token reads

end

end CppSyntax
