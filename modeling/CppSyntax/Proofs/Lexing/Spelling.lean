import CppSyntax.Token.Gap

/-!
Tokens read back from their spellings. A spelling followed by a text that does not go on with it is
scanned as the token it spells, and the scan stops right behind it.
-/

namespace CppSyntax

/-- Whether a mark right before the character might be read as part of something longer. -/
def Punctuator.growsWith : Punctuator → Char → Bool
  | .colon, c => c == ':'
  | .dot, c => c == '.' || c == '*' || c.isDigit
  | .plus, c => c == '+' || c == '='
  | .minus, c => c == '-' || c == '=' || c == '>'
  | .arrow, c => c == '*'
  | .slash, c => c == '=' || c == '/' || c == '*'
  | .less, c => c == '=' || c == '<'
  | .lessEq, c => c == '>'
  | .ampersand, c => c == '&' || c == '='
  | .pipe, c => c == '|' || c == '='
  | .star, c | .percent, c | .caret, c | .assign, c | .bang, c | .greater, c | .shiftLeft, c =>
    c == '='
  | _, _ => false

namespace Punctuator

/-- The marks that only an equals sign can lengthen. -/
def takesAssign : Punctuator → Bool
  | .star | .percent | .caret | .assign | .bang | .greater | .shiftLeft => true
  | _ => false

/-- The marks that stay what they are whatever follows. -/
def isFinished : Punctuator → Bool
  | .colon | .dot | .plus | .minus | .arrow | .slash | .less | .lessEq | .ampersand | .pipe => false
  | mark => !mark.takesAssign

theorem growsWith_of_isFinished {mark : Punctuator} {c : Char} (finished : mark.isFinished = true) :
    mark.growsWith c = false := by
  cases mark <;> first | rfl | cases finished

private theorem longest?_finished {mark : Punctuator} {first : Char} {more rest : List Char}
    (finished : mark.isFinished = true) (spelled : mark.spelling.toList = first :: more) :
    longest? first (more ++ rest) = some (mark, more.length) := by
  cases mark <;> cases finished <;> simp [spelling] at spelled <;> obtain ⟨rfl, rfl⟩ := spelled <;>
    rfl

private theorem longest?_takesAssign {mark : Punctuator} {first c : Char} {more rest : List Char}
    (takes : mark.takesAssign = true) (spelled : mark.spelling.toList = first :: more)
    (other : c ≠ '=') : longest? first (more ++ c :: rest) = some (mark, more.length) := by
  cases mark <;> cases takes <;> simp [spelling] at spelled <;> obtain ⟨rfl, rfl⟩ := spelled <;>
    simp [longest?, other]

private theorem longest?_growing {mark : Punctuator} {first c : Char} {more rest : List Char}
    (unfinished : mark.isFinished = false) (plain : mark.takesAssign = false)
    (spelled : mark.spelling.toList = first :: more) (stops : mark.growsWith c = false) :
    longest? first (more ++ c :: rest) = some (mark, more.length) := by
  cases mark <;> cases unfinished <;> cases plain <;> simp [spelling] at spelled <;>
    obtain ⟨rfl, rfl⟩ := spelled <;> simp [growsWith] at stops <;> simp [longest?, stops]

/-- The longest mark at the front of a spelling is the mark spelled, unless the next character
goes on with it. -/
theorem longest?_spelling {mark : Punctuator} {first : Char} {more rest : List Char}
    (spelled : mark.spelling.toList = first :: more)
    (stops : ∀ c ∈ rest.head?, mark.growsWith c = false) :
    longest? first (more ++ rest) = some (mark, more.length) := by
  cases rest with
  | nil =>
    cases mark <;> simp [spelling] at spelled <;> obtain ⟨rfl, rfl⟩ := spelled <;> rfl
  | cons c rest =>
    have stop := stops c rfl
    cases finished : mark.isFinished with
    | true => exact longest?_finished finished spelled
    | false =>
      cases takes : mark.takesAssign with
      | false => exact longest?_growing finished takes spelled stop
      | true =>
        refine longest?_takesAssign takes spelled ?_
        cases mark <;> cases takes <;> simpa [growsWith] using stop

end Punctuator

namespace Text

theorem isAlpha_iff {c : Char} : c.isAlpha = true ↔
    65 ≤ c.toNat ∧ c.toNat ≤ 90 ∨ 97 ≤ c.toNat ∧ c.toNat ≤ 122 := by
  have upper : c.isUpper = decide (65 ≤ c.val ∧ c.val ≤ 90) := rfl
  have lower : c.isLower = (decide (97 ≤ c.val) && decide (c.val ≤ 122)) := rfl
  rw [show c.isAlpha = (c.isUpper || c.isLower) from rfl, upper, lower]
  simp only [Bool.or_eq_true, Bool.and_eq_true, decide_eq_true_eq, UInt32.le_iff_toNat_le]
  rfl

/-- No letter is a blank. -/
theorem isBlank_eq_false_of_isAlphabetic {c : Char} (letter : isAlphabetic c = true) :
    isBlank c = false := by
  cases blank : isBlank c with
  | false => rfl
  | true =>
    obtain ⟨range, member, low, high⟩ := CharRanges.holds_iff.mp blank
    have apart : ∀ blanks ∈ blankRanges, blanks.2 < 65 ∨
        122 < blanks.1 ∧ ∀ letters ∈ alphabeticRanges,
          letters.2 < blanks.1 ∨ blanks.2 < letters.1 := by
      decide +kernel
    simp only [isAlphabetic, Bool.or_eq_true, Bool.and_eq_true, decide_eq_true_eq] at letter
    rcases letter with ascii | ⟨wide, listed⟩
    · have bounds := isAlpha_iff.mp ascii
      rcases apart range member with small | ⟨large, _⟩ <;> omega
    · obtain ⟨letters, found, least, most⟩ := CharRanges.holds_iff.mp listed
      rcases apart range member with small | ⟨_, disjoint⟩
      · omega
      · have := disjoint letters found
        omega

theorem isDigit_bounds {c : Char} (digit : c.isDigit = true) : 48 ≤ c.toNat ∧ c.toNat ≤ 57 := by
  simp only [Char.isDigit, Bool.and_eq_true, decide_eq_true_eq, ge_iff_le,
    UInt32.le_iff_toNat_le] at digit
  exact digit

theorem isAlphabetic_eq_false_of_isDigit {c : Char} (digit : c.isDigit = true) :
    isAlphabetic c = false := by
  have bounds := isDigit_bounds digit
  have ascii : c.isAlpha = false := by
    rw [Bool.eq_false_iff, ne_eq, isAlpha_iff]
    omega
  rw [isAlphabetic_ascii (by omega), ascii]

theorem isBlank_eq_false_of_isDigit {c : Char} (digit : c.isDigit = true) :
    isBlank c = false := by
  cases blank : isBlank c with
  | false => rfl
  | true =>
    obtain ⟨range, member, low, high⟩ := CharRanges.holds_iff.mp blank
    have apart : ∀ blanks ∈ blankRanges, blanks.2 < 48 ∨ 57 < blanks.1 := by
      decide
    have bounds := isDigit_bounds digit
    rcases apart range member with small | large <;> omega

end Text

namespace Lexeme

/-- The characters of a name, reserved or not. -/
def isName : List Char → Bool
  | [] => false
  | first :: more => isNameStart first && more.all isNameChar

/-- A text that a name can end before. -/
def NameEnds (rest : List Char) : Prop :=
  ∀ c ∈ rest.head?, isNameChar c = false ∧ c ≠ '"' ∧ c ≠ '\''

/-- A text that a number can end before. -/
def NumberEnds (rest : List Char) : Prop :=
  NameEnds rest ∧ rest.head? ≠ some '.'

/-- Whether names and numbers end before the character. -/
def endsNumber (c : Char) : Bool := !isNameChar c && c != '"' && c != '\'' && c != '.'

theorem numberEnds_of_head {c : Char} {rest : List Char} (ends : endsNumber c = true) :
    NumberEnds (c :: rest) := by
  simp only [endsNumber, Bool.and_eq_true, Bool.not_eq_true', bne_iff_ne] at ends
  obtain ⟨⟨⟨noChar, noQuote⟩, noMark⟩, noDot⟩ := ends
  refine ⟨?_, by simpa using noDot⟩
  rintro _ ⟨⟩
  exact ⟨noChar, noQuote, noMark⟩

theorem isNameChar_of_isNameStart {c : Char} (starts : isNameStart c = true) :
    isNameChar c = true := by
  simp only [isNameStart, isNameChar, Bool.or_eq_true] at starts ⊢
  rcases starts with (letter | low) | dollar
  · exact .inl (.inl (Text.isAlphanumeric_of_isAlphabetic letter))
  · exact .inl (.inr low)
  · exact .inr dollar

theorem isBlank_eq_false_of_isNameStart {c : Char} (starts : isNameStart c = true) :
    Text.isBlank c = false := by
  simp only [isNameStart, Bool.or_eq_true, beq_iff_eq] at starts
  rcases starts with (letter | rfl) | rfl
  · exact Text.isBlank_eq_false_of_isAlphabetic letter
  · decide
  · decide

theorem isNameStart_eq_false_of_isDigit {c : Char} (digit : c.isDigit = true) :
    isNameStart c = false := by
  simp only [isNameStart, Text.isAlphabetic_eq_false_of_isDigit digit, Bool.false_or]
  refine Bool.or_eq_false_iff.mpr ⟨?_, ?_⟩ <;>
    (refine beq_eq_false_iff_ne.mpr ?_; rintro rfl; exact absurd digit (by decide))

theorem isDigit_eq_false_of_isNameStart {c : Char} (starts : isNameStart c = true) :
    c.isDigit = false := by
  cases digit : c.isDigit with
  | false => rfl
  | true => rw [isNameStart_eq_false_of_isDigit digit] at starts; cases starts

private theorem ne_of_isNameStart {c : Char} (starts : isNameStart c = true) (other : Char)
    (unlike : isNameStart other = false) : c ≠ other := by
  rintro rfl
  rw [unlike] at starts
  cases starts

theorem scan_eq_word {first : Char} (starts : isNameStart first = true) (next : List Char) :
    scan first next = word first next := by
  have notQuote := ne_of_isNameStart starts '"' (by decide)
  have notMark := ne_of_isNameStart starts '\'' (by decide)
  have notDot := ne_of_isNameStart starts '.' (by decide)
  simp [scan, starts, notQuote, notMark, notDot, isDigit_eq_false_of_isNameStart starts]

theorem takeWhile_append {passes : Char → Bool} {front rest : List Char}
    (all : ∀ c ∈ front, passes c = true) (stops : ∀ c ∈ rest.head?, passes c = false) :
    Scan.takeWhile passes (front ++ rest) = ⟨(), front, rest⟩ := by
  have taken : rest.takeWhile passes = [] := by
    cases rest with
    | nil => rfl
    | cons c rest => simp [stops c rfl]
  have dropped : rest.dropWhile passes = rest := by
    cases rest with
    | nil => rfl
    | cons c rest => simp [stops c rfl]
  rw [Scan.takeWhile, List.takeWhile_append_of_pos all, List.dropWhile_append_of_pos all, taken,
    dropped, List.append_nil]

theorem word_of_ends {first : Char} {more rest : List Char}
    (name : ∀ c ∈ more, isNameChar c = true) (ends : NameEnds rest) :
    word first (more ++ rest) =
      ⟨.ok (wordKind (String.ofList (first :: more))), first :: more, rest⟩ := by
  rw [word, takeWhile_append name fun c head => (ends c head).1]
  dsimp only [Scan.after, Scan.map]
  split
  · exact absurd rfl (ends '"' rfl).2.1
  · exact absurd rfl (ends '\'' rfl).2.2
  · rfl

section

variable {first : Char} {name : List Char} (chars : ∀ c ∈ name, isNameChar c = true)

include chars

/-- A name before the quote of a string. -/
theorem word_string (text : List Char) : word first (name ++ '"' :: text) =
    if String.ofList (first :: name) ∈ ["u8", "u", "U", "L"] then
      quoted (first :: name ++ ['"']) '"' text
    else if String.ofList (first :: name) ∈ ["R", "u8R", "uR", "UR", "LR"] then
      rawString (first :: name ++ ['"']) text
    else ⟨.ok (wordKind (String.ofList (first :: name))), first :: name, '"' :: text⟩ := by
  have stops : isNameChar '"' = false := by decide
  rw [word, takeWhile_append chars (by simpa using stops)]
  rfl

/-- A name before the quote of a character. -/
theorem word_character (text : List Char) : word first (name ++ '\'' :: text) =
    if String.ofList (first :: name) ∈ ["u8", "u", "U", "L"] then
      quoted (first :: name ++ ['\'']) '\'' text
    else ⟨.ok (wordKind (String.ofList (first :: name))), first :: name, '\'' :: text⟩ := by
  have stops : isNameChar '\'' = false := by decide
  rw [word, takeWhile_append chars (by simpa using stops)]
  rfl

end

/-- A name stops before the quote of a string, before that of a character, or before neither. -/
theorem word_front (next : List Char) : ∃ name tail, next = name ++ tail ∧
    (∀ c ∈ name, isNameChar c = true) ∧
      ((∃ text, tail = '"' :: text) ∨ (∃ text, tail = '\'' :: text) ∨ NameEnds tail) := by
  refine ⟨next.takeWhile isNameChar, next.dropWhile isNameChar, List.takeWhile_append_dropWhile.symm,
    List.all_eq_true.mp List.all_takeWhile, ?_⟩
  have stops := List.head?_dropWhile_not isNameChar next
  cases tail : next.dropWhile isNameChar with
  | nil => exact .inr (.inr nofun)
  | cons c text =>
    rw [tail] at stops
    by_cases string : c = '"'
    · exact .inl ⟨text, string ▸ rfl⟩
    · by_cases character : c = '\''
      · exact .inr (.inl ⟨text, character ▸ rfl⟩)
      · refine .inr (.inr ?_)
        rintro _ ⟨⟩
        exact ⟨by simpa using stops, string, character⟩

private theorem digit_goes_on {c : Char} (digit : c.isDigit = true) (hex : Bool) (last : Char) :
    (c.isAlphanum || c == '_' || c == '.' || isExponentSign hex last c) = true := by
  simp [Char.isAlphanum, digit]

theorem numberRest_digits {hex : Bool} {last : Char} {more rest : List Char}
    (start : last.isDigit = true) (digits : ∀ c ∈ more, c.isDigit = true)
    (ends : NumberEnds rest) :
    numberRest hex last (more ++ rest) = ⟨(), more, rest⟩ := by
  induction more generalizing last with
  | nil =>
    cases rest with
    | nil => rfl
    | cons c rest =>
      obtain ⟨notName, _, notMark⟩ := ends.1 c rfl
      have notDot : c ≠ '.' := fun same => ends.2 (by simp [same])
      simp only [isNameChar, Bool.or_eq_false_iff, beq_eq_false_iff_ne] at notName
      have notLetter : c.isAlphanum = false := by
        cases known : c.isAlphanum with
        | false => rfl
        | true =>
          rw [Char.isAlphanum, Bool.or_eq_true] at known
          simp only [Text.isAlphanumeric, Text.isAlphabetic, Text.isNumeric,
            Bool.or_eq_false_iff] at notName
          rcases known with letter | digit
          · rw [notName.1.1.1.1] at letter; cases letter
          · rw [notName.1.1.2.1] at digit; cases digit
      have notSign : isExponentSign hex last c = false := by
        have unlike : ∀ letter : Char, letter.isDigit = false → last ≠ letter := by
          rintro letter known rfl
          rw [known] at start
          cases start
        simp [isExponentSign, unlike 'p' (by decide), unlike 'P' (by decide),
          unlike 'e' (by decide), unlike 'E' (by decide)]
      simp [numberRest, notLetter, notName.1.2, notDot, notSign, notMark]
  | cons c more ih =>
    have digit := digits c (List.mem_cons_self ..)
    rw [List.cons_append, numberRest, if_pos (digit_goes_on digit hex last),
      ih digit fun c member => digits c (List.mem_cons_of_mem _ member)]
    rfl

private theorem hasDecimalExponent_digits {text : List Char}
    (digits : ∀ c ∈ text, c.isDigit = true) : hasDecimalExponent text = false := by
  fun_induction hasDecimalExponent text with
  | case1 a b c rest ih =>
    have unlike : ∀ letter : Char, letter.isDigit = false → b ≠ letter := by
      rintro letter known rfl
      rw [digits b (by simp)] at known
      cases known
    rw [ih fun d member => digits d (List.mem_cons_of_mem _ member)]
    simp [unlike 'e' (by decide), unlike 'E' (by decide)]
  | case2 => rfl

theorem numberKind_digits {text : List Char} (digits : ∀ c ∈ text, c.isDigit = true) :
    numberKind text = .integer (String.ofList text) := by
  have unlike : ∀ c ∈ text, ∀ letter : Char, letter.isDigit = false → c ≠ letter := by
    rintro c member letter known rfl
    rw [digits c member] at known
    cases known
  have noDot : text.contains '.' = false := by
    simp only [List.contains_eq_mem, decide_eq_false_iff_not]
    exact fun member => unlike _ member '.' (by decide) rfl
  have whole : isFloating text = false := by
    unfold isFloating
    split
    · exact absurd rfl (unlike 'x' (by simp) 'x' (by decide))
    · exact absurd rfl (unlike 'X' (by simp) 'X' (by decide))
    · rfl
    · rfl
    · rw [noDot, hasDecimalExponent_digits digits, Bool.or_false]
  rw [numberKind, whole]
  rfl

theorem scan_digits {first : Char} {more rest : List Char}
    (digits : ∀ c ∈ first :: more, c.isDigit = true) (ends : NumberEnds rest) :
    scan first (more ++ rest) =
      ⟨.ok (.integer (String.ofList (first :: more))), first :: more, rest⟩ := by
  have digit := digits first (List.mem_cons_self ..)
  have unlike : ∀ c : Char, c.isDigit = false → first ≠ c := by
    rintro c known rfl
    rw [digit] at known
    cases known
  rw [scan, number]
  simp only [beq_eq_false_iff_ne.mpr (unlike '"' (by decide)),
    beq_eq_false_iff_ne.mpr (unlike '\'' (by decide)), digit, Bool.or_false, Bool.true_or, if_true]
  rw [if_neg (by simp), numberRest_digits digit
    (fun c member => digits c (List.mem_cons_of_mem _ member)) ends]
  simp [Scan.after, Scan.map, numberKind_digits digits]

end Lexeme

/-- A name that is no reserved word. -/
def isIdentifier (text : String) : Bool :=
  Lexeme.isName text.toList && (Keyword.ofSpelling? text).isNone

/-- A number written in decimal digits alone. -/
def isDecimal (text : String) : Bool :=
  !text.toList.isEmpty && text.toList.all Char.isDigit

theorem GapPiece.first?_eq_none {c : Char} {rest : List Char} (solid : Text.isBlank c = false)
    (noSplice : c ≠ '\\') (noComment : c ≠ '/') : first? (c :: rest) = none := by
  have noBreak : c ≠ '\n' := by
    rintro rfl
    exact absurd solid (by decide)
  unfold first?
  split <;> simp_all

/-- The spelling is read as the token that it spells when the given text follows. -/
structure TokenKind.ReadsBefore (kind : TokenKind) (first : Char) (more rest : List Char) :
    Prop where
  spelled : kind.spelling.toList = first :: more
  unmarked : first ≠ '#'
  inLine : '\n' ∉ first :: more
  solid : GapPiece.first? (first :: (more ++ rest)) = none
  scanned : Lexeme.scan first (more ++ rest) = ⟨.ok kind, first :: more, rest⟩

namespace TokenKind

private theorem readsBefore_name {kind : TokenKind} {first : Char} {more rest : List Char}
    (spelled : kind.spelling.toList = first :: more) (name : Lexeme.isName (first :: more) = true)
    (known : Lexeme.wordKind (String.ofList (first :: more)) = kind)
    (ends : Lexeme.NameEnds rest) : kind.ReadsBefore first more rest := by
  simp only [Lexeme.isName, Bool.and_eq_true, List.all_eq_true] at name
  have unlike : ∀ c ∈ first :: more, ∀ other : Char, Lexeme.isNameChar other = false → c ≠ other := by
    rintro c member other known rfl
    have char : Lexeme.isNameChar c = true := by
      rcases List.mem_cons.mp member with rfl | later
      · exact Lexeme.isNameChar_of_isNameStart name.1
      · exact name.2 c later
    rw [char] at known
    cases known
  refine ⟨spelled, unlike first (by simp) '#' (by decide), ?_, ?_, ?_⟩
  · exact fun member => unlike '\n' member '\n' (by decide) rfl
  · exact GapPiece.first?_eq_none (Lexeme.isBlank_eq_false_of_isNameStart name.1)
      (unlike first (by simp) '\\' (by decide)) (unlike first (by simp) '/' (by decide))
  · rw [Lexeme.scan_eq_word name.1, Lexeme.word_of_ends name.2 ends, known]

theorem readsBefore_keyword (word : Keyword) {rest : List Char} (ends : Lexeme.NameEnds rest) :
    ∃ first more, (keyword word).ReadsBefore first more rest := by
  have name : Lexeme.isName word.spelling.toList = true := by
    cases word <;> decide
  cases spelled : word.spelling.toList with
  | nil => simp [spelled, Lexeme.isName] at name
  | cons first more =>
    refine ⟨first, more, readsBefore_name spelled (spelled ▸ name) ?_ ends⟩
    rw [← spelled, String.ofList_toList, Lexeme.wordKind, Keyword.ofSpelling?_spelling]

theorem readsBefore_identifier {ident : String} {rest : List Char}
    (valid : isIdentifier ident = true) (ends : Lexeme.NameEnds rest) :
    ∃ first more, (identifier ident).ReadsBefore first more rest := by
  simp only [isIdentifier, Bool.and_eq_true, Option.isNone_iff_eq_none] at valid
  cases spelled : ident.toList with
  | nil => simp [spelled, Lexeme.isName] at valid
  | cons first more =>
    refine ⟨first, more, readsBefore_name spelled (spelled ▸ valid.1) ?_ ends⟩
    rw [← spelled, String.ofList_toList, Lexeme.wordKind, valid.2]

theorem readsBefore_integer {text : String} {rest : List Char}
    (valid : isDecimal text = true) (ends : Lexeme.NumberEnds rest) :
    ∃ first more, (integer text).ReadsBefore first more rest := by
  simp only [isDecimal, Bool.and_eq_true, List.all_eq_true] at valid
  cases spelled : text.toList with
  | nil => simp [spelled] at valid
  | cons first more =>
    rw [spelled] at valid
    have unlike : ∀ c ∈ first :: more, ∀ other : Char, other.isDigit = false → c ≠ other := by
      rintro c member other known rfl
      rw [valid.2 c member] at known
      cases known
    refine ⟨first, more, spelled, unlike first (by simp) '#' (by decide), ?_, ?_, ?_⟩
    · exact fun member => unlike '\n' member '\n' (by decide) rfl
    · refine GapPiece.first?_eq_none ?_ (unlike first (by simp) '\\' (by decide))
        (unlike first (by simp) '/' (by decide))
      exact Text.isBlank_eq_false_of_isDigit (valid.2 first (by simp))
    · rw [Lexeme.scan_digits valid.2 ends, ← spelled, String.ofList_toList]

/-- A character that only a mark can start with. -/
private def isMarkChar (c : Char) : Bool :=
  !Text.isBlank c && !(['\\', '#', '"', '\''].contains c) && !c.isDigit && !Lexeme.isNameStart c

private theorem isMarkChar_of_mem (mark : Punctuator) (c : Char)
    (member : c ∈ mark.spelling.toList) : isMarkChar c = true := by
  have all : mark.spelling.toList.all isMarkChar = true := by cases mark <;> rfl
  exact List.all_eq_true.mp all c member

private theorem first?_mark {mark : Punctuator} {first : Char} {more rest : List Char}
    (spelled : mark.spelling.toList = first :: more)
    (stops : ∀ c ∈ rest.head?, mark.growsWith c = false) :
    GapPiece.first? (first :: (more ++ rest)) = none := by
  have marked := isMarkChar_of_mem mark first (by simp [spelled])
  simp only [isMarkChar, Bool.and_eq_true, Bool.not_eq_true', List.contains_eq_mem,
    decide_eq_false_iff_not, List.mem_cons, not_or] at marked
  by_cases slash : first = '/'
  · subst slash
    have next : ∀ c ∈ (more ++ rest).head?, c ≠ '/' ∧ c ≠ '*' := by
      cases mark <;> simp [Punctuator.spelling] at spelled <;> subst spelled
      · intro c head
        have := stops c head
        simp only [Punctuator.growsWith, Bool.or_eq_false_iff, beq_eq_false_iff_ne] at this
        exact ⟨this.1.2, this.2⟩
      · simp
    cases following : more ++ rest with
    | nil => rfl
    | cons c rest =>
      obtain ⟨noLine, noBlock⟩ := next c (by simp [following])
      simp [GapPiece.first?, noLine, noBlock]
      decide
  · exact GapPiece.first?_eq_none marked.1.1.1 marked.1.1.2.1 slash

theorem readsBefore_punctuator {mark : Punctuator} {rest : List Char}
    (stops : ∀ c ∈ rest.head?, mark.growsWith c = false) :
    ∃ first more, (punctuator mark).ReadsBefore first more rest := by
  cases spelled : mark.spelling.toList with
  | nil => cases mark <;> simp [Punctuator.spelling] at spelled
  | cons first more =>
    have marked := isMarkChar_of_mem mark first (by simp [spelled])
    have inLine : '\n' ∉ first :: more := fun member =>
      absurd (isMarkChar_of_mem mark '\n' (spelled ▸ member)) (by decide)
    simp only [isMarkChar, Bool.and_eq_true, Bool.not_eq_true', List.contains_eq_mem,
      decide_eq_false_iff_not, List.mem_cons, not_or] at marked
    obtain ⟨⟨⟨_, _, unmarked, notQuote, notMark, _⟩, notDigit⟩, notName⟩ := marked
    have notNumber : ¬ (first = '.' ∧ (more ++ rest).head?.any Char.isDigit = true) := by
      rintro ⟨rfl, digit⟩
      cases mark <;> simp [Punctuator.spelling] at spelled <;> subst spelled
      · cases rest with
        | nil => simp at digit
        | cons c rest =>
          have := stops c rfl
          simp_all [Punctuator.growsWith]
      · simp at digit
      · simp at digit
    refine ⟨first, more, spelled, unmarked, inLine, first?_mark spelled stops, ?_⟩
    rw [Lexeme.scan, if_neg (by simp [notQuote, notMark]), if_neg (by simpa [notDigit] using notNumber),
      if_neg (by simp [notName]), Lexeme.punctuator, Punctuator.longest?_spelling spelled stops]
    simp

end TokenKind

end CppSyntax
