import CppSyntax.Proofs.Lexing.Kinds
import CppSyntax.Proofs.Lexing.Lines
import CppSyntax.Proofs.Lexing.Number

/-!
Tokens written out one to a line. Each spelling is read as the token it comes from, whatever stood around
that token in its source. Only a directive can go on over the line break behind it: one that ends in a
backslash. The main result says that the same kinds are read back exactly when no such directive stands
before another token.
-/

namespace CppSyntax

open Text

/-- What a scan has found behind the front is found again where a line break follows. -/
def Scan.Repeats (front : List Char) (again : List Char → Scan α) (scan : Scan α) : Prop :=
  ∃ more, scan.used = front ++ more ∧
    ∀ rest, again (more ++ '\n' :: rest) = ⟨scan.value, scan.used, '\n' :: rest⟩

namespace Lexeme

theorem suffix_repeats (text : List Char) : (suffix text).Repeats [] suffix := by
  have empty : ∀ rest, suffix ('\n' :: rest) = ⟨(), [], '\n' :: rest⟩ := fun _ => rfl
  cases text with
  | nil => exact ⟨[], rfl, empty⟩
  | cons c text =>
    cases starts : isAlphabetic c || c == '_' with
    | false =>
      have same : suffix (c :: text) = ⟨(), [], c :: text⟩ := if_neg (by simp [starts])
      exact same ▸ ⟨[], rfl, empty⟩
    | true =>
      have same : suffix (c :: text) = Scan.takeWhile (fun c => isAlphanumeric c || c == '_') (c :: text) :=
        if_pos starts
      have continues : (isAlphanumeric c || c == '_') = true := by
        rcases Bool.or_eq_true _ _ ▸ starts with letter | low
        · simp [isAlphanumeric_of_isAlphabetic letter]
        · simp [low]
      have taken : (c :: text).takeWhile (fun c => isAlphanumeric c || c == '_') =
          c :: text.takeWhile fun c => isAlphanumeric c || c == '_' := by
        simp only [List.takeWhile_cons, continues, if_true]
      refine ⟨c :: text.takeWhile fun c => isAlphanumeric c || c == '_', ?_, fun rest => ?_⟩
      · rw [same]
        exact taken
      · have continued := List.all_eq_true.mp
          (List.all_takeWhile (p := fun c => isAlphanumeric c || c == '_') (l := c :: text))
        have stops : ∀ c ∈ ('\n' :: rest).head?, (isAlphanumeric c || c == '_') = false := by
          rintro _ ⟨⟩
          decide
        have again := takeWhile_append continued stops
        rw [taken] at again
        rw [same, List.cons_append, Scan.takeWhile, taken]
        exact (if_pos starts).trans again

theorem quotedRest_repeats {quote : Char} {text : List Char}
    (closed : (quotedRest quote text).value = true) (rest : List Char) :
    quotedRest quote ((quotedRest quote text).used ++ rest) =
      ⟨true, (quotedRest quote text).used, rest⟩ := by
  fun_induction quotedRest quote text with
  | case1 => cases closed
  | case2 => cases closed
  | case3 => cases closed
  | case4 c text ih =>
    simp only [Scan.after, List.cons_append, List.nil_append]
    rw [quotedRest, ih closed]
    rfl
  | case5 text inLine alone escaping =>
    exact (quotedRest_cons inLine (ne_escape alone escaping) rest).trans (if_pos rfl)
  | case6 c text inLine alone escaping other ih =>
    simp only [Scan.after, List.cons_append, List.nil_append]
    rw [quotedRest_cons inLine (ne_escape alone escaping), if_neg other, ih closed]
    rfl

theorem quoted_repeats {front : List Char} {quote : Char} {next : List Char} {kind : TokenKind}
    (value : (quoted front quote next).value = .ok kind) :
    (quoted front quote next).Repeats front (quoted front quote) := by
  cases closed : (quotedRest quote next).value with
  | false => cases (quoted_open closed front).symm.trans value
  | true =>
    obtain ⟨more, used, again⟩ := suffix_repeats (quotedRest quote next).rest
    refine ⟨(quotedRest quote next).used ++ more, ?_, fun rest => ?_⟩
    · rw [quoted_closed closed]
      simp [Scan.map, Scan.after, used]
    · have body := quotedRest_repeats closed (more ++ '\n' :: rest)
      rw [List.append_assoc, quoted_closed (by rw [body]), quoted_closed closed, body, again]
      rfl

theorem rawDelimiter_repeats {size : Nat} {text delimiter : List Char}
    (opened : (rawDelimiter size text).value = some delimiter) (rest : List Char) :
    rawDelimiter size ((rawDelimiter size text).used ++ rest) =
      ⟨some delimiter, (rawDelimiter size text).used, rest⟩ := by
  fun_induction rawDelimiter size text generalizing delimiter with
  | case1 => cases opened
  | case2 => cases opened; rfl
  | case3 size c text notOpen fits ih =>
    obtain ⟨more, found, rfl⟩ := Option.map_eq_some_iff.mp opened
    simp only [Scan.map, Scan.after, List.cons_append, List.nil_append]
    rw [rawDelimiter_cons notOpen, if_pos fits, ih found]
    rfl
  | case4 => cases opened

/-- What is read of a raw string ends with its closing text. -/
theorem rawRest_closed {closing text : List Char} (closed : (rawRest closing text).value = true) :
    closing <:+ (rawRest closing text).used := by
  fun_induction rawRest closing text with
  | case1 => cases closed
  | case2 c text found =>
    have whole := List.prefix_iff_eq_take.mp (List.isPrefixOf_iff_prefix.mp found)
    exact whole ▸ List.suffix_refl closing
  | case3 c text absent ih => exact (ih closed).trans (List.suffix_cons c _)

theorem rawRest_repeats {closing text : List Char} (nonempty : closing ≠ [])
    (closed : (rawRest closing text).value = true) (rest : List Char) :
    rawRest closing ((rawRest closing text).used ++ rest) = ⟨true, (rawRest closing text).used, rest⟩ := by
  fun_induction rawRest closing text with
  | case1 => cases closed
  | case2 c text found =>
    have whole := List.prefix_iff_eq_take.mp (List.isPrefixOf_iff_prefix.mp found)
    simp only [← whole]
    obtain ⟨first, more, rfl⟩ := List.exists_cons_of_ne_nil nonempty
    have front : (first :: more).isPrefixOf (first :: (more ++ rest)) = true :=
      List.isPrefixOf_iff_prefix.mpr ⟨rest, rfl⟩
    rw [List.cons_append, rawRest, if_pos front, ← List.cons_append, List.take_left, List.drop_left]
  | case3 c text absent ih =>
    -- The closing text fits into what was read, so no longer text can make it start any earlier.
    have fits : closing.length ≤ (c :: (rawRest closing text).used).length :=
      Nat.le_trans (rawRest_closed closed).length_le (Nat.le_succ _)
    have divided : (rawRest closing text).used ++ (rawRest closing text).rest = text :=
      rawRest_divides closing text
    have stillAbsent : ¬ closing.isPrefixOf (c :: ((rawRest closing text).used ++ rest)) = true := by
      intro found
      have inside := List.prefix_of_prefix_length_le (List.isPrefixOf_iff_prefix.mp found)
        (List.prefix_append (c :: (rawRest closing text).used) rest) fits
      refine absent (List.isPrefixOf_iff_prefix.mpr (inside.trans ⟨(rawRest closing text).rest, ?_⟩))
      rw [List.cons_append, divided]
    simp only [Scan.after, List.cons_append, List.nil_append]
    rw [rawRest, if_neg stillAbsent, ih closed]
    rfl

theorem rawString_repeats {front next : List Char} {kind : TokenKind}
    (value : (rawString front next).value = .ok kind) :
    (rawString front next).Repeats front (rawString front) := by
  cases delimited : (rawDelimiter 0 next).value with
  | none => cases (rawString_undelimited rfl delimited front).symm.trans value
  | some delimiter =>
    have opening := rawDelimiter_repeats delimited
    generalize opened : rawDelimiter 0 next = scan at delimited opening
    cases closed : (rawRest (')' :: delimiter ++ ['"']) scan.rest).value with
    | false => cases (rawString_open opened delimited rfl closed front).symm.trans value
    | true =>
      have body := rawRest_repeats (by simp) closed
      generalize read : rawRest (')' :: delimiter ++ ['"']) scan.rest = inside at closed body
      obtain ⟨more, used, again⟩ := suffix_repeats inside.rest
      rw [rawString_closed opened delimited read closed]
      refine ⟨scan.used ++ (inside.used ++ more), by simp [Scan.map, Scan.after, used], fun rest => ?_⟩
      have behind := body (more ++ '\n' :: rest)
      rw [List.append_assoc, List.append_assoc, rawString_closed (opening _) rfl behind rfl, again]
      rfl

/-- Nothing that a line break starts goes on with a name or a number. -/
theorem literalEnds_line (rest : List Char) : LiteralEnds ('\n' :: rest) :=
  ⟨numberEnds_of_head (by decide), by simp, by simp⟩

/-- A number goes on with a letter or a digit that stands next. -/
theorem any_head?_numberRest {p : Char → Bool} (letters : ∀ c, p c = true → c.isAlphanum = true)
    (hex : Bool) (last : Char) (text : List Char) :
    (numberRest hex last text).used.head?.any p = text.head?.any p := by
  cases text with
  | nil => rfl
  | cons c text =>
    unfold numberRest
    split
    · rfl
    · rename_i ends
      have other : p c = false := Bool.eq_false_iff.mpr fun holds => ends (by simp [letters c holds])
      split
      · rfl
      · simp [other]

/-- What is read of a number is all of one. -/
theorem numberRest_used (hex : Bool) (last : Char) (text : List Char) :
    (numberRest hex last (numberRest hex last text).used).rest = [] := by
  fun_induction numberRest hex last text with
  | case1 => rfl
  | case2 last c text goesOn ih =>
    simp only [Scan.after, List.cons_append, List.nil_append]
    rw [numberRest, if_pos goesOn]
    exact ih
  | case3 last c text noLetter mark ih =>
    simp only [Scan.after, List.cons_append, List.nil_append]
    rw [numberRest, if_neg noLetter, any_head?_numberRest (fun _ => id), if_pos mark]
    exact ih
  | case4 => rfl

theorem number_repeats (first : Char) (next : List Char) :
    (number first next).Repeats [first] (number first) := by
  have letters : ∀ c : Char, (c == 'x' || c == 'X') = true → c.isAlphanum = true := by
    intro c isX
    rcases Bool.or_eq_true _ _ ▸ isX with small | large
    · rw [eq_of_beq small]
      decide
    · rw [eq_of_beq large]
      decide
  refine ⟨(numberRest (first == '0' && next.head?.any fun c => c == 'x' || c == 'X') first next).used,
    rfl, fun rest => ?_⟩
  refine number_append ?_ (literalEnds_line rest)
  rw [number, any_head?_numberRest letters]
  exact numberRest_used ..

/-- A literal is found again behind the name that marks it. -/
theorem marked_repeats {first : Char} {name : List Char} {quote : Char}
    {read : List Char → Scan (Except LexFault TokenKind)}
    (marks : ∀ text, word first (name ++ quote :: text) = read text) {text : List Char}
    (repeats : (read text).Repeats (first :: name ++ [quote]) read) :
    (read text).Repeats [first] (word first) := by
  obtain ⟨more, used, again⟩ := repeats
  refine ⟨name ++ quote :: more, by simp [used], fun rest => ?_⟩
  rw [List.append_assoc, List.cons_append, marks, again]

theorem name_repeats {first : Char} {name : List Char} (chars : ∀ c ∈ name, isNameChar c = true)
    (tail : List Char) : Scan.Repeats [first] (word first)
      ⟨.ok (wordKind (String.ofList (first :: name))), first :: name, tail⟩ :=
  ⟨name, rfl, fun rest => word_of_ends chars (literalEnds_line rest).1.1⟩

theorem word_repeats {first : Char} {next : List Char} {kind : TokenKind}
    (value : (word first next).value = .ok kind) : (word first next).Repeats [first] (word first) := by
  obtain ⟨name, tail, rfl, chars, ends⟩ := word_front next
  rcases ends with ⟨text, rfl⟩ | ⟨text, rfl⟩ | ends
  · by_cases encoded : String.ofList (first :: name) ∈ ["u8", "u", "U", "L"]
    · have marks := fun text => (word_string chars text).trans (if_pos encoded)
      rw [marks] at value ⊢
      exact marked_repeats marks (quoted_repeats value)
    · by_cases raw : String.ofList (first :: name) ∈ ["R", "u8R", "uR", "UR", "LR"]
      · have marks := fun text => (word_string chars text).trans ((if_neg encoded).trans (if_pos raw))
        rw [marks] at value ⊢
        exact marked_repeats marks (rawString_repeats value)
      · rw [word_string chars, if_neg encoded, if_neg raw]
        exact name_repeats chars _
  · by_cases encoded : String.ofList (first :: name) ∈ ["u8", "u", "U", "L"]
    · have marks := fun text => (word_character chars text).trans (if_pos encoded)
      rw [marks] at value ⊢
      exact marked_repeats marks (quoted_repeats value)
    · rw [word_character chars, if_neg encoded]
      exact name_repeats chars _
  · rw [word_of_ends chars ends]
    exact name_repeats chars _

theorem punctuator_repeats {first : Char} {next : List Char} {kind : TokenKind}
    (value : (punctuator first next).value = .ok kind) :
    (punctuator first next).Repeats [first] (punctuator first) := by
  cases found : Punctuator.longest? first next with
  | none =>
    rw [punctuator, found] at value
    cases value
  | some mark =>
    obtain ⟨mark, size⟩ := mark
    have length := (Punctuator.longest?_stops found).1
    have stops : mark.growsWith '\n' = false := by cases mark <;> rfl
    refine ⟨next.take size, by rw [punctuator, found]; rfl, fun rest => ?_⟩
    have again : Punctuator.longest? first (next.take size ++ '\n' :: rest) = some (mark, (next.take size).length) :=
      Punctuator.longest?_spelling (longest?_spells found) (by simpa using stops)
    rw [punctuator, again, punctuator, found, length]
    simp [List.take_left' length, List.drop_left' length]

/-- The token at the front of a text that starts with neither a quote nor a number. -/
def wordOrMark (first : Char) (next : List Char) : Scan (Except LexFault TokenKind) :=
  if isNameStart first then word first next else punctuator first next

theorem wordOrMark_repeats {first : Char} {next : List Char} {kind : TokenKind}
    (value : (wordOrMark first next).value = .ok kind) :
    (wordOrMark first next).Repeats [first] (wordOrMark first) := by
  by_cases starts : isNameStart first = true
  · have same : wordOrMark first = word first := funext fun _ => if_pos starts
    rw [same] at value ⊢
    exact word_repeats value
  · have same : wordOrMark first = punctuator first := funext fun _ => if_neg starts
    rw [same] at value ⊢
    exact punctuator_repeats value

/-- Every token but a directive is found again before a line break. -/
theorem scan_repeats {first : Char} {next : List Char} {kind : TokenKind}
    (value : (scan first next).value = .ok kind) : (scan first next).Repeats [first] (scan first) := by
  cases quote : first == '"' || first == '\'' with
  | true =>
    have same : scan first = quoted [first] first := funext fun _ => if_pos quote
    rw [same] at value ⊢
    exact quoted_repeats value
  | false =>
    have other : ∀ text, scan first text =
        if first.isDigit || (first == '.' && text.head?.any Char.isDigit) then (number first text).map .ok
        else wordOrMark first text :=
      fun _ => if_neg (by simp [quote])
    have divides := scan_divides first next
    rw [other] at value divides ⊢
    have noDigit : ∀ rest, ('\n' :: rest).head?.any Char.isDigit = false := fun _ => rfl
    by_cases digit : (first.isDigit || (first == '.' && next.head?.any Char.isDigit)) = true
    · obtain ⟨more, used, again⟩ := number_repeats first next
      have front := any_head?_numberRest (p := Char.isDigit) (fun c known => by simp [Char.isAlphanum, known])
        (first == '0' && next.head?.any fun c => c == 'x' || c == 'X') first next
      rw [show (numberRest _ first next).used = more from (List.cons.inj used).2] at front
      rw [if_pos digit]
      refine ⟨more, used, fun rest => ?_⟩
      have alike : (more ++ '\n' :: rest).head?.any Char.isDigit = next.head?.any Char.isDigit := by
        rw [← front]
        cases more with
        | nil => exact noDigit rest
        | cons => rfl
      rw [other, alike, if_pos digit, again]
      rfl
    · rw [if_neg digit] at value divides ⊢
      obtain ⟨more, used, again⟩ := wordOrMark_repeats value
      refine ⟨more, used, fun rest => ?_⟩
      have alike : (more ++ '\n' :: rest).head?.any Char.isDigit = true →
          next.head?.any Char.isDigit = true := by
        rw [Scan.Divides, used] at divides
        rw [← (List.cons.inj divides).2]
        cases more with
        | nil => exact fun known => absurd ((noDigit rest).symm.trans known) Bool.false_ne_true
        | cons => exact id
      rw [other, if_neg, again]
      simp only [Bool.or_eq_true, Bool.and_eq_true] at digit ⊢
      exact fun known => digit (known.imp id fun dot => ⟨dot.1, alike dot.2⟩)

end Lexeme

namespace Text

/-- Only blanks are trimmed. -/
theorem trimEnd_append (text : List Char) :
    ∃ blanks, trimEnd text ++ blanks = text ∧ ∀ c ∈ blanks, isBlank c = true := by
  refine ⟨(text.reverse.takeWhile isBlank).reverse, ?_, fun c member => ?_⟩
  · rw [trimEnd, ← List.reverse_append, List.takeWhile_append_dropWhile, List.reverse_reverse]
  · exact List.all_eq_true.mp List.all_takeWhile c (List.mem_reverse.mp member)

/-- No blank is left at the end. -/
theorem trimEnd_solid (text : List Char) : ∀ c ∈ (trimEnd text).getLast?, isBlank c = false := by
  intro c last
  have stops := List.head?_dropWhile_not isBlank text.reverse
  rw [trimEnd, List.getLast?_reverse] at last
  rw [show (text.reverse.dropWhile isBlank).head? = some c from last] at stops
  simpa using stops

end Text

theorem splicesBreaks_lineFeed (text : List Char) : splicesBreaks ('\n' :: text) = false := rfl

theorem splicesBreaks_cons {c : Char} {text : List Char} (inLine : c ≠ '\n')
    (spliced : splicesBreaks text = true) : splicesBreaks (c :: text) = true := by
  unfold splicesBreaks
  split
  · rename_i same
    obtain ⟨_, rfl⟩ := List.cons.inj same
    exact absurd ((splicesBreaks_lineFeed _).symm.trans spliced) Bool.false_ne_true
  · rename_i same
    cases same
    simp [inLine, spliced]
  · rfl

theorem splicesBreaks_front {front text : List Char} (inside : front <+: text)
    (spliced : splicesBreaks text = true) : splicesBreaks front = true := by
  fun_induction splicesBreaks text generalizing front with
  | case1 text ih =>
    rcases front with _ | ⟨c, _ | ⟨d, front⟩⟩
    · rfl
    · obtain ⟨rfl, _⟩ := List.cons_prefix_cons.mp inside
      rfl
    · obtain ⟨rfl, second⟩ := List.cons_prefix_cons.mp inside
      obtain ⟨rfl, behind⟩ := List.cons_prefix_cons.mp second
      have later := ih behind spliced
      exact later
  | case2 c text other ih =>
    simp only [Bool.and_eq_true, bne_iff_ne] at spliced
    cases front with
    | nil => rfl
    | cons d front =>
      obtain ⟨rfl, behind⟩ := List.cons_prefix_cons.mp inside
      exact splicesBreaks_cons spliced.1 (ih behind spliced.2)
  | case3 => rw [List.prefix_nil.mp inside]; rfl

namespace Lexeme

theorem splicesBreaks_directiveLine (text : List Char) :
    splicesBreaks (directiveLine text).value = true := by
  fun_induction directiveLine text with
  | case1 => rfl
  | case2 => rfl
  | case3 rest ih => exact ih
  | case4 rest ih => exact ih
  | case5 c rest inLine _ _ ih => exact splicesBreaks_cons inLine ih

/-- The text of a directive. -/
theorem directive_text (next : List Char) : ∃ more,
    (directive ('#' :: next)).value = .ok (.directive (String.ofList ('#' :: more))) ∧
      splicesBreaks ('#' :: more) = true ∧ ∀ c ∈ ('#' :: more).getLast?, isBlank c = false := by
  have line : (directiveLine ('#' :: next)).value = '#' :: (directiveLine next).value := by
    rw [directiveLine_cons (by decide) (fun _ mark => absurd mark (by decide))
      fun _ mark => absurd mark (by decide)]
    rfl
  obtain ⟨blanks, whole, blank⟩ := trimEnd_append ('#' :: (directiveLine next).value)
  have solid := trimEnd_solid ('#' :: (directiveLine next).value)
  have spliced := splicesBreaks_front ⟨blanks, whole⟩ (line ▸ splicesBreaks_directiveLine ('#' :: next))
  cases trimmed : trimEnd ('#' :: (directiveLine next).value) with
  | nil =>
    rw [trimmed, List.nil_append] at whole
    exact absurd (blank '#' (by simp [whole])) (by decide)
  | cons c more =>
    rw [trimmed] at whole solid spliced
    obtain ⟨rfl, _⟩ := List.cons.inj whole
    refine ⟨more, ?_, spliced, solid⟩
    rw [directive, Scan.map, line, trimmed]

/-- A directive that does not end in a backslash ends before a line break. -/
theorem directive_repeats {text : List Char} (spliced : splicesBreaks text = true)
    (solid : ∀ c ∈ text.getLast?, isBlank c = false) (finished : text.getLast? ≠ some '\\')
    (rest : List Char) : directive (text ++ '\n' :: rest) =
      ⟨.ok (.directive (String.ofList text)), text, '\n' :: rest⟩ := by
  rw [directive, directiveLine_of_spliced spliced solid finished, Scan.map, trimEnd_eq_self solid]

/-- Behind a text that breaks its lines after backslashes only, a line goes on. -/
theorem directiveLine_append {text : List Char} (spliced : splicesBreaks text = true) (rest : List Char) :
    directiveLine (text ++ '\\' :: rest) = ((directiveLine ('\\' :: rest)).after text).map (text ++ ·) := by
  fun_induction splicesBreaks text with
  | case1 text ih =>
    rw [List.cons_append, List.cons_append, directiveLine, ih spliced]
    rfl
  | case2 c text other ih =>
    simp only [Bool.and_eq_true, bne_iff_ne] at spliced
    rw [List.cons_append, directiveLine_cons spliced.1, ih spliced.2]
    · rfl
    · intro more mark same
      cases text with
      | nil => cases same
      | cons d text =>
        obtain ⟨rfl, _⟩ := List.cons.inj same
        exact other text mark rfl
    · intro more mark same
      rcases text with _ | ⟨d, _ | ⟨d', text⟩⟩
      · cases same
      · cases same
      · cases same
        exact absurd spliced.2 (by simp [splicesBreaks])
  | case3 => rfl

theorem directiveLine_head {c : Char} (inLine : c ≠ '\n') (rest : List Char) :
    ∃ more, (directiveLine (c :: rest)).value = c :: more := by
  unfold directiveLine
  split
  · rename_i empty
    cases empty
  · rename_i same
    exact absurd (List.cons.inj same).1 inLine
  · rename_i same
    cases same
    exact ⟨_, rfl⟩
  · rename_i same
    cases same
    exact ⟨_, rfl⟩
  · rename_i same
    cases same
    exact ⟨_, rfl⟩

section

variable {text : List Char} (spliced : splicesBreaks text = true) (splice : text.getLast? = some '\\')

include spliced splice

/-- A directive that ends in a backslash goes on over the line break behind it. -/
theorem directiveLine_goesOn (rest : List Char) : directiveLine (text ++ '\n' :: rest) =
    ((directiveLine rest).after (text ++ ['\n'])).map (text ++ '\n' :: ·) := by
  obtain ⟨front, rfl⟩ := List.getLast?_eq_some_iff.mp splice
  have appended := directiveLine_append (splicesBreaks_front (List.prefix_append front _) spliced) ('\n' :: rest)
  rw [List.append_assoc, List.singleton_append, appended, directiveLine]
  simp [Scan.map, Scan.after]

/-- It ends where nothing but an empty line follows. -/
theorem directive_ended : directive (text ++ ['\n', '\n']) =
    ⟨.ok (.directive (String.ofList text)), text ++ ['\n'], ['\n']⟩ := by
  have solid : ∀ c ∈ text.getLast?, isBlank c = false := by
    rw [splice]
    rintro _ ⟨⟩
    decide
  have trimmed : trimEnd (text ++ ['\n']) = text :=
    (trimEnd_concat (by decide) text).trans (trimEnd_eq_self solid)
  rw [directive, directiveLine_goesOn spliced splice]
  simp [directiveLine, Scan.map, Scan.after, trimmed]

/-- Anything else that follows becomes a part of it. -/
theorem directive_goesOn {c : Char} (solid : isBlank c = false) (rest : List Char) :
    (directive (text ++ '\n' :: c :: rest)).value ≠ .ok (.directive (String.ofList text)) := by
  intro same
  have inLine : c ≠ '\n' := by
    rintro rfl
    exact absurd solid (by decide)
  obtain ⟨more, line⟩ := directiveLine_head inLine rest
  rw [directive, directiveLine_goesOn spliced splice] at same
  simp only [Scan.map, Scan.after, line, Except.ok.injEq, TokenKind.directive.injEq, String.ofList_inj] at same
  obtain ⟨blanks, whole, blank⟩ := trimEnd_append (text ++ '\n' :: c :: more)
  rw [same] at whole
  have inside : c ∈ blanks := by
    rw [List.append_cancel_left whole]
    simp
  exact absurd (blank c inside) (by simp [solid])

end

end Lexeme

/-- A token other than a directive starts no gap before a line break either. -/
theorem GapPiece.first?_again {first : Char} {next more : List Char}
    (solid : first? (first :: next) = none) (front : more <+: next) (noSplice : first ≠ '\\')
    (rest : List Char) : first? (first :: (more ++ '\n' :: rest)) = none := by
  by_cases slash : first = '/'
  · subst slash
    have stops : Text.isBlank '/' = false := by decide
    cases more with
    | nil => simp [first?, stops]
    | cons c more =>
      obtain ⟨tail, rfl⟩ := front
      have noLine : c ≠ '/' := by
        rintro rfl
        cases solid
      have noBlock : c ≠ '*' := by
        rintro rfl
        cases solid
      simp [first?, noLine, noBlock, stops]
  · exact first?_eq_none (isBlank_eq_false solid) noSplice slash

/-- The spellings of tokens, each on a line of its own. -/
def TokenKind.lines (kinds : List TokenKind) : List Char :=
  kinds.flatMap fun kind => kind.spelling.toList ++ ['\n']

/-- A directive that ends in a backslash stands right before the end, if at all. -/
def TokenKind.DirectivesEnd (kinds : List TokenKind) : Prop :=
  ∀ text next, [.directive text, next] <:+: kinds → text.toList.getLast? = some '\\' → next = .endOfFile

namespace TokenKind

theorem lines_cons (kind : TokenKind) (kinds : List TokenKind) :
    lines (kind :: kinds) = kind.spelling.toList ++ '\n' :: lines kinds := by
  simp [lines]

theorem directivesEnd_cons {kind : TokenKind} {kinds : List TokenKind}
    (ends : ∀ text, kind = .directive text → text.toList.getLast? ≠ some '\\') :
    DirectivesEnd (kind :: kinds) ↔ DirectivesEnd kinds := by
  constructor
  · exact fun all text next inside => all text next (inside.trans (List.suffix_cons kind kinds).isInfix)
  · intro all text next inside splice
    rcases List.infix_cons_iff.mp inside with front | later
    · exact absurd splice (ends text (List.cons_prefix_cons.mp front).1.symm)
    · exact all text next later splice

end TokenKind

namespace Token

/-- A token other than a directive on a line of its own. -/
theorem kindsFrom_scanned {first : Char} {next : List Char} {kind : TokenKind}
    (solid : GapPiece.first? (first :: next) = none) (value : (Lexeme.scan first next).value = .ok kind)
    (afterToken : Bool) (gap : Gap) (place : Location) (rest : List Char) :
    ∃ gap' place', kindsFrom afterToken gap ⟨kind.spelling.toList ++ '\n' :: rest, place, true⟩ =
      (kindsFrom true gap' ⟨rest, place', true⟩).map (kind :: ·) := by
  have plain : first ∉ ['\\', '#', '\ufeff'] := fun stray => by
    cases (Lexeme.scan_stray stray next).symm.trans value
  simp only [List.mem_cons, not_or] at plain
  obtain ⟨more, used, again⟩ := Lexeme.scan_repeats value
  have front : more <+: next := by
    have divides : (Lexeme.scan first next).used ++ _ = first :: next := Lexeme.scan_divides first next
    rw [used] at divides
    exact ⟨_, (List.cons.inj divides).2⟩
  have scanned : scanKind ⟨first :: (more ++ '\n' :: rest), place, true⟩ first (more ++ '\n' :: rest) =
      ⟨.ok kind, [first] ++ more, '\n' :: rest⟩ := by
    rw [scanKind, startsDirective, beq_false_of_ne plain.2.1, Bool.false_and, if_neg Bool.false_ne_true,
      again, value, used]
  rw [Lexeme.scan_spelling value, used]
  exact kindsFrom_line rfl (GapPiece.first?_again solid front plain.1 rest) scanned

/-- A directive on a line of its own. -/
theorem kindsFrom_directive {more : List Char} (spliced : splicesBreaks ('#' :: more) = true)
    (solid : ∀ c ∈ ('#' :: more).getLast?, Text.isBlank c = false)
    (finished : ('#' :: more).getLast? ≠ some '\\')
    (afterToken : Bool) (gap : Gap) (place : Location) (rest : List Char) :
    ∃ gap' place', kindsFrom afterToken gap ⟨'#' :: more ++ '\n' :: rest, place, true⟩ =
      (kindsFrom true gap' ⟨rest, place', true⟩).map (.directive (String.ofList ('#' :: more)) :: ·) :=
  kindsFrom_line rfl rfl (Lexeme.directive_repeats spliced solid finished rest)

/-- The kinds of the tokens of a source: the end alone, or one whose spelling starts with something that
can be seen. -/
inductive OpenSolid : List TokenKind → Prop where
  | ended : OpenSolid [.endOfFile]
  | token {kind : TokenKind} {kinds : List TokenKind} {first : Char} {more : List Char}
      (spelled : kind.spelling.toList = first :: more) (solid : Text.isBlank first = false)
      (unmarked : first ≠ '\ufeff') : OpenSolid (kind :: kinds)

theorem OpenSolid.unmarked {kinds : List TokenKind} (opens : OpenSolid kinds) :
    (TokenKind.lines kinds).head? ≠ some '\ufeff' := by
  cases opens with
  | ended => decide
  | token spelled solid unmarked =>
    rw [TokenKind.lines_cons, spelled]
    simpa using unmarked

theorem scanKind_spelling {cursor : Cursor} {first : Char} {next : List Char} {kind : TokenKind}
    (value : (scanKind cursor first next).value = .ok kind) :
    (∃ more, kind.spelling.toList = first :: more) ∧ first ≠ '\ufeff' := by
  unfold scanKind at value
  split at value
  · rename_i starts
    simp only [startsDirective, Bool.and_eq_true, beq_iff_eq] at starts
    obtain ⟨rfl, _⟩ := starts
    obtain ⟨more, text, _⟩ := Lexeme.directive_text next
    cases value.symm.trans text
    exact ⟨⟨more, String.toList_ofList⟩, by decide⟩
  · obtain ⟨more, used, _⟩ := Lexeme.scan_repeats value
    refine ⟨⟨more, (Lexeme.scan_spelling value).trans used⟩, ?_⟩
    rintro rfl
    cases (Lexeme.scan_stray (by simp) next).symm.trans value

theorem readAfter_openSolid {gap : Gap} {cursor : Cursor} {tokens : List Token}
    (solid : GapPiece.first? cursor.rest = none) (read : (readAfter gap cursor).1 = .ok tokens) :
    OpenSolid (tokens.map (·.kind)) := by
  fun_cases readAfter gap cursor with
  | case1 ended =>
    rw [readAfter_nil ended] at read
    cases read
    exact .ended
  | case2 first next front scan past fault value =>
    rw [readAfter_fault front value] at read
    cases read
  | case3 first next front scan past kind value error stopped found =>
    rw [readAfter_gapFault front value (congrArg Prod.fst found)] at read
    cases read
  | case4 first next front scan past kind value after reached found =>
    rw [readAfter_cons front value found] at read
    obtain ⟨⟨more, spelled⟩, unmarked⟩ := scanKind_spelling value
    rw [front] at solid
    cases later : (readAfter after reached).1 with
    | error error =>
      rw [later] at read
      cases read
    | ok behind =>
      rw [later] at read
      cases read
      exact .token spelled (GapPiece.isBlank_eq_false solid) unmarked

/-- A directive that ends in a backslash is read back only where it is the last token. -/
theorem kindsFrom_unfinished {more : List Char} (spliced : splicesBreaks ('#' :: more) = true)
    (splice : ('#' :: more).getLast? = some '\\') {kinds : List TokenKind} (opens : OpenSolid kinds)
    (afterToken : Bool) (gap : Gap) (place : Location) :
    kindsFrom afterToken gap ⟨'#' :: more ++ '\n' :: TokenKind.lines kinds, place, true⟩ =
        some (.directive (String.ofList ('#' :: more)) :: kinds) ↔
      TokenKind.DirectivesEnd (.directive (String.ofList ('#' :: more)) :: kinds) := by
  cases opens with
  | ended =>
    refine iff_of_true ?_ fun text next inside _ => ?_
    · obtain ⟨gap', place', same⟩ := @kindsFrom_line afterToken gap ⟨'#' :: more ++ '\n' :: ['\n'], place, true⟩
        _ _ _ _ _ rfl rfl (Lexeme.directive_ended spliced splice)
      rw [show TokenKind.lines [.endOfFile] = ['\n'] from rfl, same, kindsFrom_nil rfl]
      rfl
    · rcases List.infix_cons_iff.mp inside with front | later
      · obtain ⟨_, behind⟩ := List.cons_prefix_cons.mp front
        exact (List.cons_prefix_cons.mp behind).1
      · exact absurd later.length_le (by simp)
  | @token kind kinds first tail spelled solid =>
    refine iff_of_false (fun same => ?_) fun ends => ?_
    · have line : TokenKind.lines (kind :: kinds) = first :: (tail ++ '\n' :: TokenKind.lines kinds) := by
        rw [TokenKind.lines_cons, spelled]
        rfl
      have absorbs := Lexeme.directive_goesOn spliced splice solid (tail ++ '\n' :: TokenKind.lines kinds)
      rw [← line] at absorbs
      obtain ⟨text, value, _⟩ := Lexeme.directive_text (more ++ '\n' :: TokenKind.lines (kind :: kinds))
      have step := @kindsFrom_token afterToken gap
        ⟨'#' :: more ++ '\n' :: TokenKind.lines (kind :: kinds), place, true⟩ _ _ _ rfl rfl value
      rw [step] at same
      obtain ⟨_, _, front⟩ := Option.map_eq_some_iff.mp same
      exact absorbs (value.trans (congrArg Except.ok (List.cons.inj front).1))
    · have isEnd := ends (String.ofList ('#' :: more)) kind ⟨[], kinds, rfl⟩
        (by rw [String.toList_ofList, splice])
      rw [isEnd] at spelled
      cases spelled

/-- What follows is read back behind a token on a line of its own. -/
theorem kindsFrom_cons {kind : TokenKind} {kinds : List TokenKind} {afterToken : Bool} {gap : Gap}
    {place : Location} (ends : ∀ text, kind = .directive text → text.toList.getLast? ≠ some '\\')
    (step : ∃ gap' place', kindsFrom afterToken gap
      ⟨kind.spelling.toList ++ '\n' :: TokenKind.lines kinds, place, true⟩ =
        (kindsFrom true gap' ⟨TokenKind.lines kinds, place', true⟩).map (kind :: ·))
    (later : ∀ afterToken gap place, kindsFrom afterToken gap ⟨TokenKind.lines kinds, place, true⟩ =
      some kinds ↔ TokenKind.DirectivesEnd kinds) :
    kindsFrom afterToken gap ⟨TokenKind.lines (kind :: kinds), place, true⟩ = some (kind :: kinds) ↔
      TokenKind.DirectivesEnd (kind :: kinds) := by
  obtain ⟨gap', place', same⟩ := step
  rw [TokenKind.lines_cons, same, TokenKind.directivesEnd_cons ends, ← later true gap' place',
    Option.map_eq_some_iff]
  constructor
  · rintro ⟨found, read, front⟩
    exact (List.cons.inj front).2 ▸ read
  · exact fun read => ⟨kinds, read, rfl⟩

/-- From the start of a line on, the lines of the tokens that were read are read back. -/
theorem kindsFrom_lines {gap : Gap} {cursor : Cursor} {tokens : List Token}
    (solid : GapPiece.first? cursor.rest = none) (read : (readAfter gap cursor).1 = .ok tokens)
    (afterToken : Bool) (gap' : Gap) (place : Location) :
    kindsFrom afterToken gap' ⟨TokenKind.lines (tokens.map (·.kind)), place, true⟩ =
        some (tokens.map (·.kind)) ↔ TokenKind.DirectivesEnd (tokens.map (·.kind)) := by
  fun_induction readAfter gap cursor generalizing tokens afterToken gap' place with
  | case1 gap cursor ended =>
    cases read
    refine iff_of_true ?_ fun _ _ inside => absurd inside.length_le (by simp)
    exact (kindsFrom_lineBreak rfl).trans (kindsFrom_nil rfl)
  | case2 => cases read
  | case3 => cases read
  | case4 gap cursor first next front scan past kind value after reached found token following =>
    rename_i stopped same ih
    cases following with
    | error error => cases read
    | ok behind =>
      cases read
      obtain ⟨reachedSolid, _⟩ := Gap.read_reached found
      have later : (readAfter after reached).1 = .ok behind := congrArg Prod.fst same
      have tail := ih reachedSolid later
      rw [front] at solid
      rw [List.map_cons]
      by_cases starts : startsDirective cursor first = true
      · have scanned : scan = Lexeme.directive (first :: next) := if_pos starts
        simp only [startsDirective, Bool.and_eq_true, beq_iff_eq] at starts
        obtain ⟨rfl, _⟩ := starts
        obtain ⟨more, text, spliced, ends⟩ := Lexeme.directive_text next
        rw [scanned] at value
        cases value.symm.trans text
        have spelled : (TokenKind.directive (String.ofList ('#' :: more))).spelling.toList = '#' :: more :=
          String.toList_ofList
        by_cases splice : ('#' :: more).getLast? = some '\\'
        · rw [TokenKind.lines_cons, spelled]
          exact kindsFrom_unfinished spliced splice (readAfter_openSolid reachedSolid later) _ _ _
        · refine kindsFrom_cons ?_ (spelled ▸ kindsFrom_directive spliced ends splice _ _ _ _) tail
          rintro text ⟨⟩
          rw [String.toList_ofList]
          exact splice
      · have scanned : scan = Lexeme.scan first next := if_neg starts
        rw [scanned] at value
        refine kindsFrom_cons ?_ (kindsFrom_scanned solid value _ _ _ _) tail
        rintro text rfl
        exact absurd value (Lexeme.scan_ne_directive first next text)

/-- **Spellings are read back.** The spellings of the tokens of a source, each on a line of its own, are
read as tokens of the same kinds exactly when no directive that ends in a backslash stands before another
token. -/
theorem kindsOf_lines {source : String} {kinds : List TokenKind} (lexed : kindsOf source = some kinds) :
    kindsOf (String.ofList (TokenKind.lines kinds)) = some kinds ↔ TokenKind.DirectivesEnd kinds := by
  obtain ⟨tokens, found, rfl⟩ := kindsOf_eq_some.mp lexed
  unfold ofSource readAll at found
  split at found
  · cases found
  · rename_i gap reached read
    obtain ⟨solid, _⟩ := Gap.read_reached read
    have plain := (readAfter_openSolid solid found).unmarked
    rw [kindsOf_of_plain (by rwa [String.toList_ofList]), String.toList_ofList]
    exact kindsFrom_lines solid found false .empty .start

/-- A directive over two lines, marks that would go together, a raw string over two lines with a suffix,
and at the end a directive with a backslash. -/
theorem kindsOf_lines_rawString :
    let kinds := [.directive "#if A \\\n 1", .identifier "a", .punctuator .greater, .punctuator .greater,
      .identifier "b", .punctuator .assign, .string "R\"(\n)\"_s", .directive "#else \\", .endOfFile]
    kindsOf "#if A \\\n 1\na>>b=R\"(\n)\"_s\n#else \\" = some kinds ∧
      kindsOf (String.ofList (TokenKind.lines kinds)) = some kinds := by
  intro kinds
  have lexed : kindsOf "#if A \\\n 1\na>>b=R\"(\n)\"_s\n#else \\" = some kinds := by decide +kernel
  refine ⟨lexed, (kindsOf_lines lexed).mpr fun text next inside splice => ?_⟩
  have either : text = "#if A \\\n 1" ∧ next = .identifier "a" ∨ text = "#else \\" ∧ next = .endOfFile := by
    simpa [kinds, List.infix_cons_iff, List.cons_prefix_cons] using inside
  rcases either with ⟨rfl, rfl⟩ | ⟨rfl, rfl⟩
  · exact absurd splice (by decide)
  · rfl

/-- A directive whose last line is empty keeps the backslash before it, and the next token becomes a part of
it. -/
theorem kindsOf_lines_emptyLine :
    let kinds := [.directive "#define X \\", .keyword .kwInt, .identifier "y", .punctuator .semicolon,
      .endOfFile]
    kindsOf "#define X \\\n\nint y;" = some kinds ∧
      kindsOf (String.ofList (TokenKind.lines kinds)) ≠ some kinds := by
  decide +kernel

end Token

end CppSyntax
