import CppSyntax.Proofs.Lexing.Division
import CppSyntax.Proofs.Lexing.Spelling

/-!
Texts whose blanks are changed. Where blanks become others and all that stands between them stays, a
token is scanned as before: it ends before the same blank. Only literals in quotes can hold blanks, and
comments and directives end where a line does. In a text without any of these, every run of blanks can be
made a single space.
-/

namespace CppSyntax

namespace Text

theorem isBlank_eq_false_of_isNumeric {c : Char} (number : isNumeric c = true) :
    isBlank c = false := by
  cases blank : isBlank c with
  | false => rfl
  | true =>
    obtain ⟨range, member, low, high⟩ := CharRanges.holds_iff.mp blank
    have apart : ∀ blanks ∈ blankRanges, blanks.2 < 128 ∨ ∀ numbers ∈ numericRanges,
        numbers.2 < blanks.1 ∨ blanks.2 < numbers.1 := by
      decide +kernel
    simp only [isNumeric, Bool.or_eq_true, Bool.and_eq_true, decide_eq_true_eq] at number
    rcases number with digit | ⟨wide, listed⟩
    · rw [isBlank_eq_false_of_isDigit digit] at blank
      cases blank
    · obtain ⟨numbers, found, least, most⟩ := CharRanges.holds_iff.mp listed
      rcases apart range member with small | disjoint
      · omega
      · have := disjoint numbers found
        omega

theorem ne_of_isBlank {b c : Char} (blank : isBlank b = true) (solid : isBlank c = false) : b ≠ c := by
  rintro rfl
  rw [solid] at blank
  cases blank

theorem solid_of_all {text : List Char} (all : text.all (fun c => !isBlank c) = true) :
    ∀ c ∈ text, isBlank c = false := by
  simpa using List.all_eq_true.mp all

/-- No blank has the property. -/
def IsSolid (holds : Char → Bool) : Prop := ∀ c, isBlank c = true → holds c = false

namespace IsSolid

variable {holds other : Char → Bool}

theorem of_holds (solid : ∀ c, holds c = true → isBlank c = false) : IsSolid holds := by
  intro c blank
  cases held : holds c with
  | false => rfl
  | true => rw [solid c held] at blank; cases blank

theorem or (first : IsSolid holds) (second : IsSolid other) : IsSolid fun c => holds c || other c :=
  fun c blank => by simp only [first c blank, second c blank, Bool.or_self]

theorem eq (mark : Char) (solid : isBlank mark = false) : IsSolid (· == mark) :=
  of_holds fun c same => by rwa [eq_of_beq same]

theorem isDigit : IsSolid Char.isDigit := of_holds fun _ => isBlank_eq_false_of_isDigit

theorem isAlphabetic : IsSolid isAlphabetic := of_holds fun _ => isBlank_eq_false_of_isAlphabetic

theorem isAlphanumeric : IsSolid isAlphanumeric :=
  isAlphabetic.or (of_holds fun _ => isBlank_eq_false_of_isNumeric)

theorem isAlphanum : IsSolid Char.isAlphanum := by
  refine of_holds fun c held => ?_
  rw [Char.isAlphanum, Bool.or_eq_true] at held
  rcases held with letter | digit
  · exact isBlank_eq_false_of_isAlphabetic (by simp [Text.isAlphabetic, letter])
  · exact isBlank_eq_false_of_isDigit digit

theorem isNameChar : IsSolid Lexeme.isNameChar :=
  (isAlphanumeric.or (eq _ (by decide))).or (eq _ (by decide))

end IsSolid

/-- A change of a text that keeps its solid characters and makes blanks of its blanks. -/
structure Respaces (change : List Char → List Char) : Prop where
  nil : change [] = []
  solid : ∀ {c : Char} {rest : List Char}, isBlank c = false → change (c :: rest) = c :: change rest
  blank : ∀ {c : Char} (rest : List Char), isBlank c = true →
    ∃ d more, isBlank d = true ∧ change (c :: rest) = d :: more

namespace Respaces

variable {change : List Char → List Char} (respaces : Respaces change)

include respaces

theorem append {front : List Char} (solid : ∀ c ∈ front, isBlank c = false) (rest : List Char) :
    change (front ++ rest) = front ++ change rest := by
  induction front with
  | nil => rfl
  | cons c front ih =>
    obtain ⟨first, others⟩ := List.forall_mem_cons.mp solid
    rw [List.cons_append, respaces.solid first, ih others, List.cons_append]

/-- What is true of no blank is true of the first characters of both texts or of neither. -/
theorem any_head? {holds : Char → Bool} (solid : IsSolid holds) (text : List Char) :
    (change text).head?.any holds = text.head?.any holds := by
  cases text with
  | nil => rw [respaces.nil]
  | cons c rest =>
    cases blank : isBlank c with
    | false => rw [respaces.solid blank]; rfl
    | true =>
      obtain ⟨d, more, other, changed⟩ := respaces.blank rest blank
      simp [changed, solid c blank, solid d other]

theorem stops {holds : Char → Bool} (solid : IsSolid holds) {text : List Char}
    (ends : ∀ c ∈ text.head?, holds c = false) : ∀ c ∈ (change text).head?, holds c = false := by
  have none : text.head?.any holds = false := by
    cases head : text.head? with
    | none => rfl
    | some c => exact ends c head
  rw [← respaces.any_head? solid] at none
  intro c head
  simpa [Option.mem_def.mp head] using none

theorem prefix_iff {front text : List Char} (solid : ∀ c ∈ front, isBlank c = false) :
    front <+: change text ↔ front <+: text := by
  induction front generalizing text with
  | nil => simp
  | cons c front ih =>
    obtain ⟨first, others⟩ := List.forall_mem_cons.mp solid
    have unlike {b : Char} (blank : isBlank b = true) : c ≠ b := (ne_of_isBlank blank first).symm
    cases text with
    | nil => rw [respaces.nil]
    | cons d rest =>
      cases blank : isBlank d with
      | false => rw [respaces.solid blank, List.cons_prefix_cons, List.cons_prefix_cons, ih others]
      | true =>
        obtain ⟨e, more, other, changed⟩ := respaces.blank rest blank
        simp [changed, List.cons_prefix_cons, unlike blank, unlike other]

/-- A name that ends before a text ends before it with other blanks too. -/
theorem nameEnds {text : List Char} (ends : Lexeme.NameEnds text) :
    Lexeme.NameEnds (change text) := by
  have goesOn : IsSolid fun c => Lexeme.isNameChar c || c == '"' || c == '\'' :=
    (IsSolid.isNameChar.or (.eq _ (by decide))).or (.eq _ (by decide))
  have stop : ∀ c ∈ text.head?, (Lexeme.isNameChar c || c == '"' || c == '\'') = false :=
    fun c head => by simpa [and_assoc] using ends c head
  have same := respaces.stops goesOn stop
  exact fun c head => by simpa [and_assoc] using same c head

end Respaces

end Text

open Text

/-- The scan of the same characters before a changed rest. -/
def Scan.before (change : List Char → List Char) (scan : Scan α) : Scan α :=
  ⟨scan.value, scan.used, change scan.rest⟩

section

variable (change : List Char → List Char) (scan : Scan α)

@[simp] theorem Scan.before_value : (scan.before change).value = scan.value := rfl

@[simp] theorem Scan.before_used : (scan.before change).used = scan.used := rfl

@[simp] theorem Scan.before_rest : (scan.before change).rest = change scan.rest := rfl

@[simp] theorem Scan.before_after (front : List Char) :
    (scan.after front).before change = (scan.before change).after front := rfl

@[simp] theorem Scan.before_map (f : α → β) :
    (scan.map f).before change = (scan.before change).map f := rfl

end

section

variable {change : List Char → List Char} (respaces : Respaces change)

include respaces

theorem Scan.takeWhile_respaced {passes : Char → Bool} (solid : IsSolid passes) (text : List Char) :
    takeWhile passes (change text) = (takeWhile passes text).before change := by
  induction text with
  | nil => rw [respaces.nil]; simp [takeWhile, before, respaces.nil]
  | cons c rest ih =>
    cases blank : isBlank c with
    | true =>
      obtain ⟨d, more, other, changed⟩ := respaces.blank rest blank
      simp [takeWhile, before, changed, solid c blank, solid d other]
    | false =>
      simp only [takeWhile, before, Scan.mk.injEq, true_and] at ih
      rw [respaces.solid blank]
      cases pass : passes c with
      | true => simp [takeWhile, before, pass, ih]
      | false => simp [takeWhile, before, pass, respaces.solid blank]

namespace Lexeme

theorem numberRest_respaced (hex : Bool) (last : Char) (text : List Char) :
    numberRest hex last (change text) = (numberRest hex last text).before change := by
  have stops (last c : Char) (blank : isBlank c = true) : (c.isAlphanum || c == '_' || c == '.' ||
      isExponentSign hex last c) = false ∧ (c == '\'') = false := by
    have sign : IsSolid fun c => c == '+' || c == '-' :=
      (IsSolid.eq _ (by decide)).or (.eq _ (by decide))
    simp [IsSolid.isAlphanum c blank, IsSolid.eq '_' (by decide) c blank,
      IsSolid.eq '.' (by decide) c blank, IsSolid.eq '\'' (by decide) c blank,
      isExponentSign, sign c blank]
  induction text generalizing last with
  | nil => rw [respaces.nil]; simp [numberRest, Scan.before, respaces.nil]
  | cons c rest ih =>
    cases blank : isBlank c with
    | true =>
      obtain ⟨d, more, other, changed⟩ := respaces.blank rest blank
      simp [numberRest, Scan.before, changed, stops last c blank, stops last d other]
    | false =>
      rw [respaces.solid blank, numberRest, numberRest, ih,
        respaces.any_head? IsSolid.isAlphanum rest]
      split
      · rfl
      · split
        · rfl
        · simp [Scan.before, respaces.solid blank]

theorem number_respaced (first : Char) (next : List Char) :
    number first (change next) = (number first next).before change := by
  have solid : IsSolid fun c => c == 'x' || c == 'X' := (IsSolid.eq _ (by decide)).or (.eq _ (by decide))
  rw [number, number, respaces.any_head? solid, numberRest_respaced respaces]
  rfl

end Lexeme

end

namespace Punctuator

/-- Whether a mark starts with a character does not depend on what follows. -/
theorem longest?_isSome {first : Char} {next : List Char}
    (found : (longest? first next).isSome = true) (other : List Char) :
    (longest? first other).isSome = true := by
  unfold longest?
  split <;> try rfl
  unfold longest? at found
  split at found <;> contradiction

/-- A mark goes as far as it can. A dot alone may also stand before another one, and a slash before
what would have made it a comment. -/
theorem longest?_stops {first : Char} {next : List Char} {mark : Punctuator} {more : Nat}
    (found : longest? first next = some (mark, more)) :
    (next.take more).length = more ∧ (mark ≠ .dot → mark ≠ .slash →
      ∀ c ∈ (next.drop more).head?, mark.growsWith c = false) := by
  unfold longest? at found
  split at found <;> cases found <;> refine ⟨rfl, fun notDot notSlash => ?_⟩ <;> first
    | exact fun _ _ => rfl
    | contradiction
    | (simp only [List.drop_zero, List.drop_succ_cons]
       intro c head
       obtain ⟨tail, rfl⟩ := List.head?_eq_some_iff.mp head
       simp_all [growsWith])

theorem longest?_dot {next : List Char} (single : ¬ ['.', '.'] <+: next) (noStar : ¬ ['*'] <+: next) :
    longest? '.' next = some (.dot, 0) := by
  rw [longest?]
  · rintro tail rfl
    exact single (List.prefix_append ['.', '.'] tail)
  · rintro tail rfl
    exact noStar (List.prefix_append ['*'] tail)

theorem longest?_slash {next : List Char} (noAssign : ¬ ['='] <+: next) :
    longest? '/' next = some (.slash, 0) := by
  rw [longest?]
  rintro tail rfl
  exact noAssign (List.prefix_append ['='] tail)

theorem solid_of_mem (mark : Punctuator) : ∀ c ∈ mark.spelling.toList, isBlank c = false := by
  refine solid_of_all ?_
  cases mark <;> decide

theorem isSolid_growsWith (mark : Punctuator) : IsSolid mark.growsWith := by
  refine .of_holds fun c grows => ?_
  have known : c.isDigit = true ∨ c ∈ [':', '.', '*', '+', '=', '-', '>', '/', '<', '&', '|'] := by
    cases mark <;> simp [growsWith] at grows ⊢ <;> grind
  rcases known with digit | member
  · exact isBlank_eq_false_of_isDigit digit
  · exact solid_of_all (by decide) c member

section

variable {change : List Char → List Char} (respaces : Respaces change)

include respaces

/-- The mark found and what it leaves are the same before a changed rest. -/
theorem longest?_respaced {first : Char} {next : List Char} {mark : Punctuator} {more : Nat}
    (found : longest? first next = some (mark, more)) :
    longest? first (change next) = some (mark, more) ∧
      change next = next.take more ++ change (next.drop more) := by
  have spelled := Lexeme.longest?_spells found
  obtain ⟨length, stops⟩ := longest?_stops found
  have solid : ∀ c ∈ next.take more, isBlank c = false := fun c member =>
    solid_of_mem mark c (by rw [spelled]; exact List.mem_cons_of_mem _ member)
  have divided : change next = next.take more ++ change (next.drop more) := by
    rw [← respaces.append solid, List.take_append_drop]
  refine ⟨?_, divided⟩
  have absent {front : List Char} (solid : ∀ c ∈ front, isBlank c = false) :
      ¬ front <+: next → ¬ front <+: change next :=
    mt (respaces.prefix_iff solid).mp
  by_cases dot : mark = .dot
  · subst dot
    obtain ⟨rfl, empty⟩ : '.' = first ∧ [] = next.take more := by simpa [spelling] using spelled
    obtain rfl : more = 0 := by rw [← length, ← empty]; rfl
    refine longest?_dot (absent (solid_of_all (by decide)) ?_) (absent (solid_of_all (by decide)) ?_)
    · rintro ⟨tail, rfl⟩
      cases found
    · rintro ⟨tail, rfl⟩
      cases found
  · by_cases slash : mark = .slash
    · subst slash
      obtain ⟨rfl, empty⟩ : '/' = first ∧ [] = next.take more := by simpa [spelling] using spelled
      obtain rfl : more = 0 := by rw [← length, ← empty]; rfl
      refine longest?_slash (absent (solid_of_all (by decide)) ?_)
      rintro ⟨tail, rfl⟩
      cases found
    · have growth := respaces.stops (isSolid_growsWith mark) (stops dot slash)
      rw [divided, longest?_spelling spelled growth, length]

end

end Punctuator

namespace Lexeme

section

variable {change : List Char → List Char} (respaces : Respaces change)

include respaces

theorem punctuator_respaced (first : Char) (next : List Char) :
    punctuator first (change next) = (punctuator first next).before change := by
  cases found : Punctuator.longest? first next with
  | none =>
    have absent : Punctuator.longest? first (change next) = none := by
      cases other : Punctuator.longest? first (change next) with
      | none => rfl
      | some _ =>
        have present := Punctuator.longest?_isSome (by rw [other]; rfl) next
        simp [found] at present
    rw [punctuator, punctuator, absent, found]
    rfl
  | some mark =>
    obtain ⟨mark, more⟩ := mark
    obtain ⟨same, divided⟩ := Punctuator.longest?_respaced respaces found
    obtain ⟨length, _⟩ := Punctuator.longest?_stops found
    rw [punctuator, punctuator, same, found, divided]
    simp [Scan.before, List.take_left' length, List.drop_left' length]

/-- A name with no quote behind it. -/
theorem word_respaced (first : Char) {next : List Char} (noString : '"' ∉ next)
    (noMark : '\'' ∉ next) : word first (change next) = (word first next).before change := by
  obtain ⟨name, tail, rfl, chars, ends⟩ := word_front next
  have solid : ∀ c ∈ name, isBlank c = false := fun c member => by
    cases blank : isBlank c with
    | false => rfl
    | true => rw [← chars c member, IsSolid.isNameChar c blank]
  rw [respaces.append solid]
  rcases ends with ⟨text, rfl⟩ | ⟨text, rfl⟩ | ends
  · exact absurd (by simp) noString
  · exact absurd (by simp) noMark
  · rw [word_of_ends chars ends, word_of_ends chars (respaces.nameEnds ends)]
    rfl

/-- A token of a text without quotes. -/
theorem scan_respaced {first : Char} {next : List Char} (noString : '"' ∉ first :: next)
    (noMark : '\'' ∉ first :: next) : scan first (change next) = (scan first next).before change := by
  have digit := respaces.any_head? IsSolid.isDigit next
  have notString := List.ne_of_not_mem_cons noString
  have notMark := List.ne_of_not_mem_cons noMark
  rw [scan, scan, digit, number_respaced respaces, punctuator_respaced respaces,
    word_respaced respaces first (List.not_mem_of_not_mem_cons noString)
      (List.not_mem_of_not_mem_cons noMark)]
  simp only [beq_eq_false_iff_ne.mpr notString.symm, beq_eq_false_iff_ne.mpr notMark.symm,
    Bool.or_self, Bool.false_eq_true, if_false]
  split
  · rfl
  · split <;> rfl

end

end Lexeme

namespace Text

/-- The text with one space for each run of its blanks, and none for a run that goes on from a blank
before the text. -/
def squeezed (behindBlank : Bool) : List Char → List Char
  | [] => []
  | c :: rest =>
    if isBlank c then (if behindBlank then [] else [' ']) ++ squeezed true rest
    else c :: squeezed false rest

/-- Whether a text ends in a blank. An empty one does if a blank stands before it. -/
def endsBlank (behindBlank : Bool) (text : List Char) : Bool :=
  text.foldl (fun _ c => isBlank c) behindBlank

section

variable {behindBlank : Bool} {c : Char} {rest : List Char}

theorem squeezed_solid (solid : isBlank c = false) :
    squeezed behindBlank (c :: rest) = c :: squeezed false rest := by
  simp [squeezed, solid]

theorem squeezed_blank (blank : isBlank c = true) :
    squeezed false (c :: rest) = ' ' :: squeezed true rest := by
  simp [squeezed, blank]

theorem squeezed_blank_on (blank : isBlank c = true) :
    squeezed true (c :: rest) = squeezed true rest := by
  simp [squeezed, blank]

end

theorem respaces_squeezed : Respaces (squeezed false) where
  nil := rfl
  solid solid := squeezed_solid solid
  blank _ blank := ⟨' ', _, by decide, squeezed_blank blank⟩

theorem squeezed_append (behindBlank : Bool) (front rest : List Char) :
    squeezed behindBlank (front ++ rest) =
      squeezed behindBlank front ++ squeezed (endsBlank behindBlank front) rest := by
  induction front generalizing behindBlank with
  | nil => rfl
  | cons c front ih =>
    cases blank : isBlank c with
    | true => cases behindBlank <;> simp [squeezed, endsBlank, blank, ih]
    | false => simp [squeezed, endsBlank, blank, ih]

theorem endsBlank_squeezed (behindBlank : Bool) (text : List Char) :
    endsBlank behindBlank (squeezed behindBlank text) = endsBlank behindBlank text := by
  induction text generalizing behindBlank with
  | nil => rfl
  | cons c rest ih =>
    have space : isBlank ' ' = true := by decide
    cases blank : isBlank c with
    | true =>
      have later := ih true
      cases behindBlank <;> simpa [squeezed, endsBlank, blank, space] using later
    | false =>
      have later := ih false
      simpa [squeezed, endsBlank, blank] using later

/-- A run of blanks that has been made one space is left out behind a blank. -/
theorem squeezed_squeezed (behindBlank : Bool) (text : List Char) :
    squeezed behindBlank (squeezed false text) = squeezed behindBlank text ∧
      squeezed true (squeezed true text) = squeezed true text := by
  induction text generalizing behindBlank with
  | nil => exact ⟨rfl, rfl⟩
  | cons c rest ih =>
    cases blank : isBlank c with
    | true =>
      have space : isBlank ' ' = true := by decide
      rw [squeezed_blank blank, squeezed_blank_on blank]
      cases behindBlank with
      | true =>
        exact ⟨by rw [squeezed_blank_on space, squeezed_blank_on blank, (ih true).2], (ih true).2⟩
      | false =>
        exact ⟨by rw [squeezed_blank space, squeezed_blank blank, (ih true).2], (ih true).2⟩
    | false =>
      rw [squeezed_solid blank, squeezed_solid blank, squeezed_solid blank, squeezed_solid blank,
        squeezed_solid blank, (ih false).1]
      exact ⟨rfl, rfl⟩

/-- The texts differ only in their blanks: runs of blanks stand at the same places. -/
def Alike (behindBlank : Bool) (first second : String) : Prop :=
  squeezed behindBlank first.toList = squeezed behindBlank second.toList

namespace Alike

variable {behindBlank : Bool} {first second third fourth : String}

theorem refl (text : String) : Alike behindBlank text text := rfl

theorem endsBlank_eq (alike : Alike behindBlank first second) :
    endsBlank behindBlank first.toList = endsBlank behindBlank second.toList := by
  rw [← endsBlank_squeezed, alike, endsBlank_squeezed]

theorem behind (alike : Alike false first second) (behindBlank : Bool) :
    Alike behindBlank first second := by
  rw [Alike, ← (squeezed_squeezed behindBlank _).1, alike, (squeezed_squeezed behindBlank _).1]

theorem followed (front : Alike behindBlank first second)
    (rest : Alike (endsBlank behindBlank first.toList) third fourth) :
    Alike behindBlank (first ++ third) (second ++ fourth) := by
  rw [Alike, String.toList_append, String.toList_append, squeezed_append, squeezed_append, front,
    ← front.endsBlank_eq, rest]

theorem append (front : Alike behindBlank first second) (rest : Alike false third fourth) :
    Alike behindBlank (first ++ third) (second ++ fourth) :=
  front.followed (rest.behind _)

end Alike

/-- Whether a text holds neither literals in quotes nor comments, directives, spliced lines or byte
order marks. -/
def isPlain : List Char → Bool
  | [] => true
  | c :: rest =>
    !List.contains ['"', '\'', '#', '\\', '\ufeff'] c &&
      !(c == '/' && rest.head?.any fun d => d == '/' || d == '*') && isPlain rest

theorem not_mem_of_isPlain {text : List Char} (plain : isPlain text = true) :
    ∀ c ∈ ['"', '\'', '#', '\\', '\ufeff'], c ∉ text := by
  intro c forbidden member
  induction text with
  | nil => cases member
  | cons d rest ih =>
    simp only [isPlain, Bool.and_eq_true] at plain
    rcases List.mem_cons.mp member with rfl | later
    · have allowed := plain.1.1
      rw [List.contains_iff_mem.mpr forbidden] at allowed
      cases allowed
    · exact ih plain.2 later

theorem isPlain_squeezed (behindBlank : Bool) (text : List Char) :
    isPlain (squeezed behindBlank text) = isPlain text := by
  induction text generalizing behindBlank with
  | nil => rfl
  | cons c rest ih =>
    cases blank : isBlank c with
    | false =>
      have solid : IsSolid fun d => d == '/' || d == '*' :=
        (IsSolid.eq _ (by decide)).or (.eq _ (by decide))
      rw [squeezed_solid blank, isPlain, isPlain, ih, respaces_squeezed.any_head? solid]
    | true =>
      have other : ∀ d ∈ ['"', '\'', '#', '\\', '\ufeff', '/'], c ≠ d := fun d member =>
        ne_of_isBlank blank (solid_of_all (by decide) d member)
      have passed : isPlain (c :: rest) = isPlain rest := by
        simp only [List.forall_mem_cons] at other
        simp [isPlain, other]
      rw [passed, ← ih true]
      cases behindBlank with
      | true => rw [squeezed_blank_on blank]
      | false => rw [squeezed_blank blank]; simp [isPlain]

theorem isPlain_tail {c : Char} {rest : List Char} (plain : isPlain (c :: rest) = true) :
    isPlain rest = true := by
  rw [isPlain, Bool.and_eq_true] at plain
  exact plain.2

theorem isPlain_append {front rest : List Char} (plain : isPlain (front ++ rest) = true) :
    isPlain front = true ∧ isPlain rest = true := by
  induction front with
  | nil => exact ⟨rfl, plain⟩
  | cons c front ih =>
    simp only [List.cons_append, isPlain, Bool.and_eq_true] at plain ⊢
    obtain ⟨⟨allowed, unmarked⟩, later⟩ := plain
    refine ⟨⟨⟨allowed, ?_⟩, (ih later).1⟩, (ih later).2⟩
    cases front with
    | nil => simp
    | cons d front => exact unmarked

/-- Plain texts in a row are plain, unless the second one goes on with a comment. -/
theorem isPlain_append_of {front rest : List Char} (before : isPlain front = true)
    (behind : isPlain rest = true) (apart : (rest.head?.any fun d => d == '/' || d == '*') = false) :
    isPlain (front ++ rest) = true := by
  induction front with
  | nil => exact behind
  | cons c front ih =>
    simp only [List.cons_append, isPlain, Bool.and_eq_true] at before ⊢
    refine ⟨⟨before.1.1, ?_⟩, ih before.2⟩
    cases front with
    | nil => simp [apart]
    | cons d front => exact before.1.2

end Text

end CppSyntax
