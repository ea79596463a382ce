/-!
Sets of characters given as closed ranges of code points, in increasing order. One of them are the
blank characters, those with the `White_Space` property of Unicode: they separate tokens, and the end of
a line comment or of a directive is trimmed of them.
-/

namespace CppSyntax.Text

/-- Closed ranges of code points. -/
abbrev CharRanges := List (Nat × Nat)

/-- A character belongs to the set when some range holds its code point. -/
def CharRanges.holds (ranges : CharRanges) (c : Char) : Bool :=
  ranges.any fun range => range.1 ≤ c.toNat && c.toNat ≤ range.2

theorem CharRanges.holds_iff {ranges : CharRanges} {c : Char} :
    ranges.holds c = true ↔ ∃ range ∈ ranges, range.1 ≤ c.toNat ∧ c.toNat ≤ range.2 := by
  simp [CharRanges.holds]

/-- The code points with the `White_Space` property. -/
def blankRanges : CharRanges :=
  [
    (0x9, 0xD), (0x20, 0x20), (0x85, 0x85), (0xA0, 0xA0), (0x1680, 0x1680), (0x2000, 0x200A),
    (0x2028, 0x2029), (0x202F, 0x202F), (0x205F, 0x205F), (0x3000, 0x3000)
  ]

/-- White space of any script, line breaks included. -/
def isBlank (c : Char) : Bool :=
  blankRanges.holds c

/-- The text without the blank characters at its end. -/
def trimEnd (text : List Char) : List Char :=
  (text.reverse.dropWhile isBlank).reverse

end CppSyntax.Text
