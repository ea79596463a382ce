import CppSyntax.Token.Lexeme

/-!
Gaps between tokens: blanks, spliced lines and comments. A gap decides which comment still belongs to
the token before it, which ones lead the token after it, and whether an empty line sets them apart.
-/

namespace CppSyntax

/-- A place in a source text together with the characters still to be read. The line is open as
long as no token has begun on it. -/
structure Cursor where
  rest : List Char
  location : Location
  lineOpen : Bool

namespace Cursor

/-- The first place of a source text, past a byte order mark. -/
def ofSource (source : String) : Cursor :=
  match source.toList with
  | '\ufeff' :: rest => ⟨rest, .start, true⟩
  | text => ⟨text, .start, true⟩

/-- The place after a scan that opens no token. -/
def past (cursor : Cursor) (scan : Scan α) : Cursor :=
  ⟨scan.rest, cursor.location.advance scan.used, cursor.lineOpen || scan.used.contains '\n'⟩

/-- The place after a scan that begins a token, which leaves the line open only if the token itself
goes over a line break. -/
def pastToken (cursor : Cursor) (scan : Scan α) : Cursor :=
  ⟨scan.rest, cursor.location.advance scan.used, scan.used.contains '\n'⟩

end Cursor

/-- What a gap is made of. -/
inductive GapPiece where
  | lineBreak
  | blank
  | splice
  | comment (text : String)

namespace GapPiece

/-- The piece at the front of a text, if a gap goes on there. A line comment is trimmed at its
end. -/
def first? : List Char → Option (Scan (Except LexFault GapPiece))
  | [] => none
  | '\n' :: rest => some ⟨.ok .lineBreak, ['\n'], rest⟩
  | '\\' :: '\n' :: rest => some ⟨.ok .splice, ['\\', '\n'], rest⟩
  | '/' :: '/' :: rest =>
    let scan := (Scan.takeWhile (· != '\n') rest).after ['/', '/']
    some (scan.map fun _ => .ok (.comment (String.ofList (Text.trimEnd scan.used))))
  | '/' :: '*' :: rest =>
    let scan := (Lexeme.commentRest rest).after ['/', '*']
    some (scan.map fun closed =>
      if closed then .ok (.comment (String.ofList scan.used)) else .error .unterminatedComment)
  | c :: rest => if Text.isBlank c then some ⟨.ok .blank, [c], rest⟩ else none

theorem first?_divides {text : List Char} {scan : Scan (Except LexFault GapPiece)}
    (found : first? text = some scan) : scan.Divides text ∧ scan.used ≠ [] := by
  unfold first? at found
  split at found
  · simp at found
  · cases found
    exact ⟨rfl, by simp⟩
  · cases found
    exact ⟨rfl, by simp⟩
  · cases found
    exact ⟨(Scan.divides_takeWhile ..).after ['/', '/'], by simp [Scan.map, Scan.after]⟩
  · cases found
    exact ⟨(Lexeme.commentRest_divides _).after ['/', '*'], by simp [Scan.map, Scan.after]⟩
  · split at found
    · cases found
      exact ⟨rfl, by simp⟩
    · simp at found

end GapPiece

/-- The notes a gap leaves on the tokens beside it. `lineBreaks` counts those since the last
comment; two of them make an empty line. -/
structure Gap where
  trailing : Option String
  leading : List String
  blankLine : Bool
  lineBreaks : Nat

namespace Gap

def empty : Gap := ⟨none, [], false, 0⟩

/-- The first comment of a gap belongs to the token before it when no line break comes between
them. All other comments lead the next token. -/
def add (afterToken : Bool) (gap : Gap) : GapPiece → Gap
  | .lineBreak =>
    { gap with
      lineBreaks := gap.lineBreaks + 1
      blankLine := gap.blankLine || 1 ≤ gap.lineBreaks }
  | .blank | .splice => gap
  | .comment text =>
    if afterToken && gap.lineBreaks == 0 && gap.leading.isEmpty && gap.trailing.isNone then
      { gap with trailing := some text }
    else
      { gap with leading := gap.leading ++ [text], lineBreaks := 0 }

/-- Reads the pieces of a gap one after the other, adding them to those read before. -/
def read (afterToken : Bool) (gap : Gap) (cursor : Cursor) : Except LexError Gap × Cursor :=
  match found : GapPiece.first? cursor.rest with
  | none => (.ok gap, cursor)
  | some scan =>
    match scan.value with
    | .error fault => (.error ⟨fault, cursor.location⟩, cursor.past scan)
    | .ok piece => read afterToken (gap.add afterToken piece) (cursor.past scan)
termination_by cursor.rest.length
decreasing_by
  have divided := GapPiece.first?_divides found
  exact divided.1.length_lt divided.2

theorem read_length_le (afterToken : Bool) (gap : Gap) (cursor : Cursor) :
    (read afterToken gap cursor).2.rest.length ≤ cursor.rest.length := by
  fun_induction read afterToken gap cursor with
  | case1 => exact Nat.le_refl _
  | case2 gap cursor scan found => exact (GapPiece.first?_divides found).1.length_le
  | case3 gap cursor scan found _ _ ih =>
    exact Nat.le_trans ih (GapPiece.first?_divides found).1.length_le

end Gap

end CppSyntax
