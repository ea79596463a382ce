import CppSyntax.Token.Gap

/-!
The tokens of a source text. Reading stops at the first fault or after the end token, and it can be
taken up again at the place where it stopped.
-/

namespace CppSyntax.Token

/-- A directive starts with `#` on a line where no token has begun. -/
def startsDirective (cursor : Cursor) (first : Char) : Bool :=
  first == '#' && cursor.lineOpen

/-- The kind of the token at the cursor, which stands before the given character. -/
def scanKind (cursor : Cursor) (first : Char) (next : List Char) :
    Scan (Except LexFault TokenKind) :=
  if startsDirective cursor first then Lexeme.directive (first :: next)
  else Lexeme.scan first next

/-- The place after that token. A directive leaves its line open. -/
def pastKind (cursor : Cursor) (first : Char) (scan : Scan α) : Cursor :=
  if startsDirective cursor first then cursor.past scan else cursor.pastToken scan

def isJoint (rest : List Char) : Bool :=
  rest.head?.any fun c => !Text.isBlank c && c != '/'

theorem scanKind_length_lt {cursor : Cursor} {first : Char} {next : List Char} :
    (scanKind cursor first next).rest.length < (first :: next).length := by
  unfold scanKind
  split
  · rename_i starts
    have marked : first = '#' := by
      simp only [startsDirective, Bool.and_eq_true, beq_iff_eq] at starts
      exact starts.1
    exact (Lexeme.directive_divides _).length_lt (Lexeme.directive_used (by simp [marked]) _)
  · exact (Lexeme.scan_divides first next).length_lt (Lexeme.scan_used first next)

theorem pastKind_rest {cursor : Cursor} {first : Char} (scan : Scan α) :
    (pastKind cursor first scan).rest = scan.rest := by
  unfold pastKind
  split <;> rfl

/-- The tokens after a gap that has been read, up to and including the end token, and the place
where reading stopped. -/
def readAfter (gap : Gap) (cursor : Cursor) : Except LexError (List Token) × Cursor :=
  match rest : cursor.rest with
  | [] =>
    (.ok [⟨.endOfFile, cursor.location, false, gap.leading, none, gap.blankLine⟩], cursor)
  | first :: next =>
    let scan := scanKind cursor first next
    let past := pastKind cursor first scan
    match scan.value with
    | .error fault => (.error ⟨fault, cursor.location⟩, past)
    | .ok kind =>
      match read : Gap.read true .empty past with
      | (.error error, stopped) => (.error error, stopped)
      | (.ok after, reached) =>
        let token : Token :=
          ⟨kind, cursor.location, isJoint past.rest, gap.leading, after.trailing, gap.blankLine⟩
        let (following, stopped) := readAfter after reached
        (following.map (token :: ·), stopped)
termination_by cursor.rest.length
decreasing_by
  have reachedLe := Gap.read_length_le true .empty (pastKind cursor first (scanKind cursor first next))
  rw [read, pastKind_rest] at reachedLe
  rw [rest]
  exact Nat.lt_of_le_of_lt reachedLe scanKind_length_lt

/-- The tokens from a place on. -/
def readAll (cursor : Cursor) : Except LexError (List Token) × Cursor :=
  match Gap.read false .empty cursor with
  | (.error error, stopped) => (.error error, stopped)
  | (.ok gap, reached) => readAfter gap reached

/-- The tokens of a source, the end token included. -/
def ofSource (source : String) : Except LexError (List Token) :=
  (readAll (.ofSource source)).1

/-- What several readings in a row give, each starting where the one before it stopped. -/
def readTimes : Nat → Cursor → List (Except LexError (List Token))
  | 0, _ => []
  | times + 1, cursor =>
    let (tokens, stopped) := readAll cursor
    tokens :: readTimes times stopped

end CppSyntax.Token
