/-!
Places in a source text. Lines and columns count from one, and a column counts characters.
-/

namespace CppSyntax

structure Location where
  line : Nat
  column : Nat
deriving DecidableEq, Repr

namespace Location

/-- The place of the first character of a text. -/
def start : Location := ⟨1, 1⟩

/-- The place after a character that stands at this place. -/
def after (place : Location) (c : Char) : Location :=
  if c = '\n' then ⟨place.line + 1, 1⟩ else ⟨place.line, place.column + 1⟩

/-- The place after a text that starts at this place. -/
def advance (place : Location) (text : List Char) : Location :=
  text.foldl after place

/-- Whether one place comes strictly before another in reading order. -/
def before (a b : Location) : Bool :=
  a.line < b.line || (a.line == b.line && a.column < b.column)

def describe (place : Location) : String :=
  "line " ++ toString place.line ++ ", column " ++ toString place.column

@[simp] theorem advance_nil (place : Location) : place.advance [] = place := rfl

@[simp] theorem advance_cons (place : Location) (c : Char) (text : List Char) :
    place.advance (c :: text) = (place.after c).advance text := rfl

theorem advance_append (place : Location) (a b : List Char) :
    place.advance (a ++ b) = (place.advance a).advance b :=
  List.foldl_append

end Location

end CppSyntax
