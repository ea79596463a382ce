import CppSyntax.Render.Unit
import CppSyntax.Tree.Debrace
import CppSyntax.Tree.Outline

/-!
Reading a rendered text again, and units composed of several texts.
-/

namespace CppSyntax

/-- How a text read again compares with what it was rendered from: whether the unit has the same
structure, and whether it is rendered to the same text. -/
structure Roundtrip where
  isSame : Bool
  isStable : Bool
deriving DecidableEq, Repr

def roundtrip (options : RenderOptions) (unit : TranslationUnit) : Except SyntaxError Roundtrip := do
  let content := render options unit
  let again ← parse content
  return ⟨unit.sameStructure again, render options again == content⟩

/-- Whether a unit rendered and read again keeps its structure. -/
def survives (options : RenderOptions) (unit : TranslationUnit) : Bool :=
  match parse (render options unit) with
  | .ok again => unit.sameStructure again
  | .error _ => false

def Tree.emptyUnit : TranslationUnit := .unit .nil []

/-- The declarations of two units in order, and their closing comments behind all of them. -/
def Tree.followedBy (a b : TranslationUnit) : TranslationUnit :=
  .unit (.ofList (a.declarations ++ b.declarations)) (a.closingComments ++ b.closingComments)

/-- The units composed of texts, one after each text. A text that cannot be read adds nothing, and
its error stands in the place of the unit. -/
def compose (edit : TranslationUnit → TranslationUnit) (unit : TranslationUnit) :
    List String → List (Except SyntaxError TranslationUnit)
  | [] => []
  | source :: rest =>
    match parse source with
    | .ok found =>
      let unit := unit.followedBy (edit found)
      .ok unit :: compose edit unit rest
    | .error error => .error error :: compose edit unit rest

end CppSyntax
