import CppSyntax.Text.Numeric

/-!
Text that depends on its surroundings: how far lines are indented, how braces are placed, and whether
a `>` that could close a template argument list comes after it in the same brackets. Documents are
put together by appending, and a part can be laid out in other surroundings than its whole.
-/

namespace CppSyntax

/-- Where the opening brace of a body goes. -/
inductive BraceStyle where
  | sameLine | nextLine
deriving DecidableEq, Repr

/-- The choices about layout. -/
structure RenderOptions where
  indentWidth : Nat
  braceStyle : BraceStyle
deriving DecidableEq, Repr

def RenderOptions.standard : RenderOptions := ⟨2, .nextLine⟩

/-- The surroundings of a document. The type names are those of the whole unit. -/
structure Layout where
  options : RenderOptions
  typeNames : List String
  depth : Nat
  greaterFollows : Bool

def Doc := Layout → String

namespace Doc

/-- The same text everywhere. -/
def text (content : String) : Doc := fun _ => content

instance : Coe String Doc := ⟨text⟩

instance : Append Doc := ⟨fun a b layout => a layout ++ b layout⟩

@[simp] theorem text_apply (content : String) (layout : Layout) : text content layout = content :=
  rfl

@[simp] theorem append_apply (a b : Doc) (layout : Layout) :
    (a ++ b) layout = a layout ++ b layout :=
  rfl

def empty : Doc := text ""

/-- A document inside brackets of its own, so that no `>` follows it. -/
def enclosed (inner : Doc) : Doc :=
  fun layout => inner { layout with greaterFollows := false }

@[simp] theorem enclosed_apply (inner : Doc) (layout : Layout) :
    inner.enclosed layout = inner { layout with greaterFollows := false } :=
  rfl

/-- A document before other text in the same brackets, which may hold a bare `>`. -/
def before (greater : Bool) (inner : Doc) : Doc :=
  fun layout => inner { layout with greaterFollows := greater }

@[simp] theorem before_apply (greater : Bool) (inner : Doc) (layout : Layout) :
    inner.before greater layout = inner { layout with greaterFollows := greater } :=
  rfl

/-- A document one level deeper. -/
def deeper (inner : Doc) : Doc :=
  fun layout => inner { layout with depth := layout.depth + 1 }

@[simp] theorem deeper_apply (inner : Doc) (layout : Layout) :
    inner.deeper layout = inner { layout with depth := layout.depth + 1 } :=
  rfl

/-- A document one level less deep, where there is one. -/
def shallower (inner : Doc) : Doc :=
  fun layout => inner { layout with depth := layout.depth - 1 }

@[simp] theorem shallower_apply (inner : Doc) (layout : Layout) :
    inner.shallower layout = inner { layout with depth := layout.depth - 1 } :=
  rfl

def parenthesized (inner : Doc) : Doc := "(" ++ inner ++ ")"

@[simp] theorem parenthesized_apply (inner : Doc) (layout : Layout) :
    inner.parenthesized layout = "(" ++ inner layout ++ ")" :=
  rfl

def concat (parts : List Doc) : Doc :=
  fun layout => String.join (parts.map (· layout))

/-- Documents with a separator between them. -/
def separated (separator : String) (parts : List Doc) : Doc :=
  fun layout => separator.intercalate (parts.map (· layout))

def ifPresent (part : Option Doc) : Doc := part.getD empty

/-- A text if a condition holds. -/
def onlyIf (holds : Bool) (content : String) : Doc := text (if holds then content else "")

/-- The indentation of a line. -/
def margin : Doc :=
  fun layout => "".pushn ' ' (layout.depth * layout.options.indentWidth)

theorem toList_margin (layout : Layout) :
    (margin layout).toList = List.replicate (layout.depth * layout.options.indentWidth) ' ' := by
  rw [margin, String.pushn_eq_repeat_push]
  induction layout.depth * layout.options.indentWidth with
  | zero => rfl
  | succ count ih => simp [Nat.repeat, ih, List.replicate_succ']

/-- Each comment on a line of its own. -/
def commentLines (comments : List String) : Doc :=
  concat (comments.map fun (comment : String) => margin ++ comment ++ "\n")

/-- A comment at the end of a line. -/
def trailing (comment : Option String) : Doc :=
  text ((comment.map (" " ++ ·)).getD "")

/-- What separates the head of a construct from the brace that opens its body. -/
def beforeBrace : Doc :=
  fun layout =>
    match layout.options.braceStyle with
    | .sameLine => " "
    | .nextLine => "\n" ++ margin layout

/-- Lines between braces that stand on lines of their own. -/
def braced (lines : Doc) : Doc := "\x7b\n" ++ lines ++ margin ++ "\x7d"

end Doc

def isWordChar (c : Char) : Bool := Text.isAlphanumeric c || c == '_'

def startsWith (holds : Char → Bool) (content : String) : Bool :=
  content.toList.head?.any holds

def endsWith (holds : Char → Bool) (content : String) : Bool :=
  content.toList.getLast?.any holds

/-- Whether characters hold a `>` that belongs neither to an arrow nor to `>=`. -/
def holdsBareGreater (previous : Option Char) : List Char → Bool
  | [] => false
  | c :: rest =>
    (c == '>' && previous != some '-' && rest.head? != some '=') || holdsBareGreater (some c) rest

def hasBareGreater (content : String) : Bool := holdsBareGreater none content.toList

/-- Whether a text holds a mark that could be taken for a bracket of template arguments. -/
def hasAngle (content : String) : Bool :=
  hasBareGreater content || content.toList.contains '<'

end CppSyntax
