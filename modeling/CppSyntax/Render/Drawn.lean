import CppSyntax.Render.Doc
import CppSyntax.Tree.Basic

/-!
What the document of a node is made of. Most nodes are one document; declarators and types are also
taken apart by what surrounds them, and some parts are written differently in different places. An
expression as an operand stands in parentheses exactly when it binds more loosely than its place
allows, wherever there were parentheses in the source.
-/

namespace CppSyntax

/-- A declarator: its pointer operators, and its name with the suffixes. It is nameless when the
second part is nothing but suffixes. -/
structure DeclaratorDoc where
  pointers : Doc
  core : Doc
  nameless : Bool

namespace DeclaratorDoc

/-- Pointer operators right after a type. -/
def attached (pointers : String) : String :=
  if startsWith (fun c => isWordChar c || c == ':') pointers then " " ++ pointers else pointers

/-- The declarator after a type: the pointer operators attach to the type, a name stands apart. -/
def afterType (shape : DeclaratorDoc) : Doc := fun layout =>
  let pointers := shape.pointers layout
  let core := shape.core layout
  let apart := !(shape.nameless || startsWith (· == '.') core) || endsWith isWordChar pointers
  attached pointers ++ (if !core.isEmpty && apart then " " else "") ++ core

/-- The declarator with no type before it. -/
def standalone (shape : DeclaratorDoc) : Doc := fun layout =>
  let pointers := shape.pointers layout
  let core := shape.core layout
  let apart := endsWith isWordChar pointers && startsWith isWordChar core
  pointers ++ (if apart then " " else "") ++ core

/-- The declarator after specifiers, which may be empty. -/
def afterSpecifiers (specs : Doc) (shape : DeclaratorDoc) : Doc := fun layout =>
  let specs := specs layout
  if specs.isEmpty then shape.standalone layout else specs ++ shape.afterType layout

end DeclaratorDoc

structure TypeDoc where
  spec : Doc
  shape : DeclaratorDoc

def TypeDoc.doc (target : TypeDoc) : Doc := target.spec ++ target.shape.afterType

/-- What is drawn of a node of each category. A parameter depends on whether it stands in a template
header, an initializer on whether it follows a declarator. A declarator with its initializer depends
on the specifiers if it is the first one, and follows a comma if there are none. Comments of a
declaration, a statement or an enumerator are not part of its own drawing, and neither is the
semicolon of a variable. -/
@[reducible] def Drawing : Category → Type
  | .declarator => DeclaratorDoc
  | .typeId => TypeDoc
  | .parameter | .initializer => Bool → Doc
  | .initDeclarator => Option Doc → Doc
  | _ => Doc

/-- A node and what is drawn of it. -/
structure Drawn (c : Category) where
  tree : Tree c
  drawing : Drawing c

/-- How tightly the outermost form of an expression binds. -/
def Tree.precedence : Expr → Nat
  | .binary op _ _ => op.precedence
  | .assignment .. | .throwExpression _ | .packExpansion _ => Precedence.assignment
  | .conditional .. => Precedence.conditional
  | .unary op _ => if op.followsOperand then Precedence.postfixed else Precedence.unary
  | .call .. | .index .. | .member .. => Precedence.postfixed
  | .cast .parenthesized _ _ => Precedence.unary
  | .sizeof _ | .alignof _ | .noexceptExpression _ | .newExpression .. | .deleteExpression .. =>
    Precedence.unary
  | .literal _ | .nameExpression _ | .this | .cast .. | .braced .. | .lambda .. | .fold .. |
    .typeid _ => Precedence.primary

namespace Drawn

/-- An expression where an operand of at least the given level is expected. -/
def operand (inner : Drawn .expression) (level : Nat) : Doc :=
  if inner.tree.precedence < level then inner.drawing.enclosed.parenthesized else inner.drawing

/-- An expression inside brackets of its own. -/
def anyExpression (inner : Drawn .expression) : Doc := inner.operand Precedence.comma

/-- The texts of a list in brackets, and whether one of them holds a bare `>`. Each item is laid out
knowing whether a later one does. -/
def listTexts (layout : Layout) : List (Drawn .expression) → List String × Bool
  | [] => ([], false)
  | item :: rest =>
    let (texts, greater) := listTexts layout rest
    let text := (item.operand Precedence.assignment).before greater layout
    (text :: texts, greater || hasBareGreater text)

/-- Expressions with commas between them, inside brackets of their own. -/
def list (items : List (Drawn .expression)) : Doc :=
  fun layout => ", ".intercalate (listTexts layout items).1

def parenthesizedList (items : List (Drawn .expression)) : Doc := (list items).parenthesized

def bracedList (items : List (Drawn .expression)) : Doc := "\x7b" ++ list items ++ "\x7d"

end Drawn

end CppSyntax
