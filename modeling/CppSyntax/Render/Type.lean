import CppSyntax.Render.Drawn

/-!
Documents of names and template arguments, and of types, declarators, parameters and functions without
their bodies.
-/

namespace CppSyntax.Render

open Doc

/-- A segment of a name, which the keyword `template` may mark. -/
def segment (marked : Bool) (spelled : Doc) : Doc := onlyIf marked "template " ++ spelled

def templateArguments (arguments : List Doc) : Doc :=
  "<" ++ (separated ", " arguments).enclosed ++ ">"

/-- The name of an operator. One that is spelled as a word stands apart. -/
def operatorName (symbol : String) : Doc :=
  "operator" ++ onlyIf (startsWith isWordChar symbol) " " ++ symbol

def qualifiedName (isGlobal : Bool) (segments : List Doc) : Doc :=
  onlyIf isGlobal "::" ++ separated "::" segments

/-- A value among template arguments. A name alone would be read as a type. -/
def valueArgument (value : Drawn .expression) : Doc := fun layout =>
  let content := value.operand Precedence.conditional layout
  let isName := match value.tree with
    | .nameExpression _ => true
    | _ => false
  if isName || hasAngle content then "(" ++ content ++ ")" else content

/-- A type after its qualifiers. -/
def qualified (cv : Qualifiers) (type : Doc) : Doc :=
  onlyIf cv.isConst "const " ++ onlyIf cv.isVolatile "volatile " ++ type

/-- Qualifiers after what they qualify. -/
def trailingQualifiers (cv : Qualifiers) : Doc :=
  onlyIf cv.isConst " const" ++ onlyIf cv.isVolatile " volatile"

def attributeSpecifier (content : String) : String := "[[" ++ content ++ "]]"

def alignmentSpecifier (content : String) : String := "alignas(" ++ content ++ ")"

/-- Attributes, modifiers and the type with spaces between them. -/
def specifiers (attributes alignments : List String) (modifiers : List Modifier)
    (type : Option Doc) : Doc := fun layout =>
  " ".intercalate (attributes.map attributeSpecifier ++ alignments.map alignmentSpecifier ++
    modifiers.map (·.spelling) ++ (type.map (· layout)).toList)

/-- Whether a pointer operator starts with a name. -/
def startsWithName : Tree .pointerOperator → Bool
  | .memberPointer .. => true
  | _ => false

/-- Pointer operators in a row. A class name stands apart from a qualifier before it. -/
def pointerOperators (operators : List (Drawn .pointerOperator)) : Doc := fun layout =>
  operators.foldl (fun content operator =>
    let apart := startsWithName operator.tree && endsWith isWordChar content
    content ++ (if apart then " " else "") ++ operator.drawing layout) ""

def isUnnamed : Tree .declaratorCore → Bool
  | .unnamed => true
  | _ => false

def declarator (pointers : List (Drawn .pointerOperator)) (pack : Bool)
    (core : Drawn .declaratorCore) (suffixes : List Doc) : DeclaratorDoc where
  pointers := pointerOperators pointers
  core :=
    onlyIf pack (if isUnnamed core.tree then "..." else "... ") ++ core.drawing ++ concat suffixes
  nameless := isUnnamed core.tree && !pack

def bindings (names : List String) : Doc := "[" ++ ", ".intercalate names ++ "]"

def arraySuffix (size : Option (Drawn .expression)) : Doc :=
  "[" ++ ifPresent (size.map (·.anyExpression)) ++ "]"

/-- A parameter. In a template header a default value that holds an angle bracket is put into
parentheses. -/
def parameter (specs : Doc) (shape : DeclaratorDoc) (fallback : Option (Drawn .expression))
    (inTemplate : Bool) : Doc :=
  shape.afterSpecifiers specs ++ ifPresent (fallback.map fun value layout =>
    let content := value.operand Precedence.assignment layout
    if inTemplate && hasAngle content then " = (" ++ content ++ ")" else " = " ++ content)

def parameterList (items : List Doc) (variadic : Bool) : Doc :=
  (separated ", " items ++
    onlyIf variadic (if items.isEmpty then "..." else ", ...")).parenthesized

def referenceQualifier : Option ReferenceQualifier → String
  | none => ""
  | some .lvalue => " &"
  | some .rvalue => " &&"

def spacedBefore (part : Option Doc) : Doc := ifPresent (part.map (" " ++ ·))

def trailingResult (result : Option TypeDoc) : Doc := ifPresent (result.map (" -> " ++ ·.doc))

def signature (parameters : Doc) (cv : Qualifiers) (reference : Option ReferenceQualifier)
    (exception : Option Doc) (result : Option TypeDoc) : Doc :=
  parameters ++ trailingQualifiers cv ++ referenceQualifier reference ++ spacedBefore exception ++
    trailingResult result

def noexceptSpec (holds : Option (Drawn .expression)) : Doc :=
  "noexcept" ++ ifPresent (holds.map (·.anyExpression.parenthesized))

def throwSpec (types : List TypeDoc) : Doc :=
  "throw" ++ (separated ", " (types.map (·.doc))).parenthesized

end CppSyntax.Render
