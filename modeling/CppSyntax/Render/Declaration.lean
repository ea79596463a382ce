import CppSyntax.Reader
import CppSyntax.Render.Type

/-!
Documents of declarations. The bodies of namespaces and linkage blocks are not indented, and access
labels stand as far left as the head of their class.
-/

namespace CppSyntax.Render

open Doc

def assignInit (value : Drawn .expression) : Doc := " = " ++ value.operand Precedence.assignment

/-- Values in parentheses. After a declarator they must not be read as a parameter list, which
parentheses around the first one prevent. -/
def parenInit (values : List (Drawn .expression)) (afterDeclarator : Bool) : Doc := fun layout =>
  let texts := (Drawn.listTexts layout values).1
  let content := "(" ++ ", ".intercalate texts ++ ")"
  match texts with
  | [] => content
  | first :: rest =>
    if afterDeclarator && readsAsParameterList content layout.typeNames then
      "(" ++ ", ".intercalate (("(" ++ first ++ ")") :: rest) ++ ")"
    else content

/-- A declarator with its bit width and initializer. The width of an unnamed one follows the comma
directly. -/
def initDeclarator (shape : DeclaratorDoc) (width : Option (Drawn .expression))
    (init : Option (Bool → Doc)) (specs : Option Doc) : Doc := fun layout =>
  let head := match specs with
    | some specs => shape.afterSpecifiers specs layout
    | none => ", " ++ shape.standalone layout
  let colon := if endsWith (· == ' ') head then ": " else " : "
  head ++ ifPresent (width.map (colon ++ ·.operand Precedence.conditional)) layout ++
    ifPresent (init.map (· true)) layout

/-- The semicolon of a variable, which the drawings of other declarations hold already. -/
def terminator : Declaration → String
  | .declaration _ (.variable ..) => ";"
  | _ => ""

def completed (inner : Drawn .declaration) : Doc := inner.drawing ++ terminator inner.tree

/-- A declaration with its comments on lines of its own. A directive stands at the margin of the
text. -/
def declarationLine (inner : Drawn .declaration) : Doc :=
  match inner.tree with
  | .declaration place form =>
    commentLines place.leadingComments ++
      match form with
      | .directive _ => inner.drawing ++ "\n"
      | .accessLabel _ =>
        margin.shallower ++ inner.drawing ++ trailing place.trailingComment ++ "\n"
      | _ => margin ++ completed inner ++ trailing place.trailingComment ++ "\n"

/-- Whether an empty line stands before a declaration that is not the first one. -/
def declarationGap : Declaration → String
  | .declaration place _ => if place.blankLineBefore then "\n" else ""

def declarationLines : List (Drawn .declaration) → Doc
  | [] => empty
  | first :: rest =>
    declarationLine first ++
      concat (rest.map fun inner => declarationGap inner.tree ++ declarationLine inner)

/-- A declaration inside another one, with the comment behind it. -/
def innerDeclaration (inner : Drawn .declaration) : Doc :=
  match inner.tree with
  | .declaration place _ => completed inner ++ trailing place.trailingComment

def namespaceBlock (path : List String) (isInline : Bool) (members : List (Drawn .declaration))
    (closing : List String) : Doc :=
  onlyIf isInline "inline " ++ "namespace" ++
    onlyIf (!path.isEmpty) (" " ++ "::".intercalate path) ++ beforeBrace ++
    braced (declarationLines members ++ commentLines closing)

def linkageBlock (abi : String) (members : List (Drawn .declaration)) : Doc :=
  "extern " ++ abi ++ beforeBrace ++ braced (declarationLines members)

def linkageSingle (abi : String) (inner : Drawn .declaration) : Doc :=
  "extern " ++ abi ++ " " ++ innerDeclaration inner

def base (access : Option Access) (isVirtual : Bool) (target : Doc) (pack : Bool) : Doc :=
  ifPresent (access.map fun access => text (access.spelling ++ " ")) ++
    onlyIf isVirtual "virtual " ++ target ++ onlyIf pack "..."

/-- Items behind a colon, if there are any. -/
def behindColon (items : List Doc) : Doc :=
  if items.isEmpty then empty else " : " ++ separated ", " items

def classSpecifier (key : ClassKey) (attributes alignments : List String) (title : Option Doc)
    (isFinal : Bool) (bases : List Doc) (members : List (Drawn .declaration))
    (closing : List String) : Doc :=
  key.spelling ++ concat (attributes.map fun content => text (" " ++ attributeSpecifier content)) ++
    concat (alignments.map fun content => text (" " ++ alignmentSpecifier content)) ++
    spacedBefore title ++ onlyIf isFinal " final" ++ behindColon bases ++ beforeBrace ++
    braced (declarationLines members ++ commentLines closing).deeper

def enumHead (key : Option ClassKey) (title underlying : Option Doc) : Doc :=
  "enum" ++ spacedBefore (key.map fun key => text key.spelling) ++ spacedBefore title ++
    ifPresent (underlying.map (" : " ++ ·))

def enumeratorGap : Tree .enumerator → String
  | .enumerator _ _ place => if place.blankLineBefore then "\n" else ""

/-- An enumerator with its comments on lines of its own. A comma follows all but the last one. -/
def enumeratorLine (item : Drawn .enumerator) (isLast : Bool) : Doc :=
  match item.tree with
  | .enumerator _ _ place =>
    commentLines place.leadingComments ++ margin ++ item.drawing ++ onlyIf (!isLast) "," ++
      trailing place.trailingComment ++ "\n"

def enumeratorLines (isFirst : Bool) : List (Drawn .enumerator) → Doc
  | [] => empty
  | item :: rest =>
    (if isFirst then "" else enumeratorGap item.tree) ++ enumeratorLine item rest.isEmpty ++
      enumeratorLines false rest

def enumSpecifier (key : Option ClassKey) (title underlying : Option Doc)
    (items : List (Drawn .enumerator)) : Doc :=
  enumHead key title underlying ++ beforeBrace ++ braced (enumeratorLines true items).deeper

def typeParameterHead (key : TypeParameterKey) (pack : Bool) (ident : Option String) : Doc :=
  key.spelling ++ onlyIf pack "..." ++ spacedBefore (ident.map text)

def typeParameter (key : TypeParameterKey) (pack : Bool) (ident : Option String)
    (fallback : Option Doc) : Doc :=
  typeParameterHead key pack ident ++ ifPresent (fallback.map (" = " ++ ·))

def templateHeader (params : List Doc) : Doc := "template <" ++ separated ", " params ++ ">"

/-- A template stands under its header, an instantiation behind the keyword. -/
def template (params : List Doc) (isInstantiation : Bool) (inner : Drawn .declaration) : Doc :=
  if isInstantiation then "template " ++ innerDeclaration inner
  else match inner.tree with
    | .declaration place _ =>
      templateHeader params ++ "\n" ++ commentLines place.leadingComments ++ margin ++
        innerDeclaration inner

/-- The result of a function with its pointer operators, before the name. -/
def functionResult (specs pointers : Doc) : Doc := fun layout =>
  let specs := specs layout
  let pointers := pointers layout
  if specs.isEmpty then pointers else specs ++ DeclaratorDoc.attached pointers ++ " "

def memberInit (target : Doc) (init : Bool → Doc) (pack : Bool) : Doc :=
  target ++ init false ++ onlyIf pack "..."

/-- Member initializers stand only before a body. -/
def functionEnd (inits : List Doc) (body : Drawn .functionBody) : Doc :=
  match body.tree with
  | .defined _ => behindColon inits ++ body.drawing
  | _ => body.drawing

def function (specs : Doc) (pointers : List (Drawn .pointerOperator)) (title sig : Doc)
    (isOverride isFinal : Bool) (inits : List Doc) (body : Drawn .functionBody) : Doc :=
  functionResult specs (pointerOperators pointers) ++ title ++ sig ++
    onlyIf isOverride " override" ++ onlyIf isFinal " final" ++ functionEnd inits body

/-- A variable without its semicolon. Specifiers may stand alone. -/
def variableList (specs : Doc) : List (Option Doc → Doc) → Doc
  | [] => specs
  | first :: rest => first (some specs) ++ concat (rest.map (· none))

def typedef (specs : Doc) : List DeclaratorDoc → Doc
  | [] => "typedef ;"
  | first :: rest =>
    "typedef " ++ first.afterSpecifiers specs ++ concat (rest.map (", " ++ ·.standalone)) ++ ";"

def staticAssert (holds : Drawn .expression) (message : Option (Drawn .expression)) : Doc :=
  "static_assert(" ++ holds.operand Precedence.assignment ++
    ifPresent (message.map (", " ++ ·.operand Precedence.assignment)) ++ ");"

end CppSyntax.Render
