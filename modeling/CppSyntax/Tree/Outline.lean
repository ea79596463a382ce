import CppSyntax.Tree.Name

/-!
The outline of a declaration: its name, its modifiers, the declarations and the body inside it. A
template has the outline of what it is a template of.
-/

namespace CppSyntax.Tree

/-- The spelling of a segment without template arguments. -/
def segmentSpelling : Tree .segment → String
  | .plainSegment ident _ | .templateSegment ident _ _ => ident
  | .destructorSegment ident _ => "~" ++ ident
  | .operatorSegment symbol _ => "operator" ++ symbol
  | .conversionSegment _ _ => "operator <conversion>"

def nameSpelling : Name → String
  | .qualifiedName isGlobal segments =>
    (if isGlobal then "::" else "") ++
      "::".intercalate (segments.toList.map (·.segmentSpelling))

/-- The spelling of a name that may be missing. -/
def optionalSpelling (name : Option Name) : String :=
  (name.map (·.nameSpelling)).getD ""

def enumTitle? : Tree .enumSpecifier → Option Name
  | .bodilessEnum _ title _ => some title
  | .enumSpecifier _ title _ _ => title.toOption

def classTitle? : Tree .classSpecifier → Option Name
  | .classSpecifier _ _ _ title _ _ _ _ => title.toOption

def classMembers : Tree .classSpecifier → List Declaration
  | .classSpecifier _ _ _ _ _ _ members _ => members.toList

def listedModifiers : Tree .specifiers → List Modifier
  | .specifiers _ _ modifiers _ => modifiers

def initDeclaratorShape : Tree .initDeclarator → Declarator
  | .initDeclarator shape _ _ => shape

/-- The declarators of a variable declaration or a typedef. -/
def declarators : Declaration → List Declarator
  | .declaration _ (.variable _ shapes) => shapes.toList.map (·.initDeclaratorShape)
  | .declaration _ (.typedef _ shapes) => shapes.toList
  | _ => []

/-- What a declaration is called; several declarators go by the first one. -/
def title {c : Category} : Tree c → String
  | .declaration _ form => form.title
  | .template _ _ inner => inner.title
  | .namespaceBlock path _ _ _ => "::".intercalate path
  | .namespaceAlias ident _ | .typeAlias ident _ => ident
  | .forwardClass _ name | .usingDirective name | .usingDeclaration _ name => name.nameSpelling
  | .function _ _ name _ _ _ _ _ => name.nameSpelling
  | .classDeclaration definition => optionalSpelling definition.classTitle?
  | .enumDeclaration definition => optionalSpelling definition.enumTitle?
  | .variable _ shapes =>
    optionalSpelling (shapes.toList.head?.bind (·.initDeclaratorShape.declaredName?))
  | .typedef _ shapes => optionalSpelling (shapes.toList.head?.bind (·.declaredName?))
  | .linkageBlock abi _ | .linkageSingle abi _ => abi
  | _ => ""
termination_by structural tree => tree

def modifiers {c : Category} : Tree c → List Modifier
  | .declaration _ form => form.modifiers
  | .template _ _ inner => inner.modifiers
  | .function specs _ _ _ _ _ _ _ | .variable specs _ | .typedef specs _ => specs.listedModifiers
  | _ => []
termination_by structural tree => tree

/-- The declarations directly inside a namespace, a class or a linkage block. -/
def children {c : Category} : Tree c → List Declaration
  | .declaration _ form => form.children
  | .template _ _ inner => inner.children
  | .namespaceBlock _ _ members _ | .linkageBlock _ members => members.toList
  | .classDeclaration definition => definition.classMembers
  | _ => []
termination_by structural tree => tree

/-- The body of a function that is defined. -/
def functionBlock? {c : Category} : Tree c → Option (Tree .block)
  | .declaration _ form => form.functionBlock?
  | .template _ _ inner => inner.functionBlock?
  | .function _ _ _ _ _ _ _ (.defined body) => some body
  | _ => none
termination_by structural tree => tree

def statements : Tree .block → List Statement
  | .block statements _ => statements.toList

def declarations : TranslationUnit → List Declaration
  | .unit declarations _ => declarations.toList

/-- The comments behind the last declaration. -/
def closingComments : TranslationUnit → List String
  | .unit _ closing => closing

end CppSyntax.Tree
