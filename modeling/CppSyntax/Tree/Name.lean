import CppSyntax.Tree.Basic

/-!
Names inside a tree: what identifies them, and which name a declarator declares.
-/

namespace CppSyntax

/-- The identifier of a segment, unless it names an operator. -/
def Tree.segmentIdent? : Tree .segment → Option String
  | .plainSegment ident _ | .templateSegment ident _ _ | .destructorSegment ident _ => some ident
  | .operatorSegment .. | .conversionSegment .. => none

def Tree.segments : Name → List (Tree .segment)
  | .qualifiedName _ segments => segments.toList

/-- The identifier that a name ends in, unless it ends in an operator. -/
def Tree.lastIdent? (name : Name) : Option String :=
  name.segments.getLast?.bind (·.segmentIdent?)

/-- The name that a declarator declares, looking through nested declarators. -/
def Tree.declaredName? {c : Category} : Tree c → Option Name
  | .declaredName target => some target
  | .nestedDeclarator inner => inner.declaredName?
  | .declarator _ _ core _ => core.declaredName?
  | _ => none
termination_by structural tree => tree

/-- A name of one segment without template arguments. -/
def Tree.isSimple : Name → Bool
  | .qualifiedName false (.cons (.templateSegment ..) .nil) => false
  | .qualifiedName false (.cons _ .nil) => true
  | _ => false

/-- The declarator that declares nothing and changes nothing about its type. -/
def Tree.plainDeclarator : Declarator := .declarator .nil false .unnamed .nil

def Tree.isPlain : Declarator → Bool
  | .declarator .nil false .unnamed .nil => true
  | _ => false

end CppSyntax
