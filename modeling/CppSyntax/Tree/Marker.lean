import CppSyntax.Location

/-!
The small choices that nodes of a tree carry: keywords with a fixed set of values, qualifiers, and
the place of a node with its comments.
-/

namespace CppSyntax

/-- Where a node starts, and the comments and the empty line that belong to it. -/
structure Placement where
  location : Location
  leadingComments : List String
  trailingComment : Option String
  blankLineBefore : Bool
deriving DecidableEq, Repr

namespace Placement

/-- A bare place. -/
def bare (location : Location) : Placement := ⟨location, [], none, false⟩

/-- A comment found behind an opening brace leads the first node inside. -/
def precede (comment : String) (placement : Placement) : Placement :=
  { placement with leadingComments := comment :: placement.leadingComments }

/-- The comments of a node in reading order. -/
def comments (placement : Placement) : List String :=
  placement.leadingComments ++ placement.trailingComment.toList

end Placement

/-- The qualifiers `const` and `volatile`. -/
structure Qualifiers where
  isConst : Bool
  isVolatile : Bool
deriving DecidableEq, Repr

def Qualifiers.none : Qualifiers := ⟨false, false⟩

inductive ClassKey where
  | classKey | structKey | unionKey
deriving DecidableEq, Repr

def ClassKey.spelling : ClassKey → String
  | .classKey => "class"
  | .structKey => "struct"
  | .unionKey => "union"

/-- The keyword before the name of an elaborated type. -/
inductive ElaboratedKey where
  | ofClass (key : ClassKey) | ofEnum | ofTypename
deriving DecidableEq, Repr

def ElaboratedKey.spelling : ElaboratedKey → String
  | .ofClass key => key.spelling
  | .ofEnum => "enum"
  | .ofTypename => "typename"

/-- The keyword that introduces a type parameter of a template. -/
inductive TypeParameterKey where
  | typenameKey | classKey
deriving DecidableEq, Repr

def TypeParameterKey.spelling : TypeParameterKey → String
  | .typenameKey => "typename"
  | .classKey => "class"

/-- The qualifier `&` or `&&` of a member function. -/
inductive ReferenceQualifier where
  | lvalue | rvalue
deriving DecidableEq, Repr

inductive Access where
  | isPublic | isProtected | isPrivate
deriving DecidableEq, Repr

def Access.spelling : Access → String
  | .isPublic => "public"
  | .isProtected => "protected"
  | .isPrivate => "private"

/-- Storage class and function specifiers. -/
inductive Modifier where
  | static | external | inline | virtual | explicit | constexpr | consteval | constinit | friend
  | mutable | threadLocal | register
deriving DecidableEq, Repr

def Modifier.spelling : Modifier → String
  | .static => "static"
  | .external => "extern"
  | .inline => "inline"
  | .virtual => "virtual"
  | .explicit => "explicit"
  | .constexpr => "constexpr"
  | .consteval => "consteval"
  | .constinit => "constinit"
  | .friend => "friend"
  | .mutable => "mutable"
  | .threadLocal => "thread_local"
  | .register => "register"

end CppSyntax
