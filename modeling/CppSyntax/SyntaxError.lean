import CppSyntax.Token

/-!
Syntax errors: the place where reading failed, what would have let it go on, and what stood there.
-/

namespace CppSyntax

/-- What was expected. -/
inductive Expectation where
  /-- A fixed spelling and what it is there for. -/
  | spelling (text purpose : String)
  | identifier (purpose : String)
  | phrase (text : String)
deriving DecidableEq, Repr

def Expectation.describe : Expectation → String
  | .spelling text purpose => "'" ++ text ++ "' " ++ purpose
  | .identifier purpose => "identifier " ++ purpose
  | .phrase text => text

/-- What was found instead. -/
inductive Finding where
  | token (kind : TokenKind)
  | storageClass
  | operands (count : Nat)
  | lexFault (cause : LexFault)
deriving DecidableEq, Repr

def Finding.describe : Finding → String
  | .token kind => kind.describe
  | .storageClass => "storage class specifier"
  | .operands count => toString count ++ " operands"
  | .lexFault cause => cause.describe

structure SyntaxError where
  location : Location
  expected : Expectation
  found : Finding
deriving DecidableEq, Repr

namespace SyntaxError

def message (error : SyntaxError) : String :=
  "Parse error at " ++ error.location.describe ++ ": expected " ++ error.expected.describe ++
    ", found " ++ error.found.describe

/-- A fault of a token, seen by a reader of tokens. -/
def ofLexError (error : LexError) : SyntaxError :=
  ⟨error.location, .phrase "a valid token", .lexFault error.fault⟩

/-- Of two errors the one that got further into the text, the first one if neither did. -/
def further (a b : SyntaxError) : SyntaxError :=
  if a.location.before b.location then b else a

end SyntaxError

end CppSyntax
