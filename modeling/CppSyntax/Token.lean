import CppSyntax.Keyword
import CppSyntax.Location
import CppSyntax.Punctuator

/-!
Tokens of a C++ source. A token keeps its exact spelling, its place and the comments around it, so
that nothing a reader would miss is lost before a tree is built.
-/

namespace CppSyntax

inductive TokenKind where
  | identifier (name : String)
  | keyword (word : Keyword)
  | punctuator (mark : Punctuator)
  | integer (text : String)
  | floating (text : String)
  | character (text : String)
  | string (text : String)
  | directive (text : String)
  | endOfFile
deriving DecidableEq, Repr

namespace TokenKind

def spelling : TokenKind → String
  | .identifier text | .integer text | .floating text | .character text | .string text
  | .directive text => text
  | .keyword word => word.spelling
  | .punctuator mark => mark.spelling
  | .endOfFile => ""

/-- How a message names the token. -/
def describe : TokenKind → String
  | .identifier name => "identifier '" ++ name ++ "'"
  | .keyword word => "'" ++ word.spelling ++ "'"
  | .punctuator mark => "'" ++ mark.spelling ++ "'"
  | .integer text => "integer literal " ++ text
  | .floating text => "floating literal " ++ text
  | .character text => "character literal " ++ text
  | .string text => "string literal " ++ text
  | .directive _ => "preprocessor directive"
  | .endOfFile => "end of file"

end TokenKind

/-- A token with its surroundings. It is joint when the next token may start right after it, with
neither a blank nor a slash between them. -/
structure Token where
  kind : TokenKind
  location : Location
  joint : Bool
  leadingComments : List String
  trailingComment : Option String
  blankLineBefore : Bool
deriving DecidableEq, Repr

/-- Why a text is not a sequence of tokens. -/
inductive LexFault where
  | unexpectedCharacter (c : Char)
  | unterminatedString
  | unterminatedCharacter
  | invalidRawDelimiter
  | unterminatedRawString
  | unterminatedComment
deriving DecidableEq, Repr

def LexFault.describe : LexFault → String
  | .unexpectedCharacter c => "Unexpected character: '" ++ c.toString ++ "'"
  | .unterminatedString => "Unterminated string literal"
  | .unterminatedCharacter => "Unterminated character literal"
  | .invalidRawDelimiter => "Invalid raw string delimiter"
  | .unterminatedRawString => "Unterminated raw string literal"
  | .unterminatedComment => "Unterminated block comment"

/-- A fault and the place of the token or comment that it spoils. -/
structure LexError where
  fault : LexFault
  location : Location
deriving DecidableEq, Repr

def LexError.message (error : LexError) : String :=
  "Lexer error at " ++ error.location.describe ++ ": " ++ error.fault.describe

end CppSyntax
