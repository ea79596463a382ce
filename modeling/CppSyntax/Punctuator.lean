/-!
Operators and punctuators. A double `>` is never one of them: the two characters stay apart, so that
nested template argument lists can close one after the other.
-/

namespace CppSyntax

inductive Punctuator where
  | leftParen | rightParen | leftBrace | rightBrace | leftBracket | rightBracket | semicolon
  | comma | colon | scope | dot | dotStar | ellipsis | arrow | arrowStar | question | plus
  | minus | star | slash | percent | caret | ampersand | pipe | tilde | bang | assign | less
  | greater | lessEq | greaterEq | equal | notEqual | spaceship | andAnd | orOr | plusPlus
  | minusMinus | shiftLeft | shiftLeftAssign | plusAssign | minusAssign | starAssign
  | slashAssign | percentAssign | caretAssign | ampersandAssign | pipeAssign
deriving DecidableEq, Repr

namespace Punctuator

def spelling : Punctuator → String
  | .leftParen => "("
  | .rightParen => ")"
  | .leftBrace => "\x7b"
  | .rightBrace => "\x7d"
  | .leftBracket => "["
  | .rightBracket => "]"
  | .semicolon => ";"
  | .comma => ","
  | .colon => ":"
  | .scope => "::"
  | .dot => "."
  | .dotStar => ".*"
  | .ellipsis => "..."
  | .arrow => "->"
  | .arrowStar => "->*"
  | .question => "?"
  | .plus => "+"
  | .minus => "-"
  | .star => "*"
  | .slash => "/"
  | .percent => "%"
  | .caret => "^"
  | .ampersand => "&"
  | .pipe => "|"
  | .tilde => "~"
  | .bang => "!"
  | .assign => "="
  | .less => "<"
  | .greater => ">"
  | .lessEq => "<="
  | .greaterEq => ">="
  | .equal => "=="
  | .notEqual => "!="
  | .spaceship => "<=>"
  | .andAnd => "&&"
  | .orOr => "||"
  | .plusPlus => "++"
  | .minusMinus => "--"
  | .shiftLeft => "<<"
  | .shiftLeftAssign => "<<="
  | .plusAssign => "+="
  | .minusAssign => "-="
  | .starAssign => "*="
  | .slashAssign => "/="
  | .percentAssign => "%="
  | .caretAssign => "^="
  | .ampersandAssign => "&="
  | .pipeAssign => "|="

/-- The punctuator that starts with the first character and goes as far as the next ones allow.
The number says how many of the next characters belong to it. -/
def longest? (first : Char) (next : List Char) : Option (Punctuator × Nat) :=
  match first, next with
  | '(', _ => some (.leftParen, 0)
  | ')', _ => some (.rightParen, 0)
  | '\x7b', _ => some (.leftBrace, 0)
  | '\x7d', _ => some (.rightBrace, 0)
  | '[', _ => some (.leftBracket, 0)
  | ']', _ => some (.rightBracket, 0)
  | ';', _ => some (.semicolon, 0)
  | ',', _ => some (.comma, 0)
  | '?', _ => some (.question, 0)
  | '~', _ => some (.tilde, 0)
  | ':', ':' :: _ => some (.scope, 1)
  | ':', _ => some (.colon, 0)
  | '.', '.' :: '.' :: _ => some (.ellipsis, 2)
  | '.', '*' :: _ => some (.dotStar, 1)
  | '.', _ => some (.dot, 0)
  | '+', '+' :: _ => some (.plusPlus, 1)
  | '+', '=' :: _ => some (.plusAssign, 1)
  | '+', _ => some (.plus, 0)
  | '-', '-' :: _ => some (.minusMinus, 1)
  | '-', '=' :: _ => some (.minusAssign, 1)
  | '-', '>' :: '*' :: _ => some (.arrowStar, 2)
  | '-', '>' :: _ => some (.arrow, 1)
  | '-', _ => some (.minus, 0)
  | '*', '=' :: _ => some (.starAssign, 1)
  | '*', _ => some (.star, 0)
  | '/', '=' :: _ => some (.slashAssign, 1)
  | '/', _ => some (.slash, 0)
  | '%', '=' :: _ => some (.percentAssign, 1)
  | '%', _ => some (.percent, 0)
  | '^', '=' :: _ => some (.caretAssign, 1)
  | '^', _ => some (.caret, 0)
  | '=', '=' :: _ => some (.equal, 1)
  | '=', _ => some (.assign, 0)
  | '!', '=' :: _ => some (.notEqual, 1)
  | '!', _ => some (.bang, 0)
  | '<', '=' :: '>' :: _ => some (.spaceship, 2)
  | '<', '=' :: _ => some (.lessEq, 1)
  | '<', '<' :: '=' :: _ => some (.shiftLeftAssign, 2)
  | '<', '<' :: _ => some (.shiftLeft, 1)
  | '<', _ => some (.less, 0)
  | '>', '=' :: _ => some (.greaterEq, 1)
  | '>', _ => some (.greater, 0)
  | '&', '&' :: _ => some (.andAnd, 1)
  | '&', '=' :: _ => some (.ampersandAssign, 1)
  | '&', _ => some (.ampersand, 0)
  | '|', '|' :: _ => some (.orOr, 1)
  | '|', '=' :: _ => some (.pipeAssign, 1)
  | '|', _ => some (.pipe, 0)
  | _, _ => none

end Punctuator

end CppSyntax
