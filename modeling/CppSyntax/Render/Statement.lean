import CppSyntax.Render.Declaration

/-!
Documents of statements. The head of a control statement stands on one line, its body in braces or
indented on the next line. Statements behind a label of a switch are indented below the label.
-/

namespace CppSyntax

/-- Whether the statement ends in an `if` that an `else` behind it would belong to. -/
def Tree.endsInOpenIf {c : Category} : Tree c → Bool
  | .statement _ form => form.endsInOpenIf
  | .ifStatement _ _ _ _ .absent => true
  | .ifStatement _ _ _ _ (.present elseBranch) => elseBranch.endsInOpenIf
  | .forStatement _ _ _ body | .rangeFor _ _ _ body | .whileStatement _ body
  | .switchStatement _ _ body => body.endsInOpenIf
  | _ => false
termination_by structural tree => tree

namespace Render

open Doc

def isIf : Tree .statementForm → Bool
  | .ifStatement .. => true
  | _ => false

def isCompound : Tree .statementForm → Bool
  | .compound _ => true
  | _ => false

/-- The labels that statements are indented below. -/
def isCaseLabel : Statement → Bool
  | .statement _ (.caseLabel _) | .statement _ .defaultLabel => true
  | _ => false

def isDirectiveStatement : Tree .statementForm → Bool
  | .declarationStatement (.declaration _ (.directive _)) => true
  | _ => false

/-- A statement with its comments on lines of its own. A directive stands at the margin of the
text. -/
def statementLine (inner : Drawn .statement) : Doc :=
  match inner.tree with
  | .statement place form =>
    commentLines place.leadingComments ++
      if isDirectiveStatement form then inner.drawing ++ "\n"
      else margin ++ inner.drawing ++ trailing place.trailingComment ++ "\n"

def statementGap : Statement → String
  | .statement place _ => if place.blankLineBefore then "\n" else ""

/-- The statements of a block. Behind the first label the others stand one level deeper. -/
def statementLines (isFirst behindLabel : Bool) : List (Drawn .statement) → Doc
  | [] => empty
  | inner :: rest =>
    let isLabel := isCaseLabel inner.tree
    (if isFirst then "" else statementGap inner.tree) ++
      (if behindLabel && !isLabel then (statementLine inner).deeper else statementLine inner) ++
      statementLines false (behindLabel || isLabel) rest

def block (statements : List (Drawn .statement)) (closing : List String) : Doc :=
  braced (statementLines true false statements ++ commentLines closing).deeper

/-- A body opens a brace behind the head, unless comments stand before it. -/
def opensBrace : Statement → Bool
  | .statement place form => isCompound form && place.leadingComments.isEmpty

/-- Whether a body ends in a brace that a keyword may follow on the same line. -/
def endsInBrace : Statement → Bool
  | .statement place form =>
    opensBrace (.statement place form) && place.trailingComment.isNone

def subStatement (body : Drawn .statement) : Doc :=
  match body.tree with
  | .statement place _ =>
    let ending := body.drawing ++ trailing place.trailingComment
    if opensBrace body.tree then beforeBrace ++ ending
    else "\n" ++ (commentLines place.leadingComments ++ margin ++ ending).deeper

/-- A word that goes on with a statement after a body: on the line of its closing brace if the style
of braces says so. -/
def continued (closed : Bool) (word : String) : Doc := fun layout =>
  match closed, layout.options.braceStyle with
  | true, .sameLine => " " ++ word
  | _, _ => "\n" ++ margin layout ++ word

/-- A statement before a condition. -/
def initStatement (init : Option Doc) : Doc := ifPresent (init.map (· ++ " "))

/-- Whether the first branch needs braces to keep the `else` away from an `if` inside it. -/
def needsBraces (thenBranch : Drawn .statement) (elseBranch : Option (Drawn .statement)) : Bool :=
  elseBranch.isSome && thenBranch.tree.endsInOpenIf

def thenPart (braces : Bool) (thenBranch : Drawn .statement) : Doc :=
  if braces then beforeBrace ++ braced (statementLine thenBranch).deeper
  else subStatement thenBranch

/-- The branch behind `else`. Another `if` goes on in the same line. -/
def elsePart (elseBranch : Drawn .statement) : Doc :=
  match elseBranch.tree with
  | .statement place form =>
    if isIf form && place.leadingComments.isEmpty then
      " " ++ elseBranch.drawing ++ trailing place.trailingComment
    else subStatement elseBranch

def ifStatement (isConstexpr : Bool) (init : Option Doc) (test : Doc)
    (thenBranch : Drawn .statement) (elseBranch : Option (Drawn .statement)) : Doc :=
  let braces := needsBraces thenBranch elseBranch
  "if " ++ onlyIf isConstexpr "constexpr " ++ (initStatement init ++ test).parenthesized ++
    thenPart braces thenBranch ++
    ifPresent (elseBranch.map
      (continued (braces || endsInBrace thenBranch.tree) "else" ++ elsePart ·))

/-- An assignment as a condition stands in parentheses of its own. -/
def testExpression (value : Drawn .expression) : Doc :=
  match value.tree with
  | .assignment .. => value.anyExpression.parenthesized
  | _ => value.anyExpression

def switchStatement (init : Option Doc) (test : Doc) (body : Drawn .statement) : Doc :=
  "switch " ++ (initStatement init ++ test).parenthesized ++ subStatement body

def forStatement (init test : Option Doc) (step : Option (Drawn .expression))
    (body : Drawn .statement) : Doc :=
  "for (" ++ init.getD ";" ++ spacedBefore test ++ ";" ++
    spacedBefore (step.map (·.anyExpression)) ++ ")" ++ subStatement body

def rangeFor (init : Option Doc) (element : Doc) (range : Drawn .expression)
    (body : Drawn .statement) : Doc :=
  "for (" ++ initStatement init ++ element ++ " : " ++ range.operand Precedence.assignment ++ ")" ++
    subStatement body

def whileStatement (test : Doc) (body : Drawn .statement) : Doc :=
  "while " ++ test.parenthesized ++ subStatement body

def doStatement (body : Drawn .statement) (test : Drawn .expression) : Doc :=
  "do" ++ subStatement body ++ continued (endsInBrace body.tree) "while (" ++ test.anyExpression ++
    ");"

/-- An expression as a statement. One that would be read as a declaration stands in parentheses. -/
def expressionStatement (value : Drawn .expression) : Doc := fun layout =>
  let content := value.anyExpression layout
  let startsLikeType := startsWith (fun c => Text.isAlphabetic c || c == '_' || c == ':') content
  if startsLikeType && readsAsDeclaration (content ++ ";") layout.typeNames then
    "(" ++ content ++ ");"
  else content ++ ";"

def returnStatement (value : Option (Drawn .expression)) : Doc :=
  "return" ++ spacedBefore (value.map (·.anyExpression)) ++ ";"

def handler (param : Option (Bool → Doc)) (body : Doc) : Doc :=
  continued true "catch " ++ ((param.map (· false)).getD (text "...")).parenthesized ++ beforeBrace ++ body

def tryStatement (body : Doc) (handlers : List Doc) : Doc :=
  "try" ++ beforeBrace ++ body ++ concat handlers

end Render

end CppSyntax
