import CppSyntax.Grammar.Derivation
import CppSyntax.Token.Stream

/-!
Reading source text. A reader is a place in the tokens of a text together with the names known as
types; it can be asked for statements and for the rest of the text in any order, and it goes on after
an error from where the error left it.
-/

namespace CppSyntax

/-- The place before the first token. -/
def State.start (typeNames : List String) : List Token → State
  | [] => ⟨none, ⟨.endOfFile, ⟨1, 1⟩, false, [], none, false⟩, [], typeNames⟩
  | first :: following => ⟨none, first, following, typeNames⟩

namespace Reader

/-- A reader of a text in which some names are known as types beside those of the library. -/
def ofSource (source : String) (known : List String) : Except SyntaxError State :=
  match Token.ofSource source with
  | .ok tokens => .ok (.start (libraryTypeNames ++ known) tokens)
  | .error error => .error (.ofLexError error)

/-- Fuel for reading on from a place. Between two calls of a rule that take no token lie only a few
other rules, and a repetition takes a token each time. -/
def fuel (state : State) : Nat := 16 * (state.remaining + 2)

/-- The answer of a parser at a place, and the place that it leaves. Running out of fuel counts as
nesting too deep. -/
def run (parser : Grammar Parser → Parser α) (state : State) : Except SyntaxError α × State :=
  match parser (.ofFuel (fuel state)) .top state with
  | .done value reached => (.ok value, reached)
  | .failed error stopped => (.error error, stopped)
  | .exhausted => (.error (state.error (.phrase "nesting depth limit")), state)

/-- Reads the next statement. -/
def statement : State → Except SyntaxError Statement × State := run Grammar.statement

/-- Reads all declarations that are left. -/
def translationUnit : State → Except SyntaxError TranslationUnit × State :=
  run Grammar.translationUnit

end Reader

/-- The syntax tree of a source text. -/
def parse (source : String) : Except SyntaxError TranslationUnit := do
  let start ← Reader.ofSource source []
  (Reader.translationUnit start).1

/-- Whether a text that holds one statement is read as a declaration. -/
def readsAsDeclaration (text : String) (known : List String) : Bool :=
  match Reader.ofSource text known with
  | .error _ => false
  | .ok start =>
    match (Reader.statement start).1 with
    | .ok (.statement _ (.declarationStatement _)) => true
    | _ => false

/-- Whether a text that starts with a parenthesis is read as a parameter list. -/
def readsAsParameterList (text : String) (known : List String) : Bool :=
  match Reader.ofSource text known with
  | .error _ => false
  | .ok start =>
    match (Reader.run Grammar.parameterListAhead start).1 with
    | .ok ahead => ahead
    | .error _ => false

end CppSyntax
