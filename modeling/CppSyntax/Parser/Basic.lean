import CppSyntax.SyntaxError

/-!
Parsers over a stream of tokens. What surrounds the place of reading is passed down and so cannot be
changed by a part that is read; what reading changes is the place itself and the names known to be
types. A parser answers with a value, with an error, or by running out of its fuel, and only the
first two are results.
-/

namespace CppSyntax

/-- The place of reading in a stream of tokens, and the names known to be types there. -/
structure State where
  previous : Option Token
  current : Token
  following : List Token
  typeNames : List String

/-- What surrounds the place of reading: the classes being defined, the innermost first, whether a
bare `>` closes a template argument list, and how deep constructs are nested. -/
structure Context where
  classes : List String
  inTemplateArguments : Bool
  depth : Nat

def Context.top : Context := ⟨[], false, 0⟩

inductive Reply (α : Type) where
  | done (value : α) (state : State)
  | failed (error : SyntaxError) (state : State)
  | exhausted

def Parser (α : Type) := Context → State → Reply α

namespace State

def kind (state : State) : TokenKind := state.current.kind

/-- The kind of the token some steps ahead; beyond the end it is that of the last token. -/
def ahead (state : State) (steps : Nat) : TokenKind :=
  ((state.following.take steps).getLast?.getD state.current).kind

def atEnd (state : State) : Bool := state.kind == .endOfFile

def isAt (state : State) (mark : Punctuator) : Bool := state.kind == .punctuator mark

def isAtWord (state : State) (word : Keyword) : Bool := state.kind == .keyword word

def isAtIdentifier (state : State) : Bool :=
  match state.kind with
  | .identifier _ => true
  | _ => false

/-- The token is the given identifier, which is reserved only in this place. -/
def isAtIdent (state : State) (ident : String) : Bool := state.kind == .identifier ident

def isAhead (state : State) (steps : Nat) (mark : Punctuator) : Bool :=
  state.ahead steps == .punctuator mark

def isAheadWord (state : State) (steps : Nat) (word : Keyword) : Bool :=
  state.ahead steps == .keyword word

/-- The place after the current token. The end token is never passed. -/
def next (state : State) : State :=
  if state.atEnd then state
  else match state.following with
    | [] => state
    | token :: rest =>
      { state with previous := some state.current, current := token, following := rest }

/-- The number of tokens from the current one on. -/
def remaining (state : State) : Nat := state.following.length + 1

def error (state : State) (expected : Expectation) : SyntaxError :=
  ⟨state.current.location, expected, .token state.kind⟩

end State

/-- What can be done while reading, besides doing one thing after another. The rules of the grammar are
written for every way of reading. -/
class Reading (m : Type → Type) where
  /-- Ends for want of fuel, without an answer. -/
  exhausted : m α
  here : m State
  context : m Context
  failWith (error : SyntaxError) : m α
  advance : m Unit
  /-- Steps over the current token if it passes. -/
  acceptIf (passes : State → Bool) : m Bool
  /-- Makes a name known as a type, unless it is known already. -/
  declareType (ident : String) : m Unit
  /-- Tries a parser. If it fails, the error is the answer and nothing has been read. -/
  speculate (parser : m α) : m (Except SyntaxError α)
  /-- Tries a parser. If it fails, nothing has been read. -/
  attempt (parser : m α) : m (Option α)
  /-- What a parser would answer here. Nothing is read in any case. -/
  lookahead (parser : m α) : m (Option α)
  /-- Says whether a bare `>` closes a template argument list. -/
  angleCloses (closes : Bool) (parser : m α) : m α
  /-- Runs a parser in the body of a class. -/
  insideClass (ident : String) (parser : m α) : m α
  /-- Runs a parser one level deeper. -/
  deeper (parser : m α) : m α

namespace Parser

export Reading (exhausted here context failWith advance acceptIf declareType speculate attempt
  lookahead angleCloses insideClass deeper)

@[inline] protected def pure (value : α) : Parser α :=
  fun _ state => .done value state

@[inline] protected def bind (first : Parser α) (next : α → Parser β) : Parser β :=
  fun context state =>
    match first context state with
    | .done value reached => next value context reached
    | .failed error stopped => .failed error stopped
    | .exhausted => .exhausted

instance : Monad Parser where
  pure := Parser.pure
  bind := Parser.bind

/-- Runs a parser with other surroundings. -/
@[inline] def surrounded (change : Context → Context) (parser : Parser α) : Parser α :=
  fun context state => parser (change context) state

instance : Reading Parser where
  exhausted := fun _ _ => .exhausted
  here := fun _ state => .done state state
  context := fun context state => .done context state
  failWith error := fun _ state => .failed error state
  advance := fun _ state => .done () state.next
  acceptIf passes := fun _ state =>
    if passes state then .done true state.next else .done false state
  declareType ident := fun _ state =>
    if ident ∈ state.typeNames then .done () state
    else .done () { state with typeNames := ident :: state.typeNames }
  speculate parser := fun context state =>
    match parser context state with
    | .done value reached => .done (.ok value) reached
    | .failed error _ => .done (.error error) state
    | .exhausted => .exhausted
  attempt parser := fun context state =>
    match parser context state with
    | .done value reached => .done (some value) reached
    | .failed _ _ => .done none state
    | .exhausted => .exhausted
  lookahead parser := fun context state =>
    match parser context state with
    | .done value _ => .done (some value) state
    | .failed _ _ => .done none state
    | .exhausted => .exhausted
  angleCloses closes parser :=
    surrounded (fun context => { context with inTemplateArguments := closes }) parser
  insideClass ident parser :=
    surrounded (fun context => { context with classes := ident :: context.classes }) parser
  deeper parser :=
    surrounded (fun context => { context with depth := context.depth + 1 }) parser

section

variable {context : Context} {state : State} (parser : Parser α)

theorem acceptIf_apply (passes : State → Bool) : (acceptIf passes : Parser Bool) context state =
    if passes state then .done true state.next else .done false state := rfl

theorem declareType_apply (ident : String) : (declareType ident : Parser Unit) context state =
    if ident ∈ state.typeNames then .done () state
    else .done () { state with typeNames := ident :: state.typeNames } := rfl

theorem speculate_apply : speculate parser context state =
    match parser context state with
    | .done value reached => .done (.ok value) reached
    | .failed error _ => .done (.error error) state
    | .exhausted => .exhausted := rfl

theorem attempt_apply : attempt parser context state =
    match parser context state with
    | .done value reached => .done (some value) reached
    | .failed _ _ => .done none state
    | .exhausted => .exhausted := rfl

theorem lookahead_apply : lookahead parser context state =
    match parser context state with
    | .done value _ => .done (some value) state
    | .failed _ _ => .done none state
    | .exhausted => .exhausted := rfl

end

section

variable {m : Type → Type} [Monad m] [Reading m]

/-- How deep expressions, statements and declarations may be nested. -/
def nestingLimit : Nat := 256

/-- Fails at the current token. -/
def fail (expected : Expectation) : m α := do
  failWith ((← here).error expected)

def advanceBy : Nat → m Unit
  | 0 => pure ()
  | count + 1 => do advance; advanceBy count

def accept (mark : Punctuator) : m Bool := acceptIf (·.isAt mark)

def acceptWord (word : Keyword) : m Bool := acceptIf (·.isAtWord word)

def acceptIdent (ident : String) : m Bool := acceptIf (·.isAtIdent ident)

def expect (mark : Punctuator) (purpose : String) : m Unit := do
  unless ← accept mark do fail (.spelling mark.spelling purpose)

def expectWord (word : Keyword) (purpose : String) : m Unit := do
  unless ← acceptWord word do fail (.spelling word.spelling purpose)

def optionalIdentifier : m (Option String) := do
  match (← here).kind with
  | .identifier ident => advance; return some ident
  | _ => return none

def expectIdentifier (purpose : String) : m String := do
  match ← optionalIdentifier with
  | some ident => return ident
  | none => fail (.identifier purpose)

/-- Runs a parser one level deeper, unless the limit is reached. -/
def nested (parser : m α) : m α := do
  if nestingLimit ≤ (← context).depth then fail (.phrase "nesting depth limit") else deeper parser

def declareTypes (idents : List String) : m Unit :=
  idents.forM declareType

/-- Repeats a step until it has a result. Each repetition takes one unit of fuel. -/
def iterate (step : α → m (α ⊕ β)) : Nat → α → m β
  | 0, _ => exhausted
  | fuel + 1, start => do
    match ← step start with
    | .inl again => iterate step fuel again
    | .inr result => return result

/-- The comment on the line of the token that was read last. -/
def trailingComment : m (Option String) := do
  return (← here).previous.bind (·.trailingComment)

end

end Parser

end CppSyntax
