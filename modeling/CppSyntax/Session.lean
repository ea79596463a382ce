import CppSyntax.Reader

/-!
Reading as a session. A session holds the tokens of a text and everything that changes while they are
read: the cursor, the names known as types with a journal of those that were added, the classes being
defined, the meaning of a bare `>` and the depth of nesting. A routine changes these in place. A
tentative run that fails takes its changes back by the journal and by the sizes that were saved before
it, and every other change of the surroundings is undone where it was made.
-/

namespace CppSyntax

structure Session where
  tokens : List Token
  position : Nat
  /-- The set of names known as types. -/
  known : List String
  /-- The names that reading has added, in the order in which it added them. -/
  journal : List String
  /-- The classes being defined, the innermost last. -/
  classes : List String
  inTemplateArguments : Bool
  depth : Nat
deriving DecidableEq

inductive Outcome (α : Type) where
  | answered (result : Except SyntaxError α) (session : Session)
  | exhausted

def Routine (α : Type) := Session → Outcome α

namespace Session

/-- A session before the first token. -/
def fresh (known : List String) (tokens : List Token) : Session :=
  ⟨tokens, 0, known, [], [], false, 0⟩

/-- The token that was read last. -/
def previous (session : Session) : Option Token :=
  if session.position = 0 then none else session.tokens[session.position - 1]?

/-- The place where the session stands. -/
def state (session : Session) : State :=
  { State.start session.known (session.tokens.drop session.position) with
    previous := session.previous }

/-- What surrounds that place. -/
def context (session : Session) : Context :=
  ⟨session.classes.reverse, session.inTemplateArguments, session.depth⟩

/-- The end token is never passed. -/
def advance (session : Session) : Session :=
  if session.state.atEnd then session else { session with position := session.position + 1 }

def declare (session : Session) (ident : String) : Session :=
  if ident ∈ session.known then session
  else { session with known := ident :: session.known, journal := session.journal ++ [ident] }

/-- Takes back what a tentative run has changed since a session that was saved before it. The depth
is left as the run has left it. -/
def rollBack (after saved : Session) : Session :=
  let added := after.journal.drop saved.journal.length
  { after with
    position := saved.position
    known := after.known.filter (!added.contains ·)
    journal := after.journal.take saved.journal.length
    classes := after.classes.take saved.classes.length
    inTemplateArguments := saved.inTemplateArguments }

end Session

namespace Routine

protected def pure (value : α) : Routine α := fun session => .answered (.ok value) session

protected def bind (first : Routine α) (next : α → Routine β) : Routine β := fun session =>
  match first session with
  | .answered (.ok value) after => next value after
  | .answered (.error error) after => .answered (.error error) after
  | .exhausted => .exhausted

instance : Monad Routine where
  pure := Routine.pure
  bind := Routine.bind

/-- Changes the session before a run and once more after it, whatever the run answers. -/
def surrounded (enter : Session → Session) (leave : Session → Session → Session)
    (routine : Routine α) : Routine α := fun session =>
  match routine (enter session) with
  | .answered result after => .answered result (leave session after)
  | .exhausted => .exhausted

/-- Tries a routine. If it fails, its changes are taken back. -/
def tentative (routine : Routine α) : Routine (Except SyntaxError α) := fun session =>
  match routine session with
  | .answered (.ok value) after =>
    .answered (.ok (.ok value)) { after with inTemplateArguments := session.inTemplateArguments }
  | .answered (.error error) after => .answered (.ok (.error error)) (after.rollBack session)
  | .exhausted => .exhausted

instance : Reading Routine where
  exhausted := fun _ => .exhausted
  here := fun session => .answered (.ok session.state) session
  context := fun session => .answered (.ok session.context) session
  failWith error := fun session => .answered (.error error) session
  advance := fun session => .answered (.ok ()) session.advance
  acceptIf passes := fun session =>
    if passes session.state then .answered (.ok true) session.advance
    else .answered (.ok false) session
  declareType ident := fun session => .answered (.ok ()) (session.declare ident)
  speculate := tentative
  attempt routine := Except.toOption <$> tentative routine
  lookahead routine := fun session =>
    match routine session with
    | .answered result after => .answered (.ok result.toOption) (after.rollBack session)
    | .exhausted => .exhausted
  angleCloses closes := surrounded
    (fun session => { session with inTemplateArguments := closes })
    (fun session after => { after with inTemplateArguments := session.inTemplateArguments })
  insideClass ident := surrounded
    (fun session => { session with classes := session.classes ++ [ident] })
    (fun _ after => { after with classes := after.classes.dropLast })
  deeper := surrounded
    (fun session => { session with depth := session.depth + 1 })
    (fun _ after => { after with depth := after.depth - 1 })

theorem acceptIf_apply (passes : State → Bool) (session : Session) :
    (Parser.acceptIf passes : Routine Bool) session =
      if passes session.state then .answered (.ok true) session.advance
      else .answered (.ok false) session := rfl

theorem lookahead_apply (routine : Routine α) (session : Session) :
    (Parser.lookahead routine : Routine (Option α)) session =
      match routine session with
      | .answered result after => .answered (.ok result.toOption) (after.rollBack session)
      | .exhausted => .exhausted := rfl

end Routine

namespace Session

/-- A session over a text in which some names are known as types beside those of the library. -/
def ofSource (source : String) (known : List String) : Except SyntaxError Session :=
  match Token.ofSource source with
  | .ok tokens => .ok (.fresh (libraryTypeNames ++ known) tokens)
  | .error error => .error (.ofLexError error)

/-- The answer of a routine, and the session that it leaves. -/
def run (routine : Grammar Routine → Routine α) (session : Session) :
    Except SyntaxError α × Session :=
  match routine (.ofFuel (Reader.fuel session.state)) session with
  | .answered result after => (result, after)
  | .exhausted => (.error (session.state.error (.phrase "nesting depth limit")), session)

/-- What a session can be asked for: the next statement, or all declarations that are left. -/
inductive Step where
  | statement | translationUnit
deriving DecidableEq, Repr

def Step.Product : Step → Type
  | .statement => Statement
  | .translationUnit => TranslationUnit

def Step.routine {m : Type → Type} [Monad m] [Reading m] (step : Step) (g : Grammar m) :
    m step.Product :=
  match step with
  | .statement => g.statement
  | .translationUnit => g.translationUnit

def take (session : Session) (step : Step) : Except SyntaxError step.Product × Session :=
  session.run step.routine

/-- The session after several steps, whether they succeed or fail. -/
def takeAll (session : Session) (steps : List Step) : Session :=
  steps.foldl (fun session step => (session.take step).2) session

end Session

end CppSyntax
