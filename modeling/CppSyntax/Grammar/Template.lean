import CppSyntax.Grammar.Declarator

/-!
Template parameters: types, values and templates. A list makes its type names known once it is
closed.
-/

namespace CppSyntax

/-- The name that a template parameter makes known as a type. -/
def Tree.parameterTypeName? : Tree .templateParameter → Option String
  | .typeParameter _ _ ident _ | .templateParameter _ _ _ ident _ => ident
  | .valueParameter _ => none

/-- Whether a type parameter starts here. With a qualified name behind the keyword it is a value of a
dependent type. -/
def State.atTypeParameter (state : State) : Bool :=
  (state.isAtWord .kwTypename || state.isAtWord .kwClass) && !(state.next.isAtIdentifier &&
    state.isAhead 2 .scope)

namespace Grammar

open CppSyntax.Parser

variable {m : Type → Type} [Monad m] [Reading m]

def typeParameterKey : m TypeParameterKey := do
  if ← acceptWord .kwTypename then return .typenameKey
  if ← acceptWord .kwClass then return .classKey
  fail (.phrase "'typename' or 'class' in template parameter")

def templateTemplateParameter (g : Grammar m) : m (Tree .templateParameter) := do
  advance
  let inner ← g.templateParameters
  let key ← typeParameterKey
  let pack ← accept .ellipsis
  let ident ← optionalIdentifier
  let fallback ← if ← accept .assign then some <$> g.name else pure none
  return .templateParameter (.ofList inner) key pack ident (.ofOption fallback)

def typeParameter (g : Grammar m) : m (Tree .templateParameter) := do
  let key ← typeParameterKey
  let pack ← accept .ellipsis
  let ident ← optionalIdentifier
  let fallback ← if ← accept .assign then some <$> g.typeId else pure none
  return .typeParameter key pack ident (.ofOption fallback)

def templateParameter (g : Grammar m) : m (Tree .templateParameter) := do
  let state ← here
  if state.isAtWord .kwTemplate then g.templateTemplateParameter
  else if state.atTypeParameter then g.typeParameter
  else return .valueParameter (← g.parameter)

def templateParametersRule (g : Grammar m) : m (List (Tree .templateParameter)) := do
  expect .less "to open template parameters"
  let params ← angleCloses true do
    if (← here).isAt .greater then return [] else g.separated g.templateParameter
  expect .greater "to close template parameters"
  declareTypes (params.filterMap (·.parameterTypeName?))
  return params

end Grammar

end CppSyntax
