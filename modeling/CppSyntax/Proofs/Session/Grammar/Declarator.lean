import CppSyntax.Proofs.Session.Grammar.Specifier

set_option synthInstance.maxSize 4096

/-!
The routines for declarators and template parameters mirror their parsers.
-/

namespace CppSyntax.Grammar

open CppSyntax.Parser

variable {L : Likeness} {moves : Bool} {g : Grammar Routine} {h : Grammar Parser}
  [paired : Paired L g h]

section

variable (sights : Sights L)

instance atNestedDeclarator_equal :
    Equal sights.fst.atNestedDeclarator sights.snd.atNestedDeclarator := by
  refine ⟨?_⟩
  simp only [State.atNestedDeclarator, State.isAt, State.isAhead, sights.sees.kind,
    sights.sees.ahead]

instance : Equal sights.fst.atExceptionSpec sights.snd.atExceptionSpec := by
  unfold State.atExceptionSpec
  infer_instance

instance : Equal sights.fst.atDeclaredName sights.snd.atDeclaredName := by
  unfold State.atDeclaredName
  infer_instance

theorem next_kind (state : State) :
    state.next.kind = if state.atEnd then state.kind else state.ahead 1 := by
  cases atEnd : state.atEnd with
  | true => rw [State.next_of_atEnd atEnd, if_pos rfl]
  | false =>
    cases following : state.following with
    | nil => simp [State.next, State.ahead, atEnd, following, State.kind]
    | cons next rest => simp [State.next, State.ahead, atEnd, following, State.kind]

instance atTypeParameter_equal : Equal sights.fst.atTypeParameter sights.snd.atTypeParameter := by
  refine ⟨?_⟩
  simp only [State.atTypeParameter, State.isAtWord, State.isAtIdentifier, State.isAhead, next_kind,
    sights.sees.kind, sights.sees.ahead, sights.sees.atEnd]

end

section

variable {detail : Detail} (pair : Likes detail FunctionQualifiers)

instance qualifiersConst_same : Same detail { pair.fst with cv := { pair.fst.cv with isConst := true } }
    { pair.snd with cv := { pair.snd.cv with isConst := true } } :=
  pair.same.map (f := fun found => { found with cv := { found.cv with isConst := true } })
    fun _ => rfl

instance qualifiersVolatile_same :
    Same detail { pair.fst with cv := { pair.fst.cv with isVolatile := true } }
    { pair.snd with cv := { pair.snd.cv with isVolatile := true } } :=
  pair.same.map (f := fun found => { found with cv := { found.cv with isVolatile := true } })
    fun _ => rfl

instance (reference : Option ReferenceQualifier) :
    Same detail { pair.fst with reference } { pair.snd with reference } :=
  pair.same.map (f := fun found => { found with reference }) fun _ => rfl

instance {spec other : Tree .exceptionSpec} [specs : Same detail spec other] :
    Same detail { pair.fst with exception := some spec } { pair.snd with exception := some other } :=
  pair.same.map₂ specs (f := fun found spec => { found with exception := some spec }) fun _ _ => rfl

instance : Equal pair.fst.cv pair.snd.cv := ⟨pair.same.equal fun _ => rfl⟩

instance : Equal pair.fst.reference pair.snd.reference := ⟨pair.same.equal fun _ => rfl⟩

instance : Same detail pair.fst.exception pair.snd.exception := pair.same.map fun _ => rfl

end

section

include paired

instance : Mirrors L false g.exceptionSpec h.exceptionSpec := by
  unfold Grammar.exceptionSpec
  infer_instance

instance : Mirrors L false g.defaultValue h.defaultValue := by
  unfold Grammar.defaultValue
  infer_instance

instance : Mirrors L false g.parameter h.parameter := by
  unfold Grammar.parameter
  infer_instance

instance : Mirrors L false g.parameterItems h.parameterItems := by
  unfold Grammar.parameterItems
  infer_instance

instance : Mirrors L false g.parameterList h.parameterList := by
  unfold Grammar.parameterList
  infer_instance

instance : Mirrors L false g.functionQualifiers h.functionQualifiers := by
  unfold Grammar.functionQualifiers
  infer_instance

instance : Mirrors L false g.trailingResult h.trailingResult := by
  unfold Grammar.trailingResult
  infer_instance

instance signature_mirrors : Mirrors L false g.signature h.signature := by
  unfold Grammar.signature
  refine .andThen fun parameters => .andThen fun found => .andThen fun result => ?_
  have cvs : found.fst.cv = found.snd.cv := Equal.eq
  have references : found.fst.reference = found.snd.reference := Equal.eq
  rw [cvs, references]
  infer_instance

instance parameterStart_mirrors : Mirrors L false g.parameterStart h.parameterStart := by
  unfold Grammar.parameterStart
  refine .andThenSame fun _ => .andThen fun specs => .choose inferInstance ?_
  refine .choose inferInstance (.byPlace fun sights => ?_)
  rw [sights.sees.kind]
  infer_instance

instance parameterListAhead_mirrors : Mirrors L false g.parameterListAhead h.parameterListAhead := by
  unfold Grammar.parameterListAhead
  refine .byPlace fun sights => ?_
  rw [sights.sees.ahead]
  split <;> infer_instance

instance : Mirrors L false g.arraySize h.arraySize := by
  unfold Grammar.arraySize
  infer_instance

instance (mode : DeclaratorMode) :
    Mirrors L false (g.declaratorSuffixes mode) (h.declaratorSuffixes mode) := by
  unfold Grammar.declaratorSuffixes
  infer_instance

instance : Mirrors L false g.bindingNames h.bindingNames := by
  unfold Grammar.bindingNames
  infer_instance

instance (mode : DeclaratorMode) :
    Mirrors L false (g.declaratorCore mode) (h.declaratorCore mode) := by
  unfold Grammar.declaratorCore
  infer_instance

instance (mode : DeclaratorMode) :
    Mirrors L false (g.declaratorRule mode) (h.declaratorRule mode) := by
  unfold Grammar.declaratorRule
  infer_instance

omit paired in
instance : Mirrors L false (typeParameterKey : Routine TypeParameterKey) typeParameterKey := by
  unfold Grammar.typeParameterKey
  infer_instance

instance : Mirrors L false g.templateTemplateParameter h.templateTemplateParameter := by
  unfold Grammar.templateTemplateParameter
  infer_instance

instance : Mirrors L false g.typeParameter h.typeParameter := by
  unfold Grammar.typeParameter
  infer_instance

instance : Mirrors L false g.templateParameter h.templateParameter := by
  unfold Grammar.templateParameter
  infer_instance

instance : Mirrors L false g.templateParametersRule h.templateParametersRule := by
  unfold Grammar.templateParametersRule
  infer_instance

end

end CppSyntax.Grammar
