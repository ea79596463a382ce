import CppSyntax.Proofs.Gathering.Grammar.Operand
import CppSyntax.Grammar.Declaration

/-!
Declarations. A form that ends in a declaration of its own leaves the comment behind it to that one;
behind every other form the last token has not been taken by an item.
-/

set_option synthInstance.maxSize 4096

namespace CppSyntax

open CppSyntax.Parser

/-- What is free behind a form. -/
@[reducible] def Tree.stretch {c : Category} : Tree c → Stretch
  | .template .. | .linkageSingle .. => .behind
  | .ifStatement .. | .forStatement .. | .rangeFor .. | .whileStatement .. | .switchStatement .. => .behind
  | _ => .inside

theorem Tree.stretch_declarationForm (form : Tree .declarationForm) :
    form.stretch = if form.endsInDeclaration then .behind else .inside := by
  cases form <;> rfl

theorem Tree.stretch_begun {c : Category} (form : Tree c) :
    form.stretch = .inside ∨ form.stretch = .behind := by
  cases form <;> first | exact .inl rfl | exact .inr rfl

/-- A parser of forms. -/
abbrev Forms {c : Category} (p : Parser (Tree c)) : Prop :=
  GathersOf Tree.stretch piecesIn .fresh [] p

namespace Grammar

variable {g : Grammar Parser} [gathering : g.Gathering]

instance namespacePath_collects : Collects g.namespacePath := by
  unfold Grammar.namespacePath
  exact .closed .fresh inferInstance

instance namespaceForm_finishes (isInline : Bool) : Finishes (g.namespaceForm isInline) := by
  unfold Grammar.namespaceForm
  refine .closed .fresh (.nextPlain fun _ => .nextPlain fun path => ?_)
  dsimp only
  split <;> infer_instance

instance aliasForm_finishes : Finishes g.aliasForm := by
  unfold Grammar.aliasForm
  exact .closed .fresh inferInstance

instance usingForm_finishes : Finishes g.usingForm := by
  unfold Grammar.usingForm
  exact .closed .fresh inferInstance

instance requiredDeclaration_rows (scope : Scope) (purpose : String) :
    Rows (g.requiredDeclaration scope purpose) := by
  unfold Grammar.requiredDeclaration
  exact .closed .whole inferInstance

instance (scope : Scope) : Forms (g.templateForm scope) := by
  unfold Grammar.templateForm
  infer_instance

theorem linkageForm_gathers (abi : String) {place : State} (inside : place.atEnd = false) :
    GathersAt place Tree.stretch piecesIn .fresh [] (g.linkageForm abi) := by
  unfold Grammar.linkageForm
  exact .advanceBy inside inferInstance

instance assertedClauses_collects : Collects g.assertedClauses := by
  unfold Grammar.assertedClauses
  exact .closed .fresh inferInstance

instance staticAssertForm_finishes : Finishes g.staticAssertForm := by
  unfold Grammar.staticAssertForm
  exact .closed .fresh inferInstance

instance virtualWords_collects : Collects g.virtualWords := by
  unfold Grammar.virtualWords
  exact .closed .fresh inferInstance

instance memberInit_collects : Collects g.memberInit := by
  unfold Grammar.memberInit
  exact .closed .fresh inferInstance

instance assignedBody_collects : Collects (assignedBody : Parser (Tree .functionBody)) := by
  unfold Grammar.assignedBody
  exact .closed .fresh inferInstance

instance functionBody_finishes : Finishes g.functionBody := by
  unfold Grammar.functionBody
  exact .closed .fresh inferInstance

instance functionForm_gathers (specs : ParsedSpecifiers) (pointers : Trees .pointerOperator) (title : Name)
    (sig : Tree .signature) :
    Gathers (piecesIn specs ++ piecesIn pointers ++ piecesIn title ++ piecesIn sig) .inside piecesIn
      (g.functionForm specs pointers title sig) := by
  unfold Grammar.functionForm
  exact ⟨fun stretch _ => inferInstance⟩

instance initializer_collects : Collects g.initializer := by
  unfold Grammar.initializer
  exact .closed .fresh inferInstance

instance memberDeclarator_collects (scope : Scope) : Collects (g.memberDeclarator scope) := by
  unfold Grammar.memberDeclarator Tree.plainDeclarator
  exact .closed .fresh inferInstance

instance bitWidth_collects (scope : Scope) : Collects (g.bitWidth scope) := by
  unfold Grammar.bitWidth
  exact .closed .fresh inferInstance

instance initDeclarators_gathers (scope : Scope) (first : Declarator) :
    Gathers (piecesIn first) .fresh piecesIn (g.initDeclarators scope first) := by
  unfold Grammar.initDeclarators
  refine .kept fun stretch => .looped ?_
  rintro ⟨found, shape⟩
  rw [piecesIn_pair]
  infer_instance

instance typedefForm_gathers (specs : ParsedSpecifiers) (first : Declarator) :
    Gathers (piecesIn specs ++ piecesIn first) .inside piecesIn (g.typedefForm specs first) := by
  unfold Grammar.typedefForm
  exact ⟨fun stretch _ => inferInstance⟩

instance variableForm_gathers (scope : Scope) (specs : ParsedSpecifiers) (first : Declarator) :
    Gathers (piecesIn specs ++ piecesIn first) .inside piecesIn (g.variableForm scope specs first) := by
  unfold Grammar.variableForm
  exact ⟨fun stretch _ => inferInstance⟩

/-- What specifiers declare on their own is made of their type. -/
theorem standingAlone_remade (specs : ParsedSpecifiers) :
    Remade (piecesIn specs) (piecesIn (Tree.standingAlone specs)) := by
  have whole : Makes (piecesIn specs) ([] ++ piecesIn (Tree.variable specs.tree .nil)) := inferInstance
  unfold Tree.standingAlone
  dsimp only
  split
  · rename_i definition _ found
    rw [← piecesIn_type, found, piecesIn_some]
    exact .trans (.unwrapped rfl rfl rfl rfl) (.built (.classDeclaration definition) rfl)
  · rename_i definition _ found
    rw [← piecesIn_type, found, piecesIn_some]
    exact .trans (.unwrapped rfl rfl rfl rfl) (.built (.enumDeclaration definition) rfl)
  · rename_i key title _ found
    rw [← piecesIn_type, found, piecesIn_some]
    exact .trans (.unwrapped rfl rfl rfl rfl) (.built (.forwardClass key title) rfl)
  · exact whole.remade

/-- The parts of a declarator that declares a function. -/
theorem asFunction?_remade {shape : Declarator} {pointers : Trees .pointerOperator} {title : Name}
    {sig : Tree .signature} (found : shape.asFunction? = some (pointers, title, sig)) :
    Remade (piecesIn shape) (piecesIn pointers ++ piecesIn title ++ piecesIn sig) := by
  unfold Tree.asFunction? at found
  split at found
  · cases found
    have apart := declarator_opened pointers false (.declaredName title) (.cons (.functionSuffix sig) .nil)
    rw [piecesIn_moreTrees, piecesIn_noTrees, List.append_nil] at apart
    have core : Remade (piecesIn (Tree.declaredName title)) (piecesIn title) := .unwrapped rfl rfl rfl rfl
    have suffix : Remade (piecesIn (Tree.functionSuffix sig)) (piecesIn sig) := .unwrapped rfl rfl rfl rfl
    exact apart.trans (((core.behind _).inFront _).trans (suffix.behind _))
  · cases found

instance simpleForm_finishes (scope : Scope) : Finishes (g.simpleForm scope) := by
  unfold Grammar.simpleForm
  refine .closed .fresh (.next fun specs => .accept ?_ (.next fun first => ?_))
  · exact .answer inferInstance ⟨by simpa using standingAlone_remade specs⟩
  refine .whether inferInstance ?_
  split
  · rename_i pointers title sig found
    -- The declarator of a function is taken apart, since its parts go into the form one by one.
    have parts : Remade ([] ++ piecesIn specs ++ piecesIn first)
        (piecesIn specs ++ piecesIn pointers ++ piecesIn title ++ piecesIn sig) := by
      simpa using (asFunction?_remade found).behind (piecesIn specs)
    refine .byPlace fun state => .whether inferInstance ?_
    exact .makeFirst parts inferInstance
  · infer_instance

theorem keywordForm_gathers (scope : Scope) (word : Keyword) {place : State}
    (inside : place.atEnd = false) :
    GathersAt place Tree.stretch piecesIn .fresh [] (g.keywordForm scope word) := by
  unfold Grammar.keywordForm
  refine .here ?_
  split
  · exact .anywhere inferInstance
  · exact .anywhere inferInstance
  · exact .anywhere inferInstance
  · exact .anywhere inferInstance
  · exact linkageForm_gathers _ inside
  · exact .anywhere inferInstance
  · split <;> exact .anywhere inferInstance

instance declarationForm_forms (scope : Scope) : Forms (g.declarationForm scope) := by
  unfold Grammar.declarationForm
  refine .byKnownPlace fun place => ?_
  split
  · rename_i text known
    exact .advance (State.inside_of_kind known nofun) inferInstance
  · rename_i word known
    exact keywordForm_gathers scope word (State.inside_of_kind known nofun)
  · exact .anywhere inferInstance

/-- A declaration is an item, and a stray semicolon a token. -/
theorem declarationRule_gathers (scope : Scope) {context : Context} {state reached : State}
    {found : Option Declaration} (ended : state.Ended)
    (answered : g.declarationRule scope context state = .done found reached) :
    context.depth < nestingLimit ∧
      (found = none → Gathered .inside (context.depth + 1) state reached []) ∧
      ∀ inner ∈ found, Gathered .whole (context.depth + 1) state reached [.part inner.node] := by
  obtain ⟨low, answered⟩ := Parser.done_of_nested answered
  refine ⟨low, ?_⟩
  obtain ⟨_, _, ⟨⟩, answered⟩ := Parser.done_of_bind answered
  unfold accept at answered
  rw [Parser.acceptIf_then] at answered
  split at answered
  · rename_i isAt
    cases answered
    exact ⟨fun _ => (Gathered.nothing ended).token (State.inside_of_isAt isAt), nofun⟩
  · obtain ⟨form, behind, read, answered⟩ := Parser.done_of_bind answered
    obtain ⟨trailing, ⟨⟩, spans⟩ := Parser.done_of_ownTrailing state answered
    have forms : Forms (g.declarationForm scope) := inferInstance
    have inner : Gathered form.stretch (context.depth + 1) state reached
        (Tree.declaration { state.placement with trailingComment := trailing } form).pieces :=
      forms.alone ended read
    refine ⟨nofun, ?_⟩
    rintro _ ⟨⟩
    exact inner.placed form.stretch_begun rfl (form.stretch_declarationForm ▸ spans)

theorem strayDeclaration_gathers (scope : Scope) {context : Context} {state reached : State}
    (ended : state.Ended) (answered : g.declarationRule scope context state = .done none reached) :
    Gathered .inside context.depth state reached [] :=
  have ⟨low, stray, _⟩ := declarationRule_gathers scope ended answered
  (stray rfl).deeper low

instance declarationRule_rows (scope : Scope) : Rows (g.declarationRule scope) := by
  refine .ofAlone fun {context state reached found} ended answered => ?_
  obtain ⟨low, stray, item⟩ := declarationRule_gathers scope ended answered
  cases found with
  | none => exact ((stray rfl).deeper low).withFree
  | some inner =>
    cases inner with
    | declaration place form => exact .level low (item _ rfl)

instance loneSpecifiers_collects : Collects g.loneSpecifiers := by
  unfold Grammar.loneSpecifiers
  exact .closed .fresh inferInstance

omit gathering in
theorem conditionDeclaration_spans (start : State) :
    g.conditionDeclaration.Ensures (· = start) fun inner reached => inner.Spans start reached := by
  refine .bind (startPlacement_ensures start) fun place => .assume fun same => ?_
  refine .bind .anything fun specs => .bind .anything fun shape => .bind .anything fun init => ?_
  split
  · exact .fail _
  · exact .fail _
  · exact .branch (fun _ => .pure fun reached _ => ⟨place, rfl, same ▸ Placement.spans_alone⟩)
      fun _ => .failFirst _

instance conditionDeclaration_gathers : Gathers [] .whole headersIn g.conditionDeclaration := by
  refine .placed (fun inner => inner) ?_ conditionDeclaration_spans
  unfold Grammar.conditionDeclaration
  refine .nextPlain fun place => .next fun specs => .next fun shape => .next fun init => ?_
  split
  · infer_instance
  · infer_instance
  · rw [piecesIn_some]
    infer_instance

omit gathering in
theorem rangeDeclaration_spans (start : State) :
    g.rangeDeclaration.Ensures (· = start) fun inner reached => inner.Spans start reached := by
  refine .bind (startPlacement_ensures start) fun place => .assume fun same => ?_
  refine .bind .anything fun specs => .bind .anything fun shape => ?_
  exact .pure fun reached _ => ⟨place, rfl, same ▸ Placement.spans_alone⟩

instance rangeDeclaration_gathers : Gathers [] .whole headersIn g.rangeDeclaration := by
  refine .placed (fun inner => inner) ?_ rangeDeclaration_spans
  unfold Grammar.rangeDeclaration
  infer_instance

end Grammar

end CppSyntax
