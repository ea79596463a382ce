import CppSyntax.Proofs.WellFormed.Grammar.Operand
import CppSyntax.Grammar.Declaration

/-!
Declarations. Those that only a class may hold are read in the scope of a class, and all scopes
within pass on what they are, so that none of them gets outside.
-/

set_option synthInstance.maxSize 4096

namespace CppSyntax.Grammar

open CppSyntax.Parser

variable {g : Grammar Parser} [sound : g.Sound]

/-- A form or a declaration that suits its scope. -/
def Suits (scope : Scope) (tree : Tree c) : Prop :=
  Fine tree ∧ (scope ≠ .inClass → ¬ tree.isMemberOnly)

omit sound in
/-- What stands anywhere suits every scope. -/
theorem Suits.of_free {scope : Scope} {tree : Tree c} (fine : Fine tree)
    (free : tree.isMemberOnly = false) : Suits scope tree :=
  ⟨fine, fun _ => by simp [free]⟩

/-- Declarations that may stand outside of a class. -/
def AllFree (items : List Declaration) : Prop :=
  ∀ inner ∈ items, Fine inner ∧ ¬ inner.isMemberOnly

theorem AllFree.outside {items : List Declaration} (free : AllFree items) :
    ∀ inner ∈ (Trees.ofList items).toList, ¬ inner.isMemberOnly := by
  rw [Trees.toList_ofList]
  exact fun inner member => (free inner member).2

theorem AllFree.fine {items : List Declaration} (free : AllFree items) : Fine items :=
  Fine.list_iff.mpr fun inner member => (free inner member).1

theorem declaration_keeps (scope : Scope) :
    (g.declaration scope).Ensures (fun _ => True) fun found _ => ∀ inner ∈ found, Suits scope inner := by
  refine sound.from_places fun _ found _ ⟨fine, free⟩ inner member => ⟨?_, fun outside => ?_⟩
  · exact Fine.option_iff.mp fine inner member
  · exact free outside inner member

theorem requiredDeclaration_keeps (scope : Scope) (purpose : String) :
    (g.requiredDeclaration scope purpose).Ensures (fun _ => True) fun inner _ => Suits scope inner := by
  refine .here fun place _ => .bind (declaration_keeps scope).anywhere fun found => ?_
  cases found with
  | none => exact .failWith _
  | some inner => exact .pure fun _ suits => suits inner rfl

/-- Declarations in a row outside of a class. -/
theorem row_free (stops : State → Bool) (fuel : Nat) :
    (iterate (fun items => do
      if stops (← here) then return .inr items
      else return .inl (items ++ (← g.declaration .inNamespace).toList)) fuel [] : Parser _).Ensures
      (fun _ => True) fun items _ => AllFree items := by
  refine .mono (.iterate (fun items _ => AllFree items) (fun items => ?_) fuel [])
    (fun _ _ => nofun) fun _ _ => id
  refine .assume fun free => .here fun place _ => .branch (fun _ => .pure fun _ _ => free) fun _ => ?_
  refine .bind (declaration_keeps .inNamespace).anywhere fun found => .pure ?_
  intro _ suits inner member
  rcases List.mem_append.mp member with earlier | last
  · exact free inner earlier
  · obtain ⟨fine, outside⟩ := suits inner (Option.mem_toList.mp last)
    exact ⟨fine, outside nofun⟩

theorem itemsUntil_free (close : Punctuator) :
    (g.itemsUntil close (g.declaration .inNamespace)).Ensures (fun _ => True) fun items _ =>
      AllFree items :=
  row_free (fun state => state.isAt close || state.atEnd) g.fuel

omit sound in
theorem AllFree.leadWith {items : List Declaration} (free : AllFree items) (comment : Option String)
    (closing : List String) : AllFree (leadWith comment items closing).1 := by
  cases comment with
  | none => exact free
  | some comment =>
    cases items with
    | nil => exact free
    | cons first rest =>
      obtain ⟨⟨fine, outside⟩, later⟩ := List.forall_mem_cons.mp free
      refine List.forall_mem_cons.mpr ⟨⟨fine.mapPlace _, ?_⟩, later⟩
      cases first
      exact outside

omit sound in
theorem braced_free (construct : String) {items : Parser (List Declaration)}
    (each : items.Ensures (fun _ => True) fun items _ => AllFree items) :
    (braced construct items).Ensures (fun _ => True) fun found _ => AllFree found.1 := by
  refine .bind .anything fun _ => .bind .anything fun comment => .bind each.anywhere fun items => ?_
  refine .assume fun free => .here fun place _ => .bind .anything fun _ => .pure fun _ _ => ?_
  exact free.leadWith _ _

/-- The rest of a namespace from its opening brace on. -/
theorem namespaceRest_keeps (scope : Scope) (isInline : Bool) (path : List String) : Parser.Ensures (do
      let (members, closing) ← braced "namespace body" <|
        g.itemsUntil .rightBrace (g.declaration .inNamespace)
      return .namespaceBlock path isInline (.ofList members) closing : Parser (Tree .declarationForm))
    (fun _ => True) fun form _ => Suits scope form := by
  refine .bind (braced_free _ (itemsUntil_free _)) fun found => .assume fun free => ?_
  obtain ⟨members, closing⟩ := found
  have fine := free.fine
  have fits : Holds (Tree.namespaceBlock path isInline (.ofList members) closing).Fits :=
    ⟨free.outside⟩
  exact .pure fun _ _ => .of_free inferInstance rfl

theorem namespaceForm_keeps (scope : Scope) (isInline : Bool) :
    (g.namespaceForm isInline).Ensures (fun _ => True) fun form _ => Suits scope form := by
  refine .bind .anything fun _ => .bind .anything fun path => ?_
  split
  · refine .bind .anything fun _ => .branch (fun _ => ?_) fun _ => (namespaceRest_keeps scope isInline _).anywhere
    refine .bind (Yields.from_places _) fun target => .assume fun fine => ?_
    exact .bind .anything fun _ => .pure fun _ _ => .of_free inferInstance rfl
  · exact (namespaceRest_keeps scope isInline _).anywhere

instance : Yields g.aliasForm := by
  unfold Grammar.aliasForm
  infer_instance

instance : Yields g.usingForm := by
  unfold Grammar.usingForm
  infer_instance

omit sound in
theorem usingForm_free : g.usingForm.Ensures (fun _ => True) fun form _ => ¬ form.isMemberOnly := by
  have aliased : g.aliasForm.Ensures (fun _ => True) fun form _ => ¬ form.isMemberOnly := by
    refine .bind .anything fun ident => .bind .anything fun _ => .bind .anything fun target => ?_
    exact .bind .anything fun _ => .bind .anything fun _ => .pure fun _ _ => nofun
  refine .bind .anything fun _ => .bind .anything fun isDirective => .branch (fun _ => ?_) fun _ => ?_
  · exact .bind .anything fun target => .bind .anything fun _ => .pure fun _ _ => nofun
  · refine .here fun place _ => .branch (fun _ => ?_) fun _ => ?_
    · exact aliased.anywhere
    · refine .bind .anything fun isTypename => .bind .anything fun target => ?_
      exact .bind .anything fun _ => .pure fun _ _ => nofun

theorem templateForm_keeps (scope : Scope) :
    (g.templateForm scope).Ensures (fun _ => True) fun form _ => Suits scope form := by
  have later (isInstantiation : Bool) (params : List (Tree .templateParameter)) : Parser.Ensures (do
      let inner ← g.requiredDeclaration scope "declaration after template header"
      return .template (.ofList params) isInstantiation inner : Parser (Tree .declarationForm))
      (fun _ => Fine params) fun form _ => Suits scope form := by
    refine .assume fun fineParams => .bind (requiredDeclaration_keeps _ _) fun inner => ?_
    refine .assume fun ⟨fine, free⟩ => .pure fun _ _ => ⟨inferInstance, free⟩
  refine .bind .anything fun _ => .here fun place _ => .branch (fun _ => ?_) fun _ => ?_
  · exact .bind (Yields.from_places _) (later _)
  · exact .bind (Yields.from_places _) (later _)

theorem linkageForm_keeps (scope : Scope) (abi : String) :
    (g.linkageForm abi).Ensures (fun _ => True) fun form _ => Suits scope form := by
  refine .bind .anything fun _ => .bind .anything fun opened => .branch (fun _ => ?_) fun _ => ?_
  · refine .bind (itemsUntil_free _).anywhere fun members => .assume fun free => ?_
    have fine := free.fine
    have fits : Holds (Tree.linkageBlock abi (.ofList members)).Fits :=
      ⟨free.outside⟩
    exact .bind .anything fun _ => .pure fun _ _ => .of_free inferInstance rfl
  · refine .bind (requiredDeclaration_keeps .inNamespace _).anywhere fun inner => ?_
    refine .assume fun ⟨fine, free⟩ => ?_
    have fits : Holds (Tree.linkageSingle abi inner).Fits := ⟨free nofun⟩
    exact .pure fun _ _ => .of_free inferInstance rfl

instance : Yields g.assertedClauses := by
  unfold Grammar.assertedClauses
  infer_instance

instance : Yields g.staticAssertForm := by
  unfold Grammar.staticAssertForm
  infer_instance

omit sound in
theorem staticAssertForm_free :
    g.staticAssertForm.Ensures (fun _ => True) fun form _ => ¬ form.isMemberOnly := by
  refine .bind .anything fun _ => .bind .anything fun _ => .bind .anything fun (holds, message) => ?_
  exact .bind .anything fun _ => .bind .anything fun _ => .pure fun _ _ => nofun

instance : Yields g.memberInit := by
  unfold Grammar.memberInit
  infer_instance

instance : Yields assignedBody := by
  unfold Grammar.assignedBody
  infer_instance

instance : Yields g.functionBody := by
  unfold Grammar.functionBody
  infer_instance

omit sound in
/-- Members are initialized only before a body. -/
theorem functionBody_defined : g.functionBody.Ensures (fun _ => True) fun found _ =>
    found.1 ≠ [] → ∃ block, found.2 = .defined block := by
  refine .bind .anything fun assigned => .branch (fun _ => ?_) fun _ => ?_
  · refine .bind .anything fun body => .bind .anything fun _ => .pure fun _ _ given => ?_
    exact absurd rfl given
  · refine .bind .anything fun initialized => .branch (fun _ => ?_) fun _ => ?_
    · refine .bind .anything fun inits => .bind .anything fun block => .pure fun _ _ _ => ?_
      exact ⟨block, rfl⟩
    · refine .here fun place _ => .branch (fun _ => ?_) fun _ => ?_
      · exact .bind .anything fun block => .pure fun _ _ given => absurd rfl given
      · exact .bind .anything fun _ => .pure fun _ _ given => absurd rfl given

theorem functionForm_keeps (scope : Scope) {specs : ParsedSpecifiers} {pointers : Trees .pointerOperator}
    {title : Name} {sig : Tree .signature} [Fine specs] [Fine pointers] [Fine title] [Fine sig] :
    (g.functionForm specs pointers title sig).Ensures (fun _ => True) fun form _ =>
      Suits scope form := by
  refine .bind .anything fun words => ?_
  obtain ⟨isOverride, isFinal⟩ := words
  refine .bind (.and (Yields.from_places _) functionBody_defined) fun found => .assume fun known => ?_
  obtain ⟨inits, body⟩ := found
  obtain ⟨fine, defined⟩ := known
  obtain ⟨fineInits, fineBody⟩ := Fine.pair_iff.mp fine
  have fits : Holds (Tree.function specs.tree pointers title sig isOverride isFinal (.ofList inits)
      body).Fits := ⟨by rwa [Tree.Fits, Trees.toList_ofList]⟩
  exact .pure fun _ _ => .of_free inferInstance rfl

instance : Yields g.initializer := by
  unfold Grammar.initializer
  infer_instance

theorem declarator_named :
    (g.declarator .named).Ensures (fun _ => True) fun shape _ => Fine shape ∧ shape.IsNamed :=
  sound.from_places fun _ _ _ promised => ⟨promised.1, promised.2.1 rfl⟩

/-- A declarator that names something, or the place where the width of a bit-field follows. -/
def Declares (scope : Scope) (shape : Declarator) (state : State) : Prop :=
  shape.IsNamed ∨ scope = .inClass ∧ state.isAt .colon = true

theorem memberDeclarator_keeps (scope : Scope) :
    (g.memberDeclarator scope).Ensures (fun _ => True) fun shape state =>
      Fine shape ∧ Declares scope shape state := by
  have plain : Fine Tree.plainDeclarator := by
    unfold Tree.plainDeclarator
    infer_instance
  refine .here fun place _ => .branch (fun unnamed => .pure fun state isPlace => ⟨plain, .inr ?_⟩)
    fun _ => declarator_named.mono (fun _ _ => trivial) fun _ _ ⟨fine, named⟩ => ⟨fine, .inl named⟩
  simpa [isPlace] using unnamed

theorem bitWidth_keeps (scope : Scope) (shape : Declarator) :
    (g.bitWidth scope).Ensures (Declares scope shape) fun width _ =>
      Fine width ∧ (scope ≠ .inClass → width = none) ∧ (shape.IsNamed ∨ width.isSome) := by
  refine .branch (fun outside => .pure fun state declares => ⟨inferInstance, fun _ => rfl, ?_⟩)
    fun inside => .whetherAt ?_ (.pure fun state ⟨declares, noColon⟩ => ?_)
  · rcases declares with isNamed | ⟨rfl, _⟩
    · exact .inl isNamed
    · cases outside
  · refine .bind (Yields.from_places _) fun value => .pure fun _ fine => ⟨inferInstance, ?_, .inr rfl⟩
    exact fun outside => absurd outside (by simpa using inside)
  · rcases declares with isNamed | ⟨_, colon⟩
    · exact ⟨inferInstance, fun _ => rfl, .inl isNamed⟩
    · rw [noColon] at colon
      cases colon

/-- Declarators with initializers, and widths only in a class. -/
def Initialized (scope : Scope) (shapes : List (Tree .initDeclarator)) : Prop :=
  ∀ shape ∈ shapes, Fine shape ∧ (scope ≠ .inClass → ¬ shape.hasBitWidth)

theorem initDeclarators_keeps (scope : Scope) (first : Declarator) :
    (g.initDeclarators scope first).Ensures
      (fun state => Fine first ∧ Declares scope first state)
      fun shapes _ => Initialized scope shapes := by
  have start : Initialized scope [] := List.forall_mem_nil _
  refine .mono (.iterate (fun read state =>
    Initialized scope read.1 ∧ Fine read.2 ∧ Declares scope read.2 state) (fun read => ?_)
      g.fuel ([], first)) (fun _ known => ⟨start, known⟩) fun _ _ => id
  obtain ⟨found, shape⟩ := read
  refine .assumeAnd fun initialized => .assumeAnd fun fine => ?_
  refine .bind (bitWidth_keeps scope shape) fun width => .assume fun ⟨fineWidth, noWidth, names⟩ => ?_
  refine .bind (Yields.from_places _) fun init => .assume fun fineInit => ?_
  have fits : Holds (Tree.initDeclarator shape (.ofOption width) (.ofOption init)).Fits :=
    ⟨by rw [Tree.Fits, Part.isPresent, Part.toOption_ofOption]; exact or_assoc.mp names⟩
  have more : Initialized scope (found ++ [.initDeclarator shape (.ofOption width) (.ofOption init)]) := by
    refine List.forall_mem_append.mpr ⟨initialized, List.forall_mem_singleton.mpr ⟨inferInstance, ?_⟩⟩
    intro outside
    simp [Tree.hasBitWidth, Part.isPresent, noWidth outside]
  refine .bind .anything fun comma => .branch (fun _ => ?_) fun _ => .pure fun _ _ => more
  exact .bind (memberDeclarator_keeps scope) fun next => .pure fun _ declares => ⟨more, declares⟩

instance {specs : ParsedSpecifiers} {first : Declarator} [Fine specs] [Fine first] :
    Yields (g.typedefForm specs first) := by
  unfold Grammar.typedefForm
  infer_instance

theorem variableForm_keeps (scope : Scope) {specs : ParsedSpecifiers} [Fine specs] (first : Declarator) :
    (g.variableForm scope specs first).Ensures
      (fun state => Fine first ∧ Declares scope first state) fun form _ => Suits scope form := by
  refine .branch (fun _ => .failFirst _) fun typed => ?_
  refine .bind (initDeclarators_keeps scope first) fun shapes => .assume fun initialized => ?_
  have fine : Fine shapes := Fine.list_iff.mpr fun shape member => (initialized shape member).1
  have fits : Holds (Tree.variable specs.tree (.ofList shapes)).Fits :=
    ⟨fun _ => by simpa [specifiedType?_tree, Option.isSome_iff_ne_none] using typed⟩
  refine .bind .anything fun _ => .pure fun _ _ => ⟨inferInstance, fun outside => ?_⟩
  simpa [Tree.isMemberOnly] using fun shape member => (initialized shape member).2 outside

theorem standingAlone_suits (scope : Scope) {specs : ParsedSpecifiers} [fine : Fine specs] :
    Suits scope (Tree.standingAlone specs) := by
  have fine : Fine specs.type := inferInstance
  have whole : Suits scope (Tree.variable specs.tree .nil) := by
    have fits : Holds (Tree.variable specs.tree .nil).Fits := ⟨fun given => absurd rfl given⟩
    exact .of_free inferInstance rfl
  unfold Tree.standingAlone
  dsimp only
  split
  · rename_i definition _ found
    rw [found] at fine
    have fine := (Fine.cons_iff.mp (Fine.some_iff.mp fine).parts).1
    exact .of_free inferInstance rfl
  · rename_i definition _ found
    rw [found] at fine
    have fine := (Fine.cons_iff.mp (Fine.some_iff.mp fine).parts).1
    exact .of_free inferInstance rfl
  · rename_i key title _ found
    rw [found] at fine
    have fine := (Fine.cons_iff.mp (Fine.some_iff.mp fine).parts).1
    exact .of_free inferInstance rfl
  · exact whole

omit sound in
theorem typedefForm_free (specs : ParsedSpecifiers) (first : Declarator) :
    (g.typedefForm specs first).Ensures (fun _ => True) fun form _ => ¬ form.isMemberOnly := by
  refine .bind .anything fun shapes => .bind .anything fun _ => .bind .anything fun _ => ?_
  exact .pure fun _ _ => nofun

omit sound in
/-- The parts of a declarator that declares a function. -/
theorem fine_of_asFunction? {shape : Declarator} {pointers : Trees .pointerOperator} {title : Name}
    {sig : Tree .signature} (found : shape.asFunction? = some (pointers, title, sig))
    (fine : Fine shape) : Fine pointers ∧ Fine title ∧ Fine sig := by
  unfold Tree.asFunction? at found
  split at found
  · cases found
    obtain ⟨fineFront, fineSuffixes⟩ := Fine.append_iff.mp fine.parts
    obtain ⟨finePointers, fineCore⟩ := Fine.append_iff.mp fineFront
    have fineTitle := (Fine.cons_iff.mp (Fine.cons_iff.mp fineCore).1.parts).1
    have fineSig := (Fine.cons_iff.mp (Fine.cons_iff.mp fineSuffixes).1.parts).1
    exact ⟨⟨finePointers.sound⟩, fineTitle, fineSig⟩
  · cases found

theorem simpleForm_keeps (scope : Scope) :
    (g.simpleForm scope).Ensures (fun _ => True) fun form _ => Suits scope form := by
  refine .bind (Yields.from_places _) fun specs => .assume fun fine => ?_
  refine .bind .anything fun alone => .branch (fun _ => .pure fun _ _ => standingAlone_suits scope)
    fun _ => ?_
  refine .bind (memberDeclarator_keeps scope) fun first => .branch (fun _ => ?_) fun _ => ?_
  · refine .assumeAnd fun fineFirst => ?_
    exact .mono (.and (Yields.from_places _) (typedefForm_free specs first)) (fun _ _ => trivial)
      fun _ _ ⟨fine, free⟩ => ⟨fine, fun _ => free⟩
  · split
    · rename_i pointers title sig found
      refine .here fun place known => .branch (fun _ => ?_) fun _ => ?_
      · exact (variableForm_keeps scope first).mono (fun _ here => here ▸ known) fun _ _ => id
      · obtain ⟨finePointers, fineTitle, fineSig⟩ := fine_of_asFunction? found known.1
        exact (functionForm_keeps scope).anywhere
    · exact variableForm_keeps scope first

theorem keywordForm_keeps (scope : Scope) (word : Keyword) :
    (g.keywordForm scope word).Ensures (fun _ => True) fun form _ => Suits scope form := by
  unfold Grammar.keywordForm
  refine .here fun place _ => ?_
  split
  · exact (namespaceForm_keeps scope false).anywhere
  · exact .bind .anything fun _ => (namespaceForm_keeps scope true).anywhere
  · exact .mono (.and (Yields.from_places _) usingForm_free.anywhere) (fun _ _ => trivial)
      fun _ _ both => ⟨both.1, fun _ => both.2⟩
  · exact (templateForm_keeps scope).anywhere
  · exact (linkageForm_keeps scope _).anywhere
  · exact .mono (.and (Yields.from_places _) staticAssertForm_free.anywhere) (fun _ _ => trivial)
      fun _ _ both => ⟨both.1, fun _ => both.2⟩
  · split
    · refine .bind .anything fun _ => .bind .anything fun _ => .pure fun _ _ => ?_
      exact ⟨inferInstance, fun outside => absurd rfl outside⟩
    · exact (simpleForm_keeps _).anywhere

theorem declarationForm_keeps (scope : Scope) :
    (g.declarationForm scope).Ensures (fun _ => True) fun form _ => Suits scope form := by
  unfold Grammar.declarationForm
  refine .here fun place _ => ?_
  split
  · exact .bind .anything fun _ => .pure fun _ _ => .of_free inferInstance rfl
  · exact (keywordForm_keeps scope _).anywhere
  · exact (simpleForm_keeps scope).anywhere

theorem declarationRule_keeps (scope : Scope) :
    (g.declarationRule scope).Ensures (fun _ => True) fun found _ =>
      Fine found ∧ (scope ≠ .inClass → Tree.IsFree found) := by
  refine .nested (.bind .anything fun place => .bind .anything fun isStray => .branch (fun _ => ?_)
    fun _ => ?_)
  · exact .pure fun _ _ => ⟨inferInstance, fun _ => nofun⟩
  · refine .bind (declarationForm_keeps scope).anywhere fun form => .assume fun ⟨fine, free⟩ => ?_
    have whole (trailing : Option String) : Fine (some (Tree.declaration
        { place with trailingComment := trailing } form)) ∧ (scope ≠ .inClass → Tree.IsFree
          (some (Tree.declaration { place with trailingComment := trailing } form))) := by
      refine ⟨inferInstance, fun outside inner member => ?_⟩
      cases member
      exact free outside
    refine .branch (fun _ => ?_) fun _ => ?_
    · exact .bind .anything fun trailing => .pure fun _ _ => whole trailing
    · exact .bind .anything fun trailing => .pure fun _ _ => whole trailing

theorem loneSpecifiers_typed : g.loneSpecifiers.Ensures (fun _ => True) fun specs _ =>
    Fine specs ∧ specs.type.isSome := by
  refine .bind (Yields.from_places _) fun specs => .assume fun fine => ?_
  refine .branch (fun _ => .failFirst _) fun typed => .pure fun _ _ => ⟨fine, ?_⟩
  simp only [Bool.or_eq_true, not_or, Option.isNone_iff_eq_none] at typed
  exact Option.isSome_iff_ne_none.mpr typed.1

omit sound in
/-- A declaration of one variable that has a type and a name. -/
theorem lone_fine {specs : ParsedSpecifiers} {shape : Declarator} {init : Part .initializer}
    {place : Placement} (fine : Fine specs ∧ specs.type.isSome) (named : Fine shape ∧ shape.IsNamed)
    [Fine init] : Fine (Tree.declaration place
      (.variable specs.tree (.cons (.initDeclarator shape .absent init) .nil))) := by
  obtain ⟨fine, typed⟩ := fine
  obtain ⟨fineShape, named⟩ := named
  have fits : Holds (Tree.initDeclarator shape .absent init).Fits :=
    ⟨named.elim .inl fun bound => .inr (.inl bound)⟩
  have fits : Holds (Tree.variable specs.tree (.cons (.initDeclarator shape .absent init) .nil)).Fits :=
    ⟨fun _ => by rwa [specifiedType?_tree]⟩
  infer_instance

theorem conditionDeclaration_keeps : g.conditionDeclaration.Ensures (fun _ => True) fun inner _ =>
    Fine inner ∧ ¬ inner.isMemberOnly := by
  refine .bind .anything fun place => .bind loneSpecifiers_typed fun specs => .assume fun typed => ?_
  refine .bind declarator_named fun shape => .assume fun named => ?_
  refine .bind (Yields.from_places _) fun init => .assume fun fine => ?_
  split
  · exact .fail _
  · exact .fail _
  · have fine := Fine.some_iff.mp fine
    exact .branch (fun _ => .pure fun _ _ => ⟨lone_fine typed named, Bool.false_ne_true⟩)
      fun _ => .failFirst _

theorem rangeDeclaration_keeps : g.rangeDeclaration.Ensures (fun _ => True) fun inner _ =>
    Fine inner ∧ ¬ inner.isMemberOnly := by
  refine .bind .anything fun place => .bind loneSpecifiers_typed fun specs => .assume fun typed => ?_
  refine .bind declarator_named fun shape => .assume fun named => .pure fun _ _ => ?_
  exact ⟨lone_fine typed named, Bool.false_ne_true⟩

end CppSyntax.Grammar
