import CppSyntax.Proofs.WellFormed.Grammar.Name

/-!
Specifiers. While they are read, the words of a builtin type stand apart from the other types; where
one of these words comes first, no other type can follow.
-/

set_option synthInstance.maxSize 4096

namespace CppSyntax

open CppSyntax.Parser

namespace Fine

theorem mapPlace (change : Placement → Placement) {tree : Tree c} (fine : Fine tree) :
    Fine (tree.mapPlace change) := by
  cases tree with
  | declaration place form =>
    have below : AllFine [form.node] := fine.parts
    exact inferInstanceAs (Fine (Tree.declaration (change place) form))
  | statement place form =>
    have below : AllFine [form.node] := fine.parts
    exact inferInstanceAs (Fine (Tree.statement (change place) form))
  | _ => exact fine

theorem builtinType_iff {cv : Qualifiers} {words : List String} :
    Fine (Tree.builtinType cv words) ↔ words ≠ [] ∧ ∀ word ∈ words, ∃ keyword : Keyword,
      keyword.isBuiltinType ∧ word = keyword.spelling :=
  ⟨fun fine => fine.fits, fun fits => @built _ _ ⟨fits⟩ nil⟩

instance qualify {cv : Qualifiers} {type : TypeSpecifier} [fine : Fine type] :
    Fine (type.qualify cv) := by
  cases type <;> exact @built _ _ ⟨fine.fits⟩ fine.parts

end Fine

namespace Grammar

variable {g : Grammar Parser} [g.Sound]

instance : Yields g.decltype := by
  unfold Grammar.decltype
  infer_instance

instance : Yields g.declaredTitle := by
  unfold Grammar.declaredTitle
  infer_instance

instance : Yields g.baseSpecifier := by
  unfold Grammar.baseSpecifier
  infer_instance

instance leadWith_fine {comment : Option String} {items : List (Tree c)} [fine : Fine items]
    {closing : List String} : Fine (leadWith comment items closing) := by
  cases comment with
  | none => exact Fine.pair
  | some comment =>
    cases items with
    | nil => exact Fine.pair
    | cons first rest =>
      obtain ⟨fineFirst, fineRest⟩ := List.forall_mem_cons.mp (Fine.list_iff.mp fine)
      have moved : Fine (first.mapPlace (·.precede comment)) := fineFirst.mapPlace _
      have fineRest : Fine rest := Fine.list_iff.mpr fineRest
      exact Fine.pair

instance (construct : String) {items : Parser (List (Tree c))} [Yields items] :
    Yields (braced construct items) := by
  unfold Grammar.braced
  infer_instance

instance (title : Option Name) (key : ClassKey) : Yields (g.classMembers title key) := by
  unfold Grammar.classMembers
  infer_instance

instance (key : ClassKey) : Yields (g.classSpecifier key) := by
  unfold Grammar.classSpecifier
  infer_instance

instance : Yields g.enumerator := by
  unfold Grammar.enumerator
  infer_instance

instance : Yields g.enumerators := by
  unfold Grammar.enumerators
  infer_instance

instance enumSpecifier_yields : Yields g.enumSpecifier := by
  unfold Grammar.enumSpecifier
  refine .andThen inferInstance fun _ => .andThen inferInstance fun key => ?_
  refine .whether inferInstance (fun title => ?_) ?_ <;> infer_instance

instance {specs : ParsedSpecifiers} [fine : Fine specs] : Fine specs.type := ⟨fine.sound⟩

instance {specs : ParsedSpecifiers} [Fine specs] : Fine specs.tree := by
  unfold ParsedSpecifiers.tree
  infer_instance

theorem specifiedType?_tree {specs : ParsedSpecifiers} : specs.tree.specifiedType? = specs.type := by
  simp [ParsedSpecifiers.tree, Tree.specifiedType?]

instance {specs : ParsedSpecifiers} {type : TypeSpecifier} [Fine type] :
    Fine { specs with type := some type } :=
  ⟨(Fine.optionSome : Fine (some type)).sound⟩

namespace SpecifierDraft

/-- The builtin type that the words of a draft come to. -/
def wordType? (draft : SpecifierDraft) : Option TypeSpecifier :=
  if draft.words.isEmpty then none else some (.builtinType .none draft.words)

instance : HasNodes SpecifierDraft :=
  ⟨fun draft => HasNodes.roots (draft.specs.type, draft.wordType?)⟩

variable {draft : SpecifierDraft}

theorem fine_iff : Fine draft ↔ Fine draft.specs.type ∧ Fine draft.wordType? :=
  ⟨fun fine => Fine.pair_iff.mp ⟨fine.sound⟩, fun fine => ⟨(Fine.pair_iff.mpr fine).sound⟩⟩

instance : Fine empty := fine_iff.mpr ⟨Fine.optionNone, Fine.optionNone⟩

section

variable [fine : Fine draft]

include fine

instance : Fine draft.sure := ⟨fine.sound⟩

instance (text : String) : Fine (draft.withAttribute text) := ⟨fine.sound⟩

instance (text : String) : Fine (draft.withAlignment text) := ⟨fine.sound⟩

instance (modifier : Modifier) : Fine (draft.withModifier modifier) := ⟨fine.sound⟩

instance (cv : Qualifiers) : Fine { draft with cv } := ⟨fine.sound⟩

instance (isTypedef : Bool) : Fine { draft with specs := { draft.specs with isTypedef } } :=
  ⟨fine.sound⟩

instance (type : TypeSpecifier) [Fine type] : Fine (draft.withType type) :=
  fine_iff.mpr ⟨inferInstanceAs (Fine (some type)), (fine_iff.mp fine).2⟩

theorem fine_withWord {word : Keyword} (builtin : word.isBuiltinType = true) :
    Fine { draft with words := draft.words ++ [word.spelling] } := by
  obtain ⟨type, words⟩ := fine_iff.mp fine
  refine fine_iff.mpr ⟨type, ?_⟩
  have before : ∀ spelling ∈ draft.words, ∃ keyword : Keyword,
      keyword.isBuiltinType ∧ spelling = keyword.spelling := by
    intro spelling member
    have nonempty : draft.words.isEmpty = false := by
      simpa using List.ne_nil_of_mem member
    rw [wordType?, nonempty] at words
    exact (Fine.builtinType_iff.mp (Fine.some_iff.mp words)).2 spelling member
  rw [wordType?, if_neg (by simp)]
  refine Fine.some_iff.mpr (Fine.builtinType_iff.mpr ⟨by simp, fun spelling member => ?_⟩)
  rcases List.mem_append.mp member with earlier | last
  · exact before spelling earlier
  · exact ⟨word, builtin, List.mem_singleton.mp last⟩

instance : Fine draft.specs := ⟨(fine_iff.mp fine).1.sound⟩

instance draftType_fine : Fine draft.type? := by
  obtain ⟨type, words⟩ := fine_iff.mp fine
  unfold type?
  split
  · cases given : draft.specs.type with
    | none => exact Fine.optionNone
    | some found =>
      rw [given] at type
      have fine : Fine found := Fine.some_iff.mp type
      exact Fine.optionSome
  · rename_i nonempty
    rw [wordType?, if_neg nonempty] at words
    have sound := Fine.builtinType_iff.mp (Fine.some_iff.mp words)
    exact Fine.some_iff.mpr (Fine.builtinType_iff.mpr sound)

end

end SpecifierDraft

theorem keywordType_yields {word : Keyword} {type : Parser TypeSpecifier}
    (found : g.keywordType word = some type) : Yields type := by
  unfold Grammar.keywordType at found
  split at found
  · cases found
    infer_instance
  · cases found
    infer_instance
  · cases found
    infer_instance
  · cases found
    infer_instance
  · obtain ⟨key, _, rfl⟩ := Option.map_eq_some_iff.mp found
    infer_instance

instance keywordSpecifier_yields (draft : Good SpecifierDraft) (word : Keyword) :
    Yields (g.keywordSpecifier draft.value word) := by
  unfold Grammar.keywordSpecifier
  refine .andThen inferInstance fun place => ?_
  dsimp only
  split
  · infer_instance
  split
  · infer_instance
  split
  · infer_instance
  split
  · infer_instance
  split
  · infer_instance
  split
  · infer_instance
  split
  · rename_i builtin
    have fine := draft.value.fine_withWord (Bool.and_eq_true_iff.mp builtin).1
    infer_instance
  split
  · split
    · rename_i type found
      have yields : Yields type := keywordType_yields found
      infer_instance
    · infer_instance
  · infer_instance

instance (scope : Scope) (draft : Good SpecifierDraft) :
    Yields (g.namedSpecifier scope draft.value) := by
  unfold Grammar.namedSpecifier
  infer_instance

instance specifierStep_yields (scope : Scope) (draft : Good SpecifierDraft) :
    Yields (g.specifierStep scope draft.value) := by
  unfold Grammar.specifierStep
  refine .andThen inferInstance fun place => ?_
  split <;> infer_instance

instance specifiersRule_yields (scope : Scope) : Yields (g.specifiersRule scope) := by
  unfold Grammar.specifiersRule
  refine .andThen inferInstance fun draft => ?_
  have fine : Fine draft.value.type? := inferInstance
  cases found : draft.value.type? with
  | none => infer_instance
  | some type =>
    have fine : Fine type := Fine.some_iff.mp (found ▸ fine)
    infer_instance

omit [g.Sound] in
/-- Words of a builtin type stay, and nothing else can be the type. -/
theorem specifierStep_words (scope : Scope) (draft : SpecifierDraft) :
    (g.specifierStep scope draft).Ensures (fun _ => draft.words ≠ [])
      (Progress (fun draft _ => draft.words ≠ []) fun draft _ => draft.words ≠ []) := by
  refine .assume fun nonempty => ?_
  have kept (again : SpecifierDraft) (same : again.words = draft.words) (state : State)
      (_ : True) : Progress (fun draft _ => draft.words ≠ []) (fun draft _ => draft.words ≠ [])
        (.inl again : SpecifierDraft ⊕ SpecifierDraft) state := by
    show again.words ≠ []
    rwa [same]
  have typed : draft.hasType = true := by simp [SpecifierDraft.hasType, nonempty]
  refine .here fun place _ => ?_
  split
  · refine .here fun place _ => ?_
    dsimp only
    split
    · exact .pure fun _ _ => nonempty
    split
    · exact .bind .anything fun _ => .pure (kept _ rfl)
    split
    · exact .bind .anything fun _ => .pure (kept _ rfl)
    split
    · exact .bind .anything fun _ => .pure (kept _ rfl)
    split
    · exact .bind .anything fun _ => .pure (kept _ rfl)
    split
    · exact .bind .anything fun _ => .pure (kept _ rfl)
    split
    · exact .bind .anything fun _ => .pure fun _ _ => List.append_ne_nil_of_left_ne_nil nonempty _
    rw [typed]
    exact .pure fun _ _ => nonempty
  · rw [namedSpecifier, typed]
    exact .pure fun _ _ => nonempty
  · rw [namedSpecifier, typed]
    exact .pure fun _ _ => nonempty
  · exact .branch (fun _ => .bind .anything fun _ => .pure (kept _ rfl)) fun _ =>
      .pure fun _ _ => nonempty

omit [g.Sound] in
/-- Where the word of a builtin type stands, a builtin type is read. -/
theorem specifiersRule_builtin (scope : Scope) :
    (g.specifiersRule scope).Ensures (·.atBuiltinType) fun specs _ => specs.IsBuiltin := by
  have first : (g.specifierStep scope .empty).Ensures (·.atBuiltinType)
      (Progress (fun draft _ => draft.words ≠ []) fun draft _ => draft.words ≠ []) := by
    refine .here fun place ⟨word, isAt, builtin⟩ => ?_
    rw [isAt]
    refine .here fun place _ => ?_
    cases word <;> first | cases builtin; done | skip
    all_goals exact .bind .anything fun _ => .pure fun _ _ => List.cons_ne_nil _ _
  refine .bind (.iterateFrom (specifierStep_words scope) first g.fuel) fun draft => ?_
  refine .assume fun nonempty => ?_
  have found : draft.type? = some (.builtinType draft.cv draft.words) := by
    simp [SpecifierDraft.type?, nonempty]
  rw [found]
  exact .pure fun _ _ => ⟨_, _, rfl⟩

end Grammar

end CppSyntax
