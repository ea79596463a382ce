import CppSyntax.Proofs.WellFormed.Value

/-!
Values whose type names are all known. What a node introduces as types is the little that it names
itself, and what its parts introduce; that all of it is known is found by instances, which follow the
constructors.
-/

namespace CppSyntax

/-- The names that a node introduces as types itself. -/
@[reducible] def Tree.ownTypeNames {c : Category} : Tree c → List String
  | .elaboratedType _ key target => if key.introduces then target.lastIdent?.toList else []
  | .classSpecifier _ _ _ title _ _ _ _ => title.lastIdents
  | .bodilessEnum _ title _ => title.lastIdent?.toList
  | .enumSpecifier _ title _ _ => title.lastIdents
  | .typeParameter _ _ ident _ => ident.toList
  | .templateParameter _ _ _ ident _ => ident.toList
  | .forwardClass _ title => title.lastIdent?.toList
  | .typedef _ shapes => shapes.declaredIdents
  | .typeAlias ident _ => [ident]
  | _ => []

/-- The names that the nodes introduce as types. -/
def Node.typeNames (nodes : List Node) : List String := nodes.flatMap (·.2.typeNames)

@[simp] theorem Trees.typeNames_nodes (items : Trees c) : Node.typeNames items.nodes = items.typeNames := by
  match items with
  | .nil => rfl
  | .cons head tail =>
    rw [Trees.typeNames, ← typeNames_nodes tail]
    rfl

@[simp] theorem Part.typeNames_nodes (part : Part c) : Node.typeNames part.nodes = part.typeNames := by
  cases part with
  | absent => rfl
  | present inner => exact List.append_nil _

@[simp] theorem Node.typeNames_cons (tree : Tree c) (nodes : List Node) :
    Node.typeNames (tree.node :: nodes) = tree.typeNames ++ Node.typeNames nodes := rfl

@[simp] theorem Node.typeNames_nil : Node.typeNames [] = [] := rfl

@[simp] theorem Node.typeNames_append (first second : List Node) :
    Node.typeNames (first ++ second) = Node.typeNames first ++ Node.typeNames second :=
  List.flatMap_append

/-- A node introduces no more than what it introduces itself and what its parts introduce. -/
theorem Tree.typeNames_subset {tree : Tree c} {known : List String}
    (own : tree.ownTypeNames ⊆ known) (below : Node.typeNames tree.parts ⊆ known) :
    tree.typeNames ⊆ known := by
  cases tree <;>
    simp only [Tree.parts, Node.typeNames_append, Node.typeNames_cons, Node.typeNames_nil,
      Trees.typeNames_nodes, Part.typeNames_nodes, List.append_subset] at below <;>
    (repeat' refine List.append_subset.mpr (And.intro ?_ ?_)) <;>
    first
    | exact own
    | exact below
    | exact below.1
    | exact List.nil_subset _
    | simp only [below]

/-- The names that the trees of a value introduce as types. -/
def namesIn [HasNodes α] (value : α) : List String := Node.typeNames (HasNodes.roots value)

section

variable [HasNodes α] [HasNodes β] {a : α} {b : β} {as bs : List α}

@[simp] theorem namesIn_treeless [Treeless α] (value : α) : namesIn value = [] := by
  rw [namesIn, Treeless.none, Node.typeNames_nil]

@[simp] theorem namesIn_tree (tree : Tree c) : namesIn tree = tree.typeNames := List.append_nil _

theorem namesIn_trees (items : Trees c) : namesIn items = items.typeNames :=
  Trees.typeNames_nodes items

@[simp] theorem namesIn_nil : namesIn ([] : List α) = [] := rfl

@[simp] theorem namesIn_cons : namesIn (a :: as) = namesIn a ++ namesIn as :=
  Node.typeNames_append _ _

@[simp] theorem namesIn_append : namesIn (as ++ bs) = namesIn as ++ namesIn bs := by
  induction as with
  | nil => rfl
  | cons a as ih => rw [List.cons_append, namesIn_cons, ih, namesIn_cons, List.append_assoc]

@[simp] theorem namesIn_none : namesIn (none : Option α) = [] := rfl

@[simp] theorem namesIn_some : namesIn (some a) = namesIn a :=
  (@namesIn_cons _ _ a []).trans (List.append_nil _)

@[simp] theorem namesIn_pair : namesIn (a, b) = namesIn a ++ namesIn b := Node.typeNames_append _ _

@[simp] theorem namesIn_option (found : Option α) : namesIn found.toList = namesIn found := by
  cases found with
  | none => rfl
  | some a => rfl

end

@[simp] theorem namesIn_toList (items : Trees c) : namesIn items.toList = namesIn items := by
  match items with
  | .nil => rfl
  | .cons head tail =>
    rw [Trees.toList, namesIn_cons, namesIn_toList tail, namesIn_tree]
    rfl

@[simp] theorem namesIn_ofList (items : List (Tree c)) : namesIn (Trees.ofList items) = namesIn items := by
  rw [← namesIn_toList, Trees.toList_ofList]

@[simp] theorem namesIn_ofOption (found : Option (Tree c)) :
    namesIn (Part.ofOption found) = namesIn found := by
  cases found with
  | none => rfl
  | some tree => rfl

/-- The names are known. -/
class Among (idents known : List String) : Prop where
  subset : idents ⊆ known

namespace Among

variable {known more idents others : List String}

instance nil : Among [] known := ⟨List.nil_subset _⟩

instance branch {condition : Prop} [Decidable condition] [Among idents known] [Among others known] :
    Among (if condition then idents else others) known := by
  split <;> assumption

instance (priority := high) last : Among idents (known ++ idents) := ⟨List.subset_append_right ..⟩

/-- What is known stays known. -/
instance (priority := low) earlier [among : Among idents known] : Among idents (known ++ more) :=
  ⟨List.subset_append_of_subset_left _ among.subset⟩

end Among

/-- All names that the value introduces as types are known. -/
class Known [HasNodes α] (value : α) (known : List String) : Prop where
  subset : namesIn value ⊆ known

theorem known_iff [HasNodes α] {value : α} {known : List String} :
    Known value known ↔ namesIn value ⊆ known :=
  ⟨fun holds => holds.subset, fun holds => ⟨holds⟩⟩

/-- All names that the nodes introduce as types are known. -/
class AllKnown (nodes : List Node) (known : List String) : Prop where
  subset : Node.typeNames nodes ⊆ known

theorem allKnown_iff {nodes : List Node} {known : List String} :
    AllKnown nodes known ↔ Node.typeNames nodes ⊆ known :=
  ⟨fun holds => holds.subset, fun holds => ⟨holds⟩⟩

namespace Known

variable {known more : List String}

section

variable {tree : Tree c} {items : Trees c} {part : Part c} {nodes others : List Node}

theorem tree_iff : Known tree known ↔ tree.typeNames ⊆ known := by simp [known_iff]

theorem trees_iff : Known items known ↔ items.typeNames ⊆ known := by
  rw [known_iff, namesIn_trees]

instance noNodes : AllKnown [] known := ⟨List.nil_subset _⟩

theorem nodes_iff : AllKnown (tree.node :: nodes) known ↔ Known tree known ∧ AllKnown nodes known := by
  simp [known_iff, allKnown_iff]

theorem moreNodes_iff :
    AllKnown (nodes ++ others) known ↔ AllKnown nodes known ∧ AllKnown others known := by
  simp [allKnown_iff]

instance node [first : Known tree known] [rest : AllKnown nodes known] :
    AllKnown (tree.node :: nodes) known :=
  nodes_iff.mpr ⟨first, rest⟩

instance moreNodes [first : AllKnown nodes known] [second : AllKnown others known] :
    AllKnown (nodes ++ others) known :=
  moreNodes_iff.mpr ⟨first, second⟩

instance trees [holds : Known items known] : AllKnown items.nodes known := ⟨holds.subset⟩

instance optionalTree [holds : Known part known] : AllKnown part.nodes known := ⟨holds.subset⟩

/-- A tree whose own names are known and whose parts introduce known names only. -/
instance built [own : Among tree.ownTypeNames known] [below : AllKnown tree.parts known] :
    Known tree known :=
  tree_iff.mpr (Tree.typeNames_subset own.subset below.subset)

instance noTrees : Known (Trees.nil : Trees c) known := ⟨List.nil_subset _⟩

instance moreTrees [first : Known tree known] [rest : Known items known] :
    Known (Trees.cons tree items) known :=
  ⟨List.append_subset.mpr ⟨tree_iff.mp first, rest.subset⟩⟩

instance absent : Known (Part.absent : Part c) known := ⟨List.nil_subset _⟩

instance present [holds : Known tree known] : Known (Part.present tree) known := ⟨holds.subset⟩

instance ofList {items : List (Tree c)} [holds : Known items known] :
    Known (Trees.ofList items) known := by
  simpa [known_iff] using holds.subset

instance toList [holds : Known items known] : Known items.toList known := by
  simpa [known_iff] using holds.subset

instance ofOption {found : Option (Tree c)} [holds : Known found known] :
    Known (Part.ofOption found) known := by
  simpa [known_iff] using holds.subset

end

variable [HasNodes α] [HasNodes β] {a : α} {b : β} {as bs : List α}

instance (priority := high) last : Known a (known ++ namesIn a) := ⟨List.subset_append_right ..⟩

/-- What is known stays known. -/
instance (priority := low) earlier [holds : Known a known] : Known a (known ++ more) :=
  ⟨List.subset_append_of_subset_left _ holds.subset⟩

instance (priority := low) treeless [Treeless α] : Known a known := by simp [known_iff]

instance listNil : Known ([] : List α) known := ⟨List.nil_subset _⟩

instance listCons [first : Known a known] [rest : Known as known] : Known (a :: as) known := by
  simp [known_iff, first.subset, rest.subset]

instance listAppend [first : Known as known] [second : Known bs known] : Known (as ++ bs) known := by
  simp [known_iff, first.subset, second.subset]

instance optionNone : Known (none : Option α) known := ⟨List.nil_subset _⟩

theorem some_iff : Known (some a) known ↔ Known a known := by simp [known_iff]

instance optionSome [holds : Known a known] : Known (some a) known := some_iff.mpr holds

instance optionToList {found : Option α} [holds : Known found known] : Known found.toList known := by
  simpa [known_iff] using holds.subset

instance getD {found : Option α} [holds : Known found known] [Known a known] :
    Known (found.getD a) known := by
  cases found with
  | none => assumption
  | some b => exact some_iff.mp holds

theorem pair_iff : Known (a, b) known ↔ Known a known ∧ Known b known := by simp [known_iff]

instance pair [first : Known a known] [second : Known b known] : Known (a, b) known :=
  pair_iff.mpr ⟨first, second⟩

instance fst {both : α × β} [holds : Known both known] : Known both.1 known := (pair_iff.mp holds).1

instance snd {both : α × β} [holds : Known both known] : Known both.2 known := (pair_iff.mp holds).2

instance inl [holds : Known a known] : Known (.inl a : α ⊕ β) known := ⟨holds.subset⟩

instance inr [holds : Known b known] : Known (.inr b : α ⊕ β) known := ⟨holds.subset⟩

instance branch {condition : Prop} [Decidable condition] [Known a known] {other : α}
    [Known other known] : Known (if condition then a else other) known := by
  split <;> assumption

end Known

end CppSyntax
