import CppSyntax.Proofs.WellFormed.Value

/-!
A condition on the forms of statements, all through the trees that a value holds: in the bodies of
functions, of lambdas and of local classes as well. Like well-formedness it is found by instances, which
follow the constructors, but nothing is asked of any other node.
-/

namespace CppSyntax

/-- The node meets the condition if it is the form of a statement. -/
@[reducible] def Node.FormMeets (Q : Tree .statementForm → Prop) : Node → Prop
  | ⟨.statementForm, form⟩ => Q form
  | _ => True

/-- All forms of statements in the trees that the value holds meet the condition. -/
class Throughout (Q : Tree .statementForm → Prop) [HasNodes α] (value : α) : Prop where
  everywhere : ∀ root ∈ HasNodes.roots value, root.Everywhere (Node.FormMeets Q)

/-- All forms in these nodes meet the condition. -/
class AllThroughout (Q : Tree .statementForm → Prop) (nodes : List Node) : Prop where
  everywhere : ∀ node ∈ nodes, node.Everywhere (Node.FormMeets Q)

/-- A value in which all forms meet the condition. -/
structure Bearing (Q : Tree .statementForm → Prop) (α : Type) [HasNodes α] where
  value : α
  all : Throughout Q value

attribute [instance] Bearing.all

namespace Throughout

variable {Q : Tree .statementForm → Prop} {tree : Tree c} {items : Trees c} {part : Part c}
  {nodes others : List Node}

theorem tree_iff : Throughout Q tree ↔ tree.node.Everywhere (Node.FormMeets Q) := by
  constructor
  · exact fun all => all.everywhere tree.node (List.mem_singleton_self _)
  · refine fun everywhere => ⟨fun root member => ?_⟩
    obtain rfl := List.mem_singleton.mp member
    exact everywhere

instance nil : AllThroughout Q [] := ⟨nofun⟩

theorem cons_iff : AllThroughout Q (tree.node :: nodes) ↔ Throughout Q tree ∧ AllThroughout Q nodes := by
  constructor
  · exact fun all => ⟨tree_iff.mpr (all.everywhere _ (List.mem_cons_self ..)),
      ⟨fun node member => all.everywhere node (List.mem_cons_of_mem _ member)⟩⟩
  · rintro ⟨first, rest⟩
    exact ⟨List.forall_mem_cons.mpr ⟨tree_iff.mp first, rest.everywhere⟩⟩

theorem append_iff :
    AllThroughout Q (nodes ++ others) ↔ AllThroughout Q nodes ∧ AllThroughout Q others := by
  constructor
  · exact fun all => ⟨⟨fun node member => all.everywhere node (List.mem_append_left _ member)⟩,
      ⟨fun node member => all.everywhere node (List.mem_append_right _ member)⟩⟩
  · rintro ⟨first, second⟩
    exact ⟨fun node member =>
      (List.mem_append.mp member).elim (first.everywhere node) (second.everywhere node)⟩

instance cons [first : Throughout Q tree] [rest : AllThroughout Q nodes] :
    AllThroughout Q (tree.node :: nodes) :=
  cons_iff.mpr ⟨first, rest⟩

instance append [first : AllThroughout Q nodes] [second : AllThroughout Q others] :
    AllThroughout Q (nodes ++ others) :=
  append_iff.mpr ⟨first, second⟩

instance trees [all : Throughout Q items] : AllThroughout Q items.nodes := ⟨all.everywhere⟩

instance optionalTree [all : Throughout Q part] : AllThroughout Q part.nodes := ⟨all.everywhere⟩

/-- A tree of which the root and the parts meet the condition. -/
instance built [meets : Holds (Node.FormMeets Q ⟨c, tree⟩)] [below : AllThroughout Q tree.parts] :
    Throughout Q tree :=
  tree_iff.mpr (Node.everywhere_iff.mpr ⟨meets.holds, below.everywhere⟩)

theorem parts (all : Throughout Q tree) : AllThroughout Q tree.parts :=
  ⟨(Node.everywhere_iff.mp (tree_iff.mp all)).2⟩

section

variable [HasNodes α] [HasNodes β] {a : α} {b : β} {as bs : List α}

instance listNil : Throughout Q ([] : List α) := ⟨nofun⟩

theorem list_iff : Throughout Q as ↔ ∀ a ∈ as, Throughout Q a := by
  constructor
  · exact fun all a member => ⟨fun root inside =>
      all.everywhere root (List.mem_flatMap.mpr ⟨a, member, inside⟩)⟩
  · intro each
    refine ⟨fun root member => ?_⟩
    obtain ⟨a, among, inside⟩ := List.mem_flatMap.mp member
    exact (each a among).everywhere root inside

instance listCons [first : Throughout Q a] [rest : Throughout Q as] : Throughout Q (a :: as) :=
  list_iff.mpr (List.forall_mem_cons.mpr ⟨first, list_iff.mp rest⟩)

instance listAppend [first : Throughout Q as] [second : Throughout Q bs] : Throughout Q (as ++ bs) :=
  list_iff.mpr fun a member =>
    (List.mem_append.mp member).elim (list_iff.mp first a) (list_iff.mp second a)

instance optionNone : Throughout Q (none : Option α) := ⟨nofun⟩

theorem some_iff : Throughout Q (some a) ↔ Throughout Q a := by
  have same : HasNodes.roots (some a) = HasNodes.roots a := List.append_nil _
  exact ⟨fun all => ⟨same ▸ all.everywhere⟩, fun all => ⟨same ▸ all.everywhere⟩⟩

instance optionSome [all : Throughout Q a] : Throughout Q (some a) := some_iff.mpr all

theorem option_iff {found : Option α} : Throughout Q found ↔ ∀ a ∈ found, Throughout Q a := by
  cases found with
  | none => exact ⟨fun _ => nofun, fun _ => inferInstance⟩
  | some a => simp [some_iff]

instance optionToList {found : Option α} [all : Throughout Q found] : Throughout Q found.toList :=
  list_iff.mpr fun a member => option_iff.mp all a (Option.mem_toList.mp member)

instance getD {found : Option α} [all : Throughout Q found] [Throughout Q a] :
    Throughout Q (found.getD a) := by
  cases found with
  | none => assumption
  | some b => exact some_iff.mp all

theorem pair_iff : Throughout Q (a, b) ↔ Throughout Q a ∧ Throughout Q b := by
  refine ⟨fun all => ⟨⟨fun root member => all.everywhere root (List.mem_append_left _ member)⟩,
    ⟨fun root member => all.everywhere root (List.mem_append_right _ member)⟩⟩, ?_⟩
  rintro ⟨first, second⟩
  exact ⟨fun root member =>
    (List.mem_append.mp member).elim (first.everywhere root) (second.everywhere root)⟩

instance pair [first : Throughout Q a] [second : Throughout Q b] : Throughout Q (a, b) :=
  pair_iff.mpr ⟨first, second⟩

instance fst {both : α × β} [all : Throughout Q both] : Throughout Q both.1 := (pair_iff.mp all).1

instance snd {both : α × β} [all : Throughout Q both] : Throughout Q both.2 := (pair_iff.mp all).2

instance inl [all : Throughout Q a] : Throughout Q (.inl a : α ⊕ β) := ⟨all.everywhere⟩

instance inr [all : Throughout Q b] : Throughout Q (.inr b : α ⊕ β) := ⟨all.everywhere⟩

instance branch {condition : Prop} [Decidable condition] [Throughout Q a] {other : α}
    [Throughout Q other] : Throughout Q (if condition then a else other) := by
  split <;> assumption

end

instance ofList {items : List (Tree c)} [all : Throughout Q items] :
    Throughout Q (Trees.ofList items) := by
  refine ⟨fun root member => ?_⟩
  obtain ⟨tree, among, rfl⟩ := List.mem_map.mp member
  rw [Trees.toList_ofList] at among
  exact tree_iff.mp (list_iff.mp all tree among)

instance ofOption {found : Option (Tree c)} [all : Throughout Q found] :
    Throughout Q (Part.ofOption found) := by
  cases found with
  | none => exact ⟨nofun⟩
  | some tree => exact ⟨(some_iff.mp all).everywhere⟩

instance absent : Throughout Q (Part.absent : Part c) := ⟨nofun⟩

instance present [all : Throughout Q tree] : Throughout Q (Part.present tree) := ⟨all.everywhere⟩

instance noTrees : Throughout Q (Trees.nil : Trees c) := ⟨nofun⟩

instance moreTrees [first : Throughout Q tree] [rest : Throughout Q items] :
    Throughout Q (Trees.cons tree items) := by
  refine ⟨fun root member => ?_⟩
  rcases List.mem_cons.mp member with rfl | behind
  · exact tree_iff.mp first
  · exact rest.everywhere root behind

instance (priority := low) treeless [HasNodes α] [Treeless α] {value : α} : Throughout Q value :=
  ⟨fun root member => by simp [Treeless.none] at member⟩

theorem mapPlace (change : Placement → Placement) {tree : Tree c} (all : Throughout Q tree) :
    Throughout Q (tree.mapPlace change) := by
  cases tree with
  | declaration place form =>
    have below : AllThroughout Q [form.node] := all.parts
    exact inferInstanceAs (Throughout Q (Tree.declaration (change place) form))
  | statement place form =>
    have below : AllThroughout Q [form.node] := all.parts
    exact inferInstanceAs (Throughout Q (Tree.statement (change place) form))
  | _ => exact all

end Throughout

end CppSyntax
