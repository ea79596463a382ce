import CppSyntax.Proofs.WellFormed.Shape
import CppSyntax.Grammar.Statement

/-!
Values that hold well-formed trees only. What a parser answers with may be a tree, several ones or
none; that all of them are well formed is found by instances, which follow the constructors.
-/

namespace CppSyntax

/-- The nodes at the roots of what a value holds. A value of any other type holds none. -/
class HasNodes (α : Type) where
  roots : α → List Node

namespace HasNodes

instance : HasNodes (Tree c) := ⟨fun tree => [tree.node]⟩

instance : HasNodes (Trees c) := ⟨Trees.nodes⟩

instance : HasNodes (Part c) := ⟨Part.nodes⟩

instance [HasNodes α] : HasNodes (List α) := ⟨fun values => values.flatMap roots⟩

instance [HasNodes α] : HasNodes (Option α) := ⟨fun value => value.toList.flatMap roots⟩

instance [HasNodes α] [HasNodes β] : HasNodes (α × β) := ⟨fun pair => roots pair.1 ++ roots pair.2⟩

instance [HasNodes α] [HasNodes β] : HasNodes (α ⊕ β) := ⟨Sum.elim roots roots⟩

instance [HasNodes α] : HasNodes (Except SyntaxError α) := ⟨fun result => roots result.toOption⟩

instance : HasNodes ParsedSpecifiers := ⟨fun specs => roots specs.type⟩

instance : HasNodes Grammar.FunctionQualifiers := ⟨fun found => roots found.exception⟩

/-- The variable of a range counts as the statement that declares it. -/
instance loopHeader_hasNodes : HasNodes Grammar.LoopHeader := ⟨fun
  | .counted init test step => roots (init, test, step)
  | .ranged init element range => roots (init, Tree.declarationStatement element, range)⟩

instance (priority := low) : HasNodes α := ⟨fun _ => []⟩

end HasNodes

/-- The values of the type hold no trees. -/
class Treeless (α : Type) [HasNodes α] : Prop where
  none : ∀ value : α, HasNodes.roots value = []

namespace Treeless

instance (priority := low) : @Treeless α ⟨fun _ => []⟩ := @Treeless.mk α ⟨fun _ => []⟩ fun _ => rfl

variable [HasNodes α] [HasNodes β] [Treeless α] [Treeless β]

instance : Treeless (List α) := ⟨fun _ => List.flatMap_eq_nil_iff.mpr fun value _ => none value⟩

instance : Treeless (Option α) := ⟨fun _ => List.flatMap_eq_nil_iff.mpr fun value _ => none value⟩

instance : Treeless (α × β) := ⟨fun pair => List.append_eq_nil_iff.mpr ⟨none pair.1, none pair.2⟩⟩

end Treeless

/-- All trees that the value holds are well formed. -/
class Fine [HasNodes α] (value : α) : Prop where
  sound : ∀ root ∈ HasNodes.roots value, root.2.WellFormed

/-- A value that holds well-formed trees only. -/
structure Good (α : Type) [HasNodes α] where
  value : α
  fine : Fine value

attribute [instance] Good.fine

/-- A condition that is found by instances. -/
class Holds (condition : Prop) : Prop where
  holds : condition

instance : Holds True := ⟨trivial⟩

/-- All these nodes are well formed. -/
class AllFine (nodes : List Node) : Prop where
  sound : ∀ node ∈ nodes, node.2.WellFormed

namespace Fine

variable {tree : Tree c} {items : Trees c} {part : Part c} {nodes others : List Node}

theorem wellFormed (tree : Tree c) [fine : Fine tree] : tree.WellFormed :=
  fine.sound tree.node (List.mem_singleton_self _)

theorem of_wellFormed (holds : tree.WellFormed) : Fine tree :=
  ⟨fun root member => by
    obtain rfl := List.mem_singleton.mp member
    exact holds⟩

instance nil : AllFine [] := ⟨nofun⟩

theorem cons_iff : AllFine (tree.node :: nodes) ↔ Fine tree ∧ AllFine nodes := by
  constructor
  · exact fun all => ⟨of_wellFormed (all.sound _ (List.mem_cons_self ..)),
      ⟨fun node member => all.sound node (List.mem_cons_of_mem _ member)⟩⟩
  · rintro ⟨fine, rest⟩
    exact ⟨List.forall_mem_cons.mpr ⟨fine.wellFormed, rest.sound⟩⟩

theorem append_iff : AllFine (nodes ++ others) ↔ AllFine nodes ∧ AllFine others := by
  constructor
  · exact fun all => ⟨⟨fun node member => all.sound node (List.mem_append_left _ member)⟩,
      ⟨fun node member => all.sound node (List.mem_append_right _ member)⟩⟩
  · rintro ⟨first, second⟩
    exact ⟨fun node member => (List.mem_append.mp member).elim (first.sound node) (second.sound node)⟩

instance cons [fine : Fine tree] [rest : AllFine nodes] : AllFine (tree.node :: nodes) :=
  cons_iff.mpr ⟨fine, rest⟩

instance append [first : AllFine nodes] [second : AllFine others] : AllFine (nodes ++ others) :=
  append_iff.mpr ⟨first, second⟩

instance trees [fine : Fine items] : AllFine items.nodes := ⟨fine.sound⟩

instance optionalTree [fine : Fine part] : AllFine part.nodes := ⟨fine.sound⟩

/-- A tree that fits at its root and whose parts are well formed. -/
instance built [fits : Holds tree.Fits] [below : AllFine tree.parts] : Fine tree :=
  of_wellFormed (Tree.wellFormed_iff.mpr ⟨fits.holds, below.sound⟩)

theorem parts (fine : Fine tree) : AllFine tree.parts :=
  ⟨(Tree.wellFormed_iff.mp fine.wellFormed).2⟩

theorem fits (fine : Fine tree) : tree.Fits := (Tree.wellFormed_iff.mp fine.wellFormed).1

section

variable [HasNodes α] [HasNodes β] {a : α} {b : β} {as bs : List α}

instance listNil : Fine ([] : List α) := ⟨nofun⟩

theorem list_iff : Fine as ↔ ∀ a ∈ as, Fine a := by
  constructor
  · exact fun fine a member => ⟨fun root inside =>
      fine.sound root (List.mem_flatMap.mpr ⟨a, member, inside⟩)⟩
  · intro each
    refine ⟨fun root member => ?_⟩
    obtain ⟨a, among, inside⟩ := List.mem_flatMap.mp member
    exact (each a among).sound root inside

instance listCons [fine : Fine a] [rest : Fine as] : Fine (a :: as) :=
  list_iff.mpr (List.forall_mem_cons.mpr ⟨fine, list_iff.mp rest⟩)

instance listAppend [first : Fine as] [second : Fine bs] : Fine (as ++ bs) :=
  list_iff.mpr fun a member =>
    (List.mem_append.mp member).elim (list_iff.mp first a) (list_iff.mp second a)

instance optionNone : Fine (none : Option α) := ⟨nofun⟩

theorem some_iff : Fine (some a) ↔ Fine a := by
  have same : HasNodes.roots (some a) = HasNodes.roots a := List.append_nil _
  exact ⟨fun fine => ⟨same ▸ fine.sound⟩, fun fine => ⟨same ▸ fine.sound⟩⟩

instance optionSome [fine : Fine a] : Fine (some a) := some_iff.mpr fine

theorem option_iff {found : Option α} : Fine found ↔ ∀ a ∈ found, Fine a := by
  cases found with
  | none => exact ⟨fun _ => nofun, fun _ => inferInstance⟩
  | some a => simp [some_iff]

instance optionToList {found : Option α} [fine : Fine found] : Fine found.toList :=
  list_iff.mpr fun a member => option_iff.mp fine a (Option.mem_toList.mp member)

instance getD {found : Option α} [fine : Fine found] [Fine a] : Fine (found.getD a) := by
  cases found with
  | none => assumption
  | some b => exact some_iff.mp fine

theorem pair_iff : Fine (a, b) ↔ Fine a ∧ Fine b := by
  refine ⟨fun fine => ⟨⟨fun root member => fine.sound root (List.mem_append_left _ member)⟩,
    ⟨fun root member => fine.sound root (List.mem_append_right _ member)⟩⟩, ?_⟩
  rintro ⟨first, second⟩
  exact ⟨fun root member =>
    (List.mem_append.mp member).elim (first.sound root) (second.sound root)⟩

instance pair [first : Fine a] [second : Fine b] : Fine (a, b) := pair_iff.mpr ⟨first, second⟩

instance fst {both : α × β} [fine : Fine both] : Fine both.1 := (pair_iff.mp fine).1

instance inl [fine : Fine a] : Fine (.inl a : α ⊕ β) := ⟨fine.sound⟩

instance inr [fine : Fine b] : Fine (.inr b : α ⊕ β) := ⟨fine.sound⟩

instance branch {condition : Prop} [Decidable condition] [Fine a] {other : α} [Fine other] :
    Fine (if condition then a else other) := by
  split <;> assumption

theorem ok_iff : Fine (.ok a : Except SyntaxError α) ↔ Fine a := by
  have found : Fine (some a) ↔ Fine a := some_iff
  exact ⟨fun fine => found.mp ⟨fine.sound⟩, fun fine => ⟨(found.mpr fine).sound⟩⟩

end

instance ofList {items : List (Tree c)} [fine : Fine items] : Fine (Trees.ofList items) := by
  refine ⟨fun root member => ?_⟩
  obtain ⟨tree, among, rfl⟩ := List.mem_map.mp member
  rw [Trees.toList_ofList] at among
  exact (list_iff.mp fine tree among).wellFormed

instance toList [fine : Fine items] : Fine items.toList :=
  list_iff.mpr fun _ member => of_wellFormed (fine.sound _ (List.mem_map_of_mem member))

instance ofOption {found : Option (Tree c)} [fine : Fine found] : Fine (Part.ofOption found) := by
  cases found with
  | none => exact ⟨nofun⟩
  | some tree => exact ⟨(some_iff.mp fine).sound⟩

instance absent : Fine (Part.absent : Part c) := ⟨nofun⟩

instance present [fine : Fine tree] : Fine (Part.present tree) := ⟨fine.sound⟩

instance noTrees : Fine (Trees.nil : Trees c) := ⟨nofun⟩

instance moreTrees [first : Fine tree] [rest : Fine items] : Fine (Trees.cons tree items) := by
  refine ⟨fun root member => ?_⟩
  rcases List.mem_cons.mp member with rfl | behind
  · exact first.wellFormed
  · exact rest.sound root behind

instance (priority := low) treeless [HasNodes α] [Treeless α] {value : α} : Fine value :=
  ⟨fun root member => by simp [Treeless.none] at member⟩

end Fine

end CppSyntax
