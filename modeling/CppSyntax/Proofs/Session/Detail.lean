import CppSyntax.Grammar.Derivation
import CppSyntax.Tree.Structure

/-!
How much of a value counts when two readings are compared. Either everything counts, or everything but
the layout: the places of nodes and the comments and empty lines around them. Most values that rules
pass on have no layout at all and are compared for equality.
-/

namespace CppSyntax

inductive Detail where
  | whole | bare

def Detail.erasure : Detail → Erasure
  | .whole => .nothing
  | .bare => .layout

theorem Tree.without_nothing {c : Category} (tree : Tree c) : tree.without .nothing = tree := by
  apply @Tree.rec (fun _ tree => tree.without .nothing = tree)
    (fun _ items => items.without .nothing = items) (fun _ part => part.without .nothing = part)
  all_goals intros
  all_goals first
    | rfl
    | ((conv => lhs; whnf); simp only [Erasure.nothing, id, *] at *)

/-- What counts of a value in some detail. -/
class Viewed (α : Type) where
  view : Detail → α → α

export Viewed (view)

/-- A value of which everything counts in any detail. -/
class Discrete (α : Type) [Viewed α] : Prop where
  view_eq (detail : Detail) (value : α) : view detail value = value

section Instances

instance : Viewed (Tree c) := ⟨fun detail tree => tree.without detail.erasure⟩

instance : Viewed (Trees c) := ⟨fun detail items => items.without detail.erasure⟩

instance : Viewed (Part c) := ⟨fun detail part => part.without detail.erasure⟩

instance : Viewed Placement := ⟨fun detail => detail.erasure.place⟩

instance [Viewed α] : Viewed (List α) := ⟨fun detail => List.map (view detail)⟩

instance [Viewed α] : Viewed (Option α) := ⟨fun detail => Option.map (view detail)⟩

instance [Viewed α] [Viewed β] : Viewed (α × β) := ⟨fun detail => Prod.map (view detail) (view detail)⟩

instance [Viewed α] [Viewed β] : Viewed (α ⊕ β) := ⟨fun detail => Sum.map (view detail) (view detail)⟩

instance : Viewed ParsedSpecifiers :=
  ⟨fun detail specs => { specs with type := view detail specs.type }⟩

instance : Viewed Grammar.SpecifierDraft :=
  ⟨fun detail draft => { draft with specs := view detail draft.specs }⟩

instance : Viewed Grammar.FunctionQualifiers :=
  ⟨fun detail found => { found with exception := view detail found.exception }⟩

instance loopHeader_viewed : Viewed Grammar.LoopHeader :=
  ⟨fun detail header =>
    match header with
    | .counted init test step => .counted (view detail init) (view detail test) (view detail step)
    | .ranged init element range =>
      .ranged (view detail init) (view detail element) (view detail range)⟩

instance : Viewed Unit := ⟨fun _ => id⟩
instance : Viewed Bool := ⟨fun _ => id⟩
instance : Viewed Nat := ⟨fun _ => id⟩
instance : Viewed String := ⟨fun _ => id⟩
instance : Viewed TokenKind := ⟨fun _ => id⟩
instance : Viewed Qualifiers := ⟨fun _ => id⟩
instance : Viewed ClassKey := ⟨fun _ => id⟩
instance : Viewed Access := ⟨fun _ => id⟩
instance : Viewed TypeParameterKey := ⟨fun _ => id⟩
instance : Viewed BinaryOp := ⟨fun _ => id⟩
instance : Viewed AssignOp := ⟨fun _ => id⟩

instance : Discrete Unit := ⟨fun _ _ => rfl⟩
instance : Discrete Bool := ⟨fun _ _ => rfl⟩
instance : Discrete Nat := ⟨fun _ _ => rfl⟩
instance : Discrete String := ⟨fun _ _ => rfl⟩
instance : Discrete TokenKind := ⟨fun _ _ => rfl⟩
instance : Discrete Qualifiers := ⟨fun _ _ => rfl⟩
instance : Discrete ClassKey := ⟨fun _ _ => rfl⟩
instance : Discrete Access := ⟨fun _ _ => rfl⟩
instance : Discrete TypeParameterKey := ⟨fun _ _ => rfl⟩
instance : Discrete BinaryOp := ⟨fun _ _ => rfl⟩
instance : Discrete AssignOp := ⟨fun _ _ => rfl⟩

instance list_discrete [Viewed α] [Discrete α] : Discrete (List α) :=
  ⟨fun detail items => by
    show items.map (view detail) = items
    rw [funext (Discrete.view_eq (α := α) detail)]
    exact items.map_id'⟩

instance option_discrete [Viewed α] [Discrete α] : Discrete (Option α) :=
  ⟨fun detail value => by
    cases value with
    | none => rfl
    | some value => exact congrArg some (Discrete.view_eq detail value)⟩

instance prod_discrete [Viewed α] [Viewed β] [Discrete α] [Discrete β] : Discrete (α × β) :=
  ⟨fun detail (a, b) =>
    congr (congrArg Prod.mk (Discrete.view_eq detail a)) (Discrete.view_eq detail b)⟩

end Instances

/-- The same counts of both values. -/
class Same (detail : Detail) [Viewed α] (first second : α) : Prop where
  eq : view detail first = view detail second

/-- Two values of which the same counts. -/
structure Likes (detail : Detail) (α : Type) [Viewed α] where
  fst : α
  snd : α
  same : Same detail fst snd

/-- The values are equal. -/
class Equal (first second : α) : Prop where
  eq : first = second

theorem Tree.eq_of_same {first second : Tree c} (same : Same .whole first second) :
    first = second := by
  have eq : first.without .nothing = second.without .nothing := same.eq
  rwa [first.without_nothing, second.without_nothing] at eq

section

variable {detail : Detail} [Viewed α] [Viewed β]

instance (pair : Likes detail α) : Same detail pair.fst pair.snd := pair.same

instance (priority := low) Same.refl (value : α) : Same detail value value := ⟨rfl⟩

theorem Same.to_eq [Discrete α] {a b : α} (same : Same detail a b) : a = b := by
  rw [← Discrete.view_eq detail a, same.eq, Discrete.view_eq]

instance (priority := low) Same.of_equal {a b : α} [equal : Equal a b] : Same detail a b :=
  ⟨congrArg _ equal.eq⟩

instance (priority := low) Equal.refl {α : Type} (value : α) : Equal value value := ⟨rfl⟩

instance ite_same {chosen other : Bool} {a b x y : α} [equal : Equal chosen other]
    [first : Same detail a x] [second : Same detail b y] :
    Same detail (if chosen = true then a else b) (if other = true then x else y) := by
  rw [equal.eq]
  split
  · exact first
  · exact second

/-- A constructor under which what counts stays apart. -/
theorem Same.map {f : α → β} {a b : α} (same : Same detail a b)
    (apart : ∀ a, view detail (f a) = f (view detail a)) : Same detail (f a) (f b) :=
  ⟨by rw [apart, apart, same.eq]⟩

theorem Same.map₂ [Viewed γ] {f : α → β → γ} {a b : α} {x y : β} (first : Same detail a b)
    (second : Same detail x y)
    (apart : ∀ a x, view detail (f a x) = f (view detail a) (view detail x)) :
    Same detail (f a x) (f b y) :=
  ⟨by rw [apart, apart, first.eq, second.eq]⟩

theorem Same.map₃ [Viewed γ] [Viewed δ] {f : α → β → γ → δ} {a b : α} {x y : β} {u v : γ}
    (first : Same detail a b) (second : Same detail x y) (third : Same detail u v)
    (apart : ∀ a x u, view detail (f a x u) = f (view detail a) (view detail x) (view detail u)) :
    Same detail (f a x u) (f b y v) :=
  ⟨by rw [apart, apart, first.eq, second.eq, third.eq]⟩

theorem Same.map₄ [Viewed γ] [Viewed δ] [Viewed ε] {f : α → β → γ → δ → ε} {a b : α} {x y : β}
    {u v : γ} {s t : δ} (first : Same detail a b) (second : Same detail x y)
    (third : Same detail u v) (fourth : Same detail s t)
    (apart : ∀ a x u s, view detail (f a x u s) =
      f (view detail a) (view detail x) (view detail u) (view detail s)) :
    Same detail (f a x u s) (f b y v t) :=
  ⟨by rw [apart, apart, first.eq, second.eq, third.eq, fourth.eq]⟩

/-- What is a function of what counts is equal. -/
theorem Same.equal {γ : Type} {f : α → γ} {a b : α} (same : Same detail a b)
    (depends : ∀ a, f (view detail a) = f a) : f a = f b := by
  rw [← depends a, same.eq, depends]

end

section

variable {detail : Detail} [Viewed α] [Viewed β]

instance {a b : α} {items others : List α} [first : Same detail a b]
    [rest : Same detail items others] : Same detail (a :: items) (b :: others) :=
  first.map₂ rest fun _ _ => rfl

instance {front back items others : List α} [first : Same detail front items]
    [second : Same detail back others] : Same detail (front ++ back) (items ++ others) :=
  first.map₂ second fun _ _ => List.map_append

instance {a b : α} [same : Same detail a b] : Same detail (some a) (some b) :=
  same.map fun _ => rfl

instance optionToList_same {a b : Option α} [same : Same detail a b] : Same detail a.toList b.toList :=
  ⟨by
    have eq : a.map (view detail) = b.map (view detail) := same.eq
    show a.toList.map (view detail) = b.toList.map (view detail)
    cases a <;> cases b <;> simp_all⟩

instance optionGetD_same {a b : Option (List α)} [same : Same detail a b] :
    Same detail (a.getD []) (b.getD []) :=
  ⟨by
    have eq : a.map (view detail) = b.map (view detail) := same.eq
    show (a.getD []).map (view detail) = (b.getD []).map (view detail)
    cases a <;> cases b <;> simp_all [view]⟩

instance {a b : α} {x y : β} [first : Same detail a b] [second : Same detail x y] :
    Same detail (a, x) (b, y) :=
  first.map₂ second fun _ _ => rfl

instance {a b : α × β} [same : Same detail a b] : Same detail a.1 b.1 :=
  ⟨congrArg Prod.fst same.eq⟩

instance {a b : α} [same : Same detail a b] :
    Same detail (Sum.inl a : α ⊕ β) (Sum.inl b) :=
  same.map fun _ => rfl

instance {a b : β} [same : Same detail a b] :
    Same detail (Sum.inr a : α ⊕ β) (Sum.inr b) :=
  same.map fun _ => rfl

instance {items others : List (Tree c)} [same : Same detail items others] :
    Same detail (Trees.ofList items) (Trees.ofList others) :=
  same.map fun _ => Trees.without_ofList _ _

instance {part other : Option (Tree c)} [same : Same detail part other] :
    Same detail (Part.ofOption part) (Part.ofOption other) :=
  same.map fun _ => Part.without_ofOption _ _

instance {a b : Tree c} [same : Same detail a b] : Same detail (Part.present a) (Part.present b) :=
  same.map fun _ => rfl

instance {a b : Tree c} {items others : Trees c} [first : Same detail a b]
    [rest : Same detail items others] : Same detail (Trees.cons a items) (Trees.cons b others) :=
  first.map₂ rest fun _ _ => rfl

/-- Values that are missing on both sides or there on both sides. -/
theorem Same.options {a b : Option α} (same : Same detail a b) :
    (a = none ∧ b = none) ∨ ∃ pair : Likes detail α, a = some pair.fst ∧ b = some pair.snd := by
  have eq : a.map (view detail) = b.map (view detail) := same.eq
  cases a with
  | none =>
    cases b with
    | none => exact .inl ⟨rfl, rfl⟩
    | some => cases eq
  | some first =>
    cases b with
    | none => cases eq
    | some second => exact .inr ⟨⟨first, second, ⟨Option.some.inj eq⟩⟩, rfl, rfl⟩

/-- Sequences that are empty on both sides or start with like values on both sides. -/
theorem Same.lists {items others : List α} (same : Same detail items others) :
    (items = [] ∧ others = []) ∨ ∃ (head : Likes detail α) (tail : Likes detail (List α)),
      items = head.fst :: tail.fst ∧ others = head.snd :: tail.snd := by
  have eq : items.map (view detail) = others.map (view detail) := same.eq
  cases items with
  | nil =>
    cases others with
    | nil => exact .inl ⟨rfl, rfl⟩
    | cons => cases eq
  | cons first rest =>
    cases others with
    | nil => cases eq
    | cons second rest' =>
      obtain ⟨heads, tails⟩ := List.cons.inj eq
      exact .inr ⟨⟨first, second, ⟨heads⟩⟩, ⟨rest, rest', ⟨tails⟩⟩, rfl, rfl⟩

instance {items others : List α} [same : Same detail items others] :
    Same detail items.reverse others.reverse :=
  same.map fun _ => List.map_reverse ..

theorem Same.length {items others : List α} (same : Same detail items others) :
    items.length = others.length :=
  same.equal fun _ => List.length_map ..

theorem Same.isEmpty {items others : List α} (same : Same detail items others) :
    items.isEmpty = others.isEmpty :=
  same.equal fun _ => List.isEmpty_map ..

instance (items : Likes detail (List α)) : Equal items.fst.isEmpty items.snd.isEmpty :=
  ⟨items.same.isEmpty⟩

end

end CppSyntax
