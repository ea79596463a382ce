import CppSyntax.Proofs.Session.Composition

/-!
Placements and comments beside each other. The comment behind the last token is the same on both sides
only if a token has been read, since the session may stand behind tokens that the parser never saw.
-/

namespace CppSyntax

/-- The same counts of two comments. -/
def Detail.SameComment : Detail → Option String → Option String → Prop
  | .whole, first, second => first = second
  | .bare, _, _ => True

/-- The same counts of what stands between braces and before the closing one. -/
def Detail.SameBody (detail : Detail) (first second : List (Tree c) × List String) : Prop :=
  Same detail first.1 second.1 ∧ detail.SameClosing first.2 second.2

section

variable {detail : Detail}

theorem Same.withTrailing {place other : Placement} {comment comment' : Option String}
    (places : Same detail place other) (comments : detail.SameComment comment comment') :
    Same detail { place with trailingComment := comment }
      { other with trailingComment := comment' } := by
  cases detail with
  | whole =>
    obtain rfl : place = other := places.eq
    obtain rfl : comment = comment' := comments
    exact .refl _
  | bare => exact ⟨rfl⟩

theorem Tree.mapPlace_layout (change : Placement → Placement) (tree : Tree c) :
    (tree.mapPlace change).without .layout = tree.without .layout := by
  unfold mapPlace
  split <;> rfl

theorem Same.leadWith {comment comment' : Option String} {items others : List (Tree c)}
    {closing closing' : List String} (comments : detail.SameComment comment comment')
    (same : Same detail items others) (closings : detail.SameClosing closing closing') :
    detail.SameBody (Grammar.leadWith comment items closing)
      (Grammar.leadWith comment' others closing') := by
  cases detail with
  | whole =>
    obtain rfl : comment = comment' := comments
    obtain rfl : closing = closing' := closings
    have eq : items.map (·.without .nothing) = others.map (·.without .nothing) := same.eq
    simp only [Tree.without_nothing, List.map_id'] at eq
    subst eq
    exact ⟨.refl _, rfl⟩
  | bare =>
    have left (comment : Option String) (items : List (Tree c)) (closing : List String) :
        view .bare (Grammar.leadWith comment items closing).1 = view .bare items := by
      unfold Grammar.leadWith
      split
      · rfl
      · exact congrArg (· :: _) (Tree.mapPlace_layout _ _)
      · rfl
    exact ⟨⟨by rw [left, left, same.eq]⟩, rfl⟩

end

namespace Likeness

variable {L : Likeness}

/-- The tokens at a place count for the same. -/
theorem Sees.current {first second : State} (sees : L.Sees first second) :
    L.detail.Alike first.current second.current := by
  obtain ⟨cut, left, right⟩ := sees.place
  rw [left.current, right.current]
  exact L.alike _ cut.current_mem

theorem Sees.bare {first second : State} (sees : L.Sees first second) :
    Same L.detail (Placement.bare first.current.location) (.bare second.current.location) := by
  have alike := sees.current
  cases detail : L.detail with
  | whole =>
    rw [detail] at alike
    rw [show first.current = second.current from alike]
    exact .refl _
  | bare => exact ⟨rfl⟩

theorem Sees.closing {first second : State} (sees : L.Sees first second) :
    L.detail.SameClosing first.current.leadingComments second.current.leadingComments := by
  have alike := sees.current
  cases detail : L.detail with
  | whole =>
    rw [detail] at alike
    exact congrArg Token.leadingComments alike
  | bare => rfl

end Likeness

instance startPlacement_mirrors {L : Likeness} :
    Mirrors L false (Grammar.startPlacement : Routine Placement)
    Grammar.startPlacement :=
  ⟨.bySight fun first second sees => .pure <| by
    have alike := sees.current
    cases detail : L.detail with
    | whole =>
      rw [detail] at alike
      rw [show first.current = second.current from alike]
      exact .refl _
    | bare => exact ⟨rfl⟩⟩

/-- Behind the first token the routine mirrors the parser. -/
def MirrorsBehind (L : Likeness) (like : α → α → Prop) (routine : Routine α) (parser : Parser α) :
    Prop :=
  ∀ session state, L.Meets session state → L.passed.length < session.position →
    MirrorsAt L session state false like routine parser

namespace MirrorsBehind

variable {L : Likeness} {moves : Bool} {like : α → α → Prop} {alike : β → β → Prop}
  {r : Routine α} {p : Parser α} {f : α → Routine β} {g : α → Parser β}

theorem of_mirrors (mirrors : MirrorsBy L false like r p) : MirrorsBehind L like r p :=
  fun session state meets _ => mirrors session state meets

theorem andThen (start : MirrorsBy L moves like r p)
    (later : ∀ a b, like a b → MirrorsBehind L alike (f a) (g b)) :
    MirrorsBehind L alike (r >>= f) (p >>= g) :=
  fun session state meets behind => (start session state meets).weaken.bindOn
    fun a b same after reached again extended _ =>
      later a b same after reached again (Nat.lt_of_lt_of_le behind extended.position)

section

variable [Viewed α]

theorem thenSame [Discrete α] [first : Mirrors L false r p]
    (later : ∀ value, MirrorsBehind L alike (f value) (g value)) :
    MirrorsBehind L alike (r >>= f) (p >>= g) :=
  andThen first.mirrors fun a _ same => by
    obtain rfl := same.to_eq
    exact later a

theorem thenPair [first : Mirrors L false r p]
    (later : ∀ pair : Likes L.detail α, MirrorsBehind L alike (f pair.fst) (g pair.snd)) :
    MirrorsBehind L alike (r >>= f) (p >>= g) :=
  andThen first.mirrors fun a b same => later ⟨a, b, same⟩

end

theorem choose {chosen : Bool} {yes no : Routine α} {yes' no' : Parser α}
    (first : MirrorsBehind L like yes yes') (second : MirrorsBehind L like no no') :
    MirrorsBehind L like (if chosen = true then yes else no)
      (if chosen = true then yes' else no') := by
  split
  · exact first
  · exact second

/-- The last comment is the same on both sides. -/
theorem trailing {f : Option String → Routine β} {g : Option String → Parser β}
    (later : ∀ a b, L.detail.SameComment a b → MirrorsBehind L alike (f a) (g b)) :
    MirrorsBehind L alike (Parser.trailingComment >>= f) (Parser.trailingComment >>= g) := by
  intro session state meets behind
  refine .lookThen rfl rfl (later _ _ ?_ session state meets behind)
  obtain ⟨pair, member, left, right⟩ := meets.previous behind
  rw [left, right]
  have same := L.alike pair member
  cases detail : L.detail with
  | whole =>
    rw [detail] at same
    exact congrArg Token.trailingComment same
  | bare => trivial

/-- The comment of a node that does not end in a node of its own kind. -/
theorem ownTrailing {nested other : Bool} (equal : nested = other) {f : Option String → Routine β}
    {g : Option String → Parser β}
    (later : ∀ a b, L.detail.SameComment a b → MirrorsBehind L alike (f a) (g b)) :
    MirrorsBehind L alike
      (if nested = true then pure none >>= f else Parser.trailingComment >>= f)
      (if other = true then pure none >>= g else Parser.trailingComment >>= g) := by
  subst equal
  refine choose ?_ (trailing later)
  refine later none none ?_
  cases L.detail
  · rfl
  · trivial

end MirrorsBehind

/-- What follows a routine that reads a token stands behind the first one. -/
theorem MirrorsAt.behindAt {L : Likeness} {session : Session} {state : State} {like : α → α → Prop}
    {alike : β → β → Prop} {r : Routine α} {p : Parser α} {f : α → Routine β} {g : α → Parser β}
    (start : MirrorsAt L session state true like r p) (meets : L.Meets session state)
    (later : ∀ a b, like a b → MirrorsBehind L alike (f a) (g b)) :
    MirrorsAt L session state true alike (r >>= f) (p >>= g) := by
  have begins : L.passed.length ≤ session.position := by
    obtain ⟨cut, position, _⟩ := meets.place
    rw [position]
    exact Nat.le_add_right ..
  exact start.bindOn fun a b same after reached again _ read =>
    later a b same after reached again (Nat.lt_of_le_of_lt begins (read rfl))

theorem MirrorsBy.behind {L : Likeness} {like : α → α → Prop} {alike : β → β → Prop}
    {r : Routine α} {p : Parser α} {f : α → Routine β} {g : α → Parser β}
    (start : MirrorsBy L true like r p)
    (later : ∀ a b, like a b → MirrorsBehind L alike (f a) (g b)) :
    MirrorsBy L true alike (r >>= f) (p >>= g) :=
  fun session state meets => (start session state meets).behindAt meets later

end CppSyntax
