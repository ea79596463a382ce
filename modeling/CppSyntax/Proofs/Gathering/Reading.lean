import CppSyntax.Proofs.Gathering.Piece
import CppSyntax.Proofs.Parsing.Place

/-!
What is gathered between two places. Tokens are read one by one, pieces are put together, and items,
which are nodes with a placement, take the comments around them. The stretch between the places says
which comments at its ends are still free, so that no comment is taken twice.
-/

namespace CppSyntax

/-- How far the comments at the ends of a stretch of tokens are free. -/
inductive Stretch where
  /-- All of them are, as far as anything has been read. -/
  | fresh
  /-- A token has been read, and no item behind the last one. -/
  | inside
  /-- A token has been read, and then items. -/
  | behind
  /-- Items may stand at both ends. -/
  | whole
deriving DecidableEq

namespace Stretch

/-- The stretch with a token behind it. -/
@[reducible] def read : Stretch → Stretch
  | .whole => .whole
  | .fresh | .inside | .behind => .inside

/-- The stretch with an item behind it. -/
@[reducible] def ended : Stretch → Stretch
  | .whole => .whole
  | .fresh | .inside | .behind => .behind

/-- Both stretches in a row. -/
@[reducible] def join (first second : Stretch) : Stretch :=
  match second with
  | .fresh => first
  | .inside => first.read
  | .behind | .whole => first.ended

/-- An item may not follow where a token is missing in front of it. -/
class Joins (first second : Stretch) : Prop where
  apart : first = .fresh → second ≠ .whole

/-- What is free at the ends of the first stretch is free at those of the second one. -/
class Frees (first second : Stretch) : Prop where
  listed : first = second ∨ first = .inside ∨ second = .whole

end Stretch

namespace State

/-- The comment on the line of the last token. -/
def trailing (state : State) : Option String := state.previous.bind (·.trailingComment)

theorem Ended.next_inside {state : State} (ended : state.Ended) (inside : state.atEnd = false) :
    state.next.tokens = state.following ∧ state.next.previous = some state.current := by
  cases following : state.following with
  | nil => exact absurd following (ended.following_ne_nil inside)
  | cons token rest => simp [next_of_following inside following, tokens]

end State

/-- A placement of a node between two places takes no more comments than stand free there. -/
structure Placement.Spans (place : Placement) (stretch : Stretch) (start reached : State) : Prop where
  location : place.location = start.current.location
  leading : place.leadingComments.Sublist start.current.leadingComments
  trailing : place.trailingComment.toList.Sublist
    (if stretch = .inside then reached.trailing.toList else [])

/-- From the first place to the second one these pieces can be gathered, so deep in the nesting. -/
inductive Gathered : Stretch → Nat → State → State → List Piece → Prop where
  /- places -/
  | nothing {depth : Nat} {start : State} (ended : start.Ended) : Gathered .fresh depth start start []
  | declared {stretch : Stretch} {depth : Nat} {start state : State} {pieces : List Piece}
      (ident : String) (before : Gathered stretch depth start state pieces) :
      Gathered stretch depth start { state with typeNames := ident :: state.typeNames } pieces
  | token {stretch : Stretch} {depth : Nat} {start state : State} {pieces : List Piece}
      (before : Gathered stretch depth start state pieces) (inside : state.atEnd = false) :
      Gathered stretch.read depth start state.next pieces
  /- loose comments -/
  | trailing {depth : Nat} {start state : State} {pieces : List Piece}
      (before : Gathered .inside depth start state pieces) :
      Gathered .behind depth start state (pieces ++ notes state.trailing.toList)
  | leading {depth : Nat} {start state : State} {pieces : List Piece}
      (before : Gathered .behind depth start state pieces) (inside : state.atEnd = false) :
      Gathered .inside depth start state.next (pieces ++ notes state.current.leadingComments)
  /- pieces -/
  | remade {stretch : Stretch} {depth : Nat} {start state : State} {pieces others : List Piece}
      (before : Gathered stretch depth start state pieces) (remade : Remade pieces others) :
      Gathered stretch depth start state others
  | freed {first second : Stretch} {depth : Nat} {start state : State} {pieces : List Piece}
      (before : Gathered first depth start state pieces) (frees : first.Frees second) :
      Gathered second depth start state pieces
  | followed {first second : Stretch} {depth : Nat} {start state reached : State}
      {pieces more : List Piece} (before : Gathered first depth start state pieces)
      (after : Gathered second depth state reached more) (joins : first.Joins second) :
      Gathered (first.join second) depth start reached (pieces ++ more)
  /- items -/
  | placed {stretch : Stretch} {depth : Nat} {start reached : State} {c : Category} {tree : Tree c}
      {place : Placement} (inner : Gathered stretch depth start reached tree.pieces)
      (begun : stretch = .inside ∨ stretch = .behind) (recorded : tree.place? = some place)
      (spans : place.Spans stretch start reached) :
      Gathered .whole depth start reached [.part tree.node]
  /-- A declaration gives its placement to the statement made of it. -/
  | restated {depth : Nat} {start reached : State} {inner : Declaration}
      (declared : Gathered .whole depth start reached (Tree.declarationStatement inner).pieces) :
      Gathered .whole depth start reached [.part inner.asStatement.node]
  /- levels of nesting -/
  | deeper {stretch : Stretch} {depth : Nat} {start reached : State} {pieces : List Piece}
      (low : depth < Parser.nestingLimit) (inner : Gathered stretch (depth + 1) start reached pieces) :
      Gathered stretch depth start reached pieces
  | level {depth : Nat} {start reached : State} {node : Node} (low : depth < Parser.nestingLimit)
      (inner : Gathered .whole (depth + 1) start reached [.part node]) :
      Gathered .whole depth start reached [.level node]

namespace Stretch

variable {first second : Stretch}

instance : Frees first first := ⟨.inl rfl⟩

instance : Frees .inside second := ⟨.inr (.inl rfl)⟩

instance : Frees first .whole := ⟨.inr (.inr rfl)⟩

instance frees_read [frees : Frees first second] : Frees first.read second := by
  cases first with
  | whole => exact frees
  | fresh | inside | behind => infer_instance

instance : Frees first.read first.ended := by
  cases first <;> infer_instance

instance : Joins first .fresh := ⟨nofun⟩

instance : Joins first .inside := ⟨nofun⟩

instance : Joins first .behind := ⟨nofun⟩

instance : Joins .inside second := ⟨nofun⟩

instance : Joins .behind second := ⟨nofun⟩

instance : Joins .whole second := ⟨nofun⟩

instance : Joins first.read second := by
  cases first <;> exact ⟨nofun⟩

end Stretch

namespace Gathered

variable {stretch other : Stretch} {depth : Nat} {start state reached : State}
  {pieces more : List Piece}

theorem reaches (gathered : Gathered stretch depth start state pieces) : start.Reaches state := by
  induction gathered with
  | nothing => exact .refl
  | declared ident _ ih => exact ih.declare ident
  | token _ _ ih | leading _ _ ih => exact ih.next
  | followed _ _ _ ihBefore ihAfter => exact ihBefore.trans ihAfter
  | trailing _ ih | remade _ _ ih | freed _ _ ih | placed _ _ _ _ ih | restated _ ih | deeper _ _ ih
  | level _ _ ih => exact ih

theorem start_ended (gathered : Gathered stretch depth start state pieces) : start.Ended := by
  induction gathered with
  | nothing ended => exact ended
  | followed _ _ _ ih _ => exact ih
  | declared _ _ ih | token _ _ ih | leading _ _ ih | trailing _ ih | remade _ _ ih | freed _ _ ih
  | placed _ _ _ _ ih | restated _ ih | deeper _ _ ih | level _ _ ih => exact ih

theorem ended (gathered : Gathered stretch depth start state pieces) : state.Ended :=
  gathered.reaches.ended gathered.start_ended

/-- A step over the current token, which may be the end token. -/
theorem next (gathered : Gathered stretch depth start state pieces) :
    Gathered stretch depth start state.next pieces := by
  cases inside : state.atEnd with
  | true => rwa [State.next_of_atEnd inside]
  | false => exact (gathered.token inside).freed inferInstance

theorem withFree [frees : stretch.Frees other] (gathered : Gathered stretch depth start state pieces) :
    Gathered other depth start state pieces :=
  gathered.freed frees

end Gathered

end CppSyntax
