import CppSyntax.Reader

/-!
Places in a stream of tokens and what reading can make of them. Reading goes from a place to the next
one and makes names known as types; it never goes back, and it never passes the end token.
-/

namespace CppSyntax.State

/-- The tokens from the current one on. -/
def tokens (state : State) : List Token := state.current :: state.following

/-- The last token is the end token. -/
def Ended (state : State) : Prop :=
  (state.tokens.getLast (List.cons_ne_nil _ _)).kind = .endOfFile

/-- The places behind a place. -/
inductive Reaches (start : State) : State → Prop where
  | refl : Reaches start start
  | next {state : State} (before : Reaches start state) : Reaches start state.next
  | declare {state : State} (ident : String) (before : Reaches start state) :
      Reaches start { state with typeNames := ident :: state.typeNames }

theorem inside_of_isAt {state : State} {mark : Punctuator} (isAt : state.isAt mark = true) :
    state.atEnd = false := by
  simp_all [State.isAt, atEnd]

theorem inside_of_isAtWord {state : State} {word : Keyword} (isAt : state.isAtWord word = true) :
    state.atEnd = false := by
  simp_all [isAtWord, atEnd]

theorem inside_of_kind {state : State} {kind : TokenKind} (known : state.kind = kind)
    (other : kind ≠ .endOfFile) : state.atEnd = false := by
  simp [atEnd, known, other]

theorem next_of_atEnd {state : State} (atEnd : state.atEnd = true) : state.next = state := by
  simp [next, atEnd]

theorem next_of_following {state : State} {token : Token} {rest : List Token}
    (inside : state.atEnd = false) (following : state.following = token :: rest) :
    state.next = { state with previous := some state.current, current := token, following := rest } := by
  simp [next, inside, following]

theorem Ended.following_ne_nil {state : State} (ended : state.Ended) (inside : state.atEnd = false) :
    state.following ≠ [] := by
  intro empty
  simp only [Ended, tokens, empty, List.getLast_singleton] at ended
  simp [atEnd, kind, ended] at inside

theorem Ended.next {state : State} (ended : state.Ended) : state.next.Ended := by
  cases inside : state.atEnd with
  | true => rwa [next_of_atEnd inside]
  | false =>
    cases following : state.following with
    | nil => exact absurd following (ended.following_ne_nil inside)
    | cons token rest =>
      rw [next_of_following inside following]
      simpa [Ended, tokens, following] using ended

theorem remaining_next_le (state : State) : state.next.remaining ≤ state.remaining := by
  unfold State.next
  split
  · exact Nat.le_refl _
  · split
    · exact Nat.le_refl _
    · rename_i token rest following
      simp [remaining, following]

theorem remaining_next_lt {state : State} (ended : state.Ended) (inside : state.atEnd = false) :
    state.next.remaining < state.remaining := by
  cases following : state.following with
  | nil => exact absurd following (ended.following_ne_nil inside)
  | cons token rest =>
    rw [next_of_following inside following]
    simp [remaining, following]

namespace Reaches

variable {first second third : State}

theorem trans (before : first.Reaches second) (after : second.Reaches third) :
    first.Reaches third := by
  induction after with
  | refl => exact before
  | next _ ih => exact ih.next
  | declare ident _ ih => exact ih.declare ident

theorem ended (reaches : first.Reaches second) (ended : first.Ended) : second.Ended := by
  induction reaches with
  | refl => exact ended
  | next _ ih => exact ih.next
  | declare _ _ ih => exact ih

theorem remaining_le (reaches : first.Reaches second) : second.remaining ≤ first.remaining := by
  induction reaches with
  | refl => exact Nat.le_refl _
  | next _ ih => exact Nat.le_trans (remaining_next_le _) ih
  | declare _ _ ih => exact ih

end Reaches

end CppSyntax.State
