import CppSyntax.Proofs.Lexing.Division

/-!
Tokens stand in the order of their places: every token has a character, so that the next one starts
strictly behind it.
-/

namespace CppSyntax

namespace Location

variable {a b c : Location}

theorem before_iff : a.before b = true ↔ a.line < b.line ∨ a.line = b.line ∧ a.column < b.column := by
  simp [before]

theorem before_trans (first : a.before b = true) (second : b.before c = true) :
    a.before c = true := by
  rw [before_iff] at *
  omega

theorem not_before_self (place : Location) : place.before place = false := by
  simp [before]

theorem before_asymm (first : a.before b = true) : b.before a = false := by
  rw [← Bool.not_eq_true, before_iff]
  rw [before_iff] at first
  omega

theorem before_after (place : Location) (c : Char) : place.before (place.after c) = true := by
  rw [before_iff, after]
  split
  · exact .inl (Nat.lt_succ_self _)
  · exact .inr ⟨rfl, Nat.lt_succ_self _⟩

theorem before_advance (place : Location) {text : List Char} (nonempty : text ≠ []) :
    place.before (place.advance text) = true := by
  induction text generalizing place with
  | nil => exact absurd rfl nonempty
  | cons c rest ih =>
    cases rest with
    | nil => exact place.before_after c
    | cons d rest => exact before_trans (place.before_after c) (ih (place.after c) nofun)

end Location

namespace Token

/-- Each token starts behind those before it. -/
def InOrder (tokens : List Token) : Prop :=
  tokens.Pairwise fun first second => first.location.before second.location = true

theorem scanKind_used (cursor : Cursor) (first : Char) (next : List Char) :
    (scanKind cursor first next).used ≠ [] := by
  unfold scanKind
  split
  · rename_i starts
    have marked : first = '#' := by
      simp only [startsDirective, Bool.and_eq_true, beq_iff_eq] at starts
      exact starts.1
    exact Lexeme.directive_used (by simp [marked]) _
  · exact Lexeme.scan_used first next

private theorem pastKind_behind (cursor : Cursor) (first : Char) (next : List Char) :
    cursor.location.before
      (pastKind cursor first (scanKind cursor first next)).location = true := by
  have used := scanKind_used cursor first next
  unfold pastKind
  split
  · exact Location.before_advance _ used
  · exact Location.before_advance _ used

/-- The first token stands at the cursor and the others behind it, in order. -/
private theorem readAfter_inOrder {gap : Gap} {cursor : Cursor} {tokens : List Token}
    (read : (readAfter gap cursor).1 = .ok tokens) :
    InOrder tokens ∧ ∀ place : Location, place.before cursor.location = true →
      ∀ token ∈ tokens, place.before token.location = true := by
  fun_induction readAfter gap cursor generalizing tokens with
  | case1 gap cursor empty =>
    cases read
    refine ⟨List.pairwise_singleton .., fun place early token member => ?_⟩
    cases List.mem_singleton.mp member
    exact early
  | case2 => cases read
  | case3 => cases read
  | case4 gap cursor first next front scan past kind value after reached found token following =>
    rename_i stopped same ih
    cases following with
    | error fault => cases read
    | ok behind =>
      cases read
      obtain ⟨ordered, later⟩ : InOrder behind ∧ ∀ place : Location,
          place.before reached.location = true → ∀ token ∈ behind,
            place.before token.location = true := ih (congrArg Prod.fst same)
      have passed : cursor.location.before reached.location = true := by
        have behindToken : cursor.location.before past.location = true :=
          pastKind_behind cursor first next
        obtain ⟨parts, _, place, _⟩ := Gap.read_notes .empty found
        cases text : parts.flatMap GapPart.text with
        | nil =>
          rw [text] at place
          exact place ▸ behindToken
        | cons c rest =>
          rw [text] at place
          exact place ▸ Location.before_trans behindToken (Location.before_advance _ (by simp))
      refine ⟨List.pairwise_cons.mpr ⟨later _ passed, ordered⟩, fun place early other member => ?_⟩
      rcases List.mem_cons.mp member with rfl | member
      · exact early
      · exact later place (Location.before_trans early passed) other member

theorem ofSource_inOrder {source : String} {tokens : List Token}
    (lexed : ofSource source = .ok tokens) : InOrder tokens := by
  unfold ofSource readAll at lexed
  split at lexed
  · cases lexed
  · exact (readAfter_inOrder lexed).1

/-- Two tokens stand in the order of their indices. -/
theorem InOrder.before_iff {tokens : List Token} (ordered : InOrder tokens) {i j : Nat}
    {first second : Token} (left : tokens[i]? = some first) (right : tokens[j]? = some second) :
    first.location.before second.location = true ↔ i < j := by
  obtain ⟨insideI, rfl⟩ := List.getElem?_eq_some_iff.mp left
  obtain ⟨insideJ, rfl⟩ := List.getElem?_eq_some_iff.mp right
  have increasing := List.pairwise_iff_getElem.mp ordered
  refine ⟨fun before => ?_, increasing i j insideI insideJ⟩
  rcases Nat.lt_trichotomy i j with less | rfl | greater
  · exact less
  · rw [Location.not_before_self] at before
    cases before
  · rw [Location.before_asymm (increasing j i insideJ insideI greater)] at before
    cases before

end Token

end CppSyntax
