import CppSyntax.Proofs.Lexing.Layout
import CppSyntax.Proofs.Parsing.Fuel
import CppSyntax.Proofs.Session.Grammar.Statement

/-!
A session beside a reader of the tokens that it has left. The two see the very same tokens, so that the
session answers what the reader answers, and what it has read before has no part in it.
-/

namespace CppSyntax

/-- The cursor stands at a token, and the last token is the end token. -/
structure Session.Stands (session : Session) : Prop where
  inside : session.position < session.tokens.length
  ended : ∀ token, session.tokens.getLast? = some token → token.kind = .endOfFile

theorem State.ended_of_last {state : State} {token : Token}
    (last : state.tokens.getLast? = some token) (ended : token.kind = .endOfFile) : state.Ended := by
  have seen : state.tokens.getLast? = some _ :=
    List.getLast?_eq_some_getLast (List.cons_ne_nil _ _)
  exact (congrArg Token.kind (Option.some.inj (seen.symm.trans last))).trans ended

namespace Session.Stands

variable {session : Session}

theorem tokens_state (stands : session.Stands) :
    session.state.tokens = session.tokens.drop session.position := by
  have some := List.drop_eq_getElem_cons stands.inside
  unfold State.tokens Session.state State.start
  rw [some]

end Session.Stands

theorem Session.stands_of_source {source : String} {known : List String} {session : Session}
    (opened : ofSource source known = .ok session) : session.Stands := by
  unfold ofSource at opened
  split at opened
  · rename_i tokens lexed
    cases opened
    obtain ⟨front, last, rfl, atEnd⟩ := Token.ofSource_ended lexed
    refine ⟨by simp [fresh], fun token found => ?_⟩
    rw [show (fresh _ (front ++ [last])).tokens = front ++ [last] from rfl,
      List.getLast?_concat] at found
    cases found
    exact atEnd
  · cases opened

namespace Likeness

/-- What the session has left, beside itself. -/
def exact (session : Session) (stands : session.Stands) : Likeness where
  detail := .whole
  passed := session.tokens.take session.position
  pairs := (session.tokens.drop session.position).map fun token => (token, token)
  alike pair member := by
    obtain ⟨token, _, rfl⟩ := List.mem_map.mp member
    rfl
  joint before pair next rest whole _ := by
    have member : pair ∈ before ++ pair :: next :: rest := by simp
    obtain ⟨token, _, rfl⟩ := List.mem_map.mp (whole ▸ member)
    rfl
  order pair member other member' := by
    obtain ⟨token, _, rfl⟩ := List.mem_map.mp member
    obtain ⟨token', _, rfl⟩ := List.mem_map.mp member'
    rfl
  ended pair last := by
    rw [List.getLast?_map, List.getLast?_drop, if_neg (Nat.not_le_of_lt stands.inside)] at last
    obtain ⟨token, found, rfl⟩ := Option.map_eq_some_iff.mp last
    exact stands.ended token found

variable {session : Session} (stands : session.Stands)

/-- A state that shows the tokens that are left, with the same names known. -/
theorem exact_meets {state : State}
    (tokens : state.tokens = session.tokens.drop session.position)
    (known : ∀ ident, ident ∈ session.known ↔ ident ∈ state.typeNames) :
    (exact session stands).Meets session state := by
  have whole : (exact session stands).pairs = [] ++ (state.current, state.current) ::
      state.following.map fun token => (token, token) := by
    show (session.tokens.drop session.position).map _ = _
    rw [← tokens]
    rfl
  refine ⟨?_, ⟨⟨_, _, _, whole⟩, ?_, rfl, ?_, fun later => absurd rfl later⟩, known⟩
  · show session.tokens = session.tokens.take session.position ++ List.map Prod.fst (List.map _ _)
    rw [List.map_map]
    show _ = _ ++ List.map id _
    rw [List.map_id, List.take_append_drop]
  · show session.position = (session.tokens.take session.position).length + 0
    rw [List.length_take, Nat.min_eq_left (Nat.le_of_lt stands.inside)]
    rfl
  · show _ = List.map Prod.snd (List.map _ _)
    rw [List.map_map]
    exact (List.map_id _).symm

theorem exact_meets_state : (exact session stands).Meets session session.state :=
  exact_meets stands stands.tokens_state fun ident => by rw [session.state_typeNames]

/-- Errors about the same tokens are the same. -/
theorem Reports.eq_of_exact {stands : session.Stands} {first second : SyntaxError}
    (reports : (exact session stands).Reports first second) : first = second := by
  obtain ⟨pair, member, left, right⟩ := reports.place
  obtain ⟨token, _, rfl⟩ := List.mem_map.mp member
  cases first
  cases second
  cases reports.expected
  cases reports.found
  cases left
  cases right
  rfl

end Likeness

theorem Likeness.Meets.remaining {L : Likeness} {session : Session} {state : State}
    (meets : L.Meets session state) : session.state.remaining = state.remaining := by
  have kinds := congrArg List.length meets.sees.following
  rw [List.length_map, List.length_map] at kinds
  rw [State.remaining, State.remaining, kinds]

theorem Likeness.Meets.ended {L : Likeness} {session : Session} {state : State}
    (meets : L.Meets session state) : state.Ended := by
  obtain ⟨cut, _, _, shows⟩ := meets.shown
  have tokens : state.tokens = (cut.current :: cut.rest).map Prod.snd := by
    rw [State.tokens, shows.current, shows.following, List.map_cons]
  obtain ⟨last, found⟩ : ∃ last, (cut.current :: cut.rest).getLast? = some last :=
    ⟨_, List.getLast?_eq_some_getLast (List.cons_ne_nil _ _)⟩
  have ended := L.ended last (by rw [cut.whole, List.getLast?_append, found, Option.some_or])
  have same : state.tokens.getLast? = some last.2 := by rw [tokens, List.getLast?_map, found]; rfl
  exact State.ended_of_last same ended

theorem Likeness.Meets.stands {L : Likeness} {session : Session} {state : State}
    (meets : L.Meets session state) : session.Stands := by
  obtain ⟨cut, position, _⟩ := meets.place
  have tokens : session.tokens =
      (L.passed ++ cut.before.map Prod.fst) ++ (cut.current :: cut.rest).map Prod.fst := by
    rw [meets.tokens, cut.whole, List.map_append, List.append_assoc]
  refine ⟨?_, fun token last => ?_⟩
  · rw [position, tokens]
    simp
  · obtain ⟨pair, found⟩ : ∃ pair, (cut.current :: cut.rest).getLast? = some pair :=
      ⟨_, List.getLast?_eq_some_getLast (List.cons_ne_nil _ _)⟩
    have whole : L.pairs.getLast? = some pair := by
      rw [cut.whole, List.getLast?_append, found, Option.some_or]
    rw [tokens, List.getLast?_append, List.getLast?_map, found] at last
    cases last
    rw [kind_eq (List.mem_of_getLast? whole), L.ended pair whole]

/-- Outside all surroundings, a routine that mirrors a parser is run like the parser by a reader. -/
theorem Likeness.Meets.run {L : Likeness} {session : Session} {state : State} [Viewed α]
    (meets : L.Meets session state) (top : session.context = .top)
    (routine : Grammar Routine → Routine α) (parser : Grammar Parser → Parser α)
    (mirrors : ∀ fuel, Mirrors L false (routine (.ofFuel fuel)) (parser (.ofFuel fuel)))
    (answers : ∀ supply : Supply, AnswersAt supply 16 Never state (parser supply.grammar)) :
    MirrorsBy.Tried L (Same L.detail · ·) (session.run routine).1 (Reader.run parser state).1 ∧
      L.Meets (session.run routine).2 (Reader.run parser state).2 ∧
      session.Extends (session.run routine).2 := by
  have fuel : Reader.fuel session.state = Reader.fuel state := by
    rw [Reader.fuel, meets.remaining, Reader.fuel]
  have goes := (mirrors (Reader.fuel state)).mirrors session state meets
  have settled := Reader.parser_settled meets.ended answers
  unfold MirrorsAt at goes
  unfold Session.run Reader.run
  rw [fuel]
  rw [top] at goes
  cases reply : parser (.ofFuel (Reader.fuel state)) .top state with
  | exhausted =>
    rw [reply] at settled
    exact settled.elim
  | done value reached =>
    rw [reply] at goes
    cases outcome : routine (.ofFuel (Reader.fuel state)) session with
    | exhausted =>
      rw [outcome] at goes
      exact goes.elim
    | answered result after =>
      rw [outcome] at goes
      cases result with
      | ok => exact ⟨goes.1, goes.2.1, goes.2.2.1⟩
      | error => exact goes.elim
  | failed error stopped =>
    rw [reply] at goes
    cases outcome : routine (.ofFuel (Reader.fuel state)) session with
    | exhausted =>
      rw [outcome] at goes
      exact goes.elim
    | answered result after =>
      rw [outcome] at goes
      cases result with
      | ok => exact goes.elim
      | error => exact ⟨goes.1, goes.2.1, goes.2.2⟩

/-- Beside a parser that sees the very same tokens, a routine gives the very same answer. -/
theorem Likeness.Meets.run_exact {start session : Session} {stands : start.Stands} {state : State}
    [Viewed α] (meets : (exact start stands).Meets session state) (top : session.context = .top)
    (routine : Grammar Routine → Routine α) (parser : Grammar Parser → Parser α)
    (mirrors : ∀ fuel, Mirrors (exact start stands) false (routine (.ofFuel fuel))
      (parser (.ofFuel fuel)))
    (answers : ∀ supply : Supply, AnswersAt supply 16 Never state (parser supply.grammar))
    (eq : ∀ value other : α, Same .whole value other → value = other) :
    (session.run routine).1 = (Reader.run parser state).1 ∧
      (exact start stands).Meets (session.run routine).2 (Reader.run parser state).2 ∧
      session.Extends (session.run routine).2 := by
  obtain ⟨tried, again, extended⟩ := meets.run top routine parser mirrors answers
  refine ⟨?_, again, extended⟩
  revert tried
  cases (session.run routine).1 <;> cases (Reader.run parser state).1 <;> intro tried
  · exact congrArg _ (Reports.eq_of_exact tried)
  · exact tried.elim
  · exact tried.elim
  · exact congrArg _ (eq _ _ tried)

end CppSyntax
