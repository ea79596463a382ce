import CppSyntax.Proofs.Parsing.Place
import CppSyntax.Proofs.Session.Inspection
import CppSyntax.Session

/-!
A session beside a parser. The two read texts whose tokens are alike one by one, each in its own way:
the session changes its surroundings and undoes it, the parser passes them down. Wherever they meet,
they see the same of their texts. A routine that mirrors a parser gives like answers and leaves the
two where they meet again, with nothing changed in the session but the cursor and the names that the
journal lists.
-/

namespace CppSyntax

/-- The tokens count for the same. Without the layout only the kinds count. -/
def Detail.Alike : Detail → Token → Token → Prop
  | .whole, first, second => first = second
  | .bare, first, second => first.kind = second.kind

/-- Two tokens that are one operator if nothing stands between them. -/
def TokenKind.Joins (first second : TokenKind) : Prop :=
  first = .punctuator .greater ∧ (second = .punctuator .greater ∨ second = .punctuator .greaterEq)

/-- The tokens of two texts side by side. The session may have read some others before them. -/
structure Likeness where
  detail : Detail
  passed : List Token
  pairs : List (Token × Token)
  alike : ∀ pair ∈ pairs, detail.Alike pair.1 pair.2
  joint : ∀ before pair next rest, pairs = before ++ pair :: next :: rest →
    pair.2.kind.Joins next.2.kind → pair.1.joint = pair.2.joint
  order : ∀ pair ∈ pairs, ∀ other ∈ pairs,
    pair.1.location.before other.1.location = pair.2.location.before other.2.location
  ended : ∀ pair, pairs.getLast? = some pair → pair.2.kind = .endOfFile

namespace Likeness

variable {L : Likeness}

theorem kind_eq {pair : Token × Token} (member : pair ∈ L.pairs) : pair.1.kind = pair.2.kind := by
  have alike := L.alike pair member
  cases detail : L.detail with
  | whole =>
    rw [detail] at alike
    exact congrArg Token.kind alike
  | bare =>
    rw [detail] at alike
    exact alike

/-- A place in both texts. -/
structure Cut (L : Likeness) where
  before : List (Token × Token)
  current : Token × Token
  rest : List (Token × Token)
  whole : L.pairs = before ++ current :: rest

/-- What a state on one side shows at a place. The token before the first one is left open. -/
structure Cut.Shows (cut : L.Cut) (side : Token × Token → Token) (state : State) : Prop where
  current : state.current = side cut.current
  following : state.following = cut.rest.map side
  previous : cut.before ≠ [] → state.previous = cut.before.getLast?.map side

/-- Both states show one place and know the same names. -/
structure Sees (L : Likeness) (first second : State) : Prop where
  place : ∃ cut : L.Cut, cut.Shows Prod.fst first ∧ cut.Shows Prod.snd second
  known : ∀ ident, ident ∈ first.typeNames ↔ ident ∈ second.typeNames

/-- A session stands where a parser does. -/
structure Meets (L : Likeness) (session : Session) (state : State) : Prop where
  tokens : session.tokens = L.passed ++ L.pairs.map Prod.fst
  place : ∃ cut : L.Cut, session.position = L.passed.length + cut.before.length ∧
    cut.Shows Prod.snd state
  known : ∀ ident, ident ∈ session.known ↔ ident ∈ state.typeNames

/-- The errors say the same about tokens of one index. -/
structure Reports (L : Likeness) (first second : SyntaxError) : Prop where
  expected : first.expected = second.expected
  found : first.found = second.found
  place : ∃ pair ∈ L.pairs, first.location = pair.1.location ∧ second.location = pair.2.location

end Likeness

/-- All that a routine may change in a session: the cursor goes on, and names that were not known are
added and listed. -/
structure Session.Extends (before after : Session) : Prop where
  tokens : after.tokens = before.tokens
  position : before.position ≤ after.position
  names : ∃ idents, after.journal = before.journal ++ idents ∧
    after.known = idents.reverse ++ before.known ∧ ∀ ident ∈ idents, ident ∉ before.known
  classes : after.classes = before.classes
  inTemplateArguments : after.inTemplateArguments = before.inTemplateArguments
  depth : after.depth = before.depth

theorem Session.state_typeNames (session : Session) : session.state.typeNames = session.known := by
  show (State.start session.known (session.tokens.drop session.position)).typeNames = _
  cases session.tokens.drop session.position <;> rfl

namespace Session.Extends

variable {first second third : Session}

theorem refl (session : Session) : session.Extends session :=
  ⟨rfl, Nat.le_refl _, ⟨[], by simp⟩, rfl, rfl, rfl⟩

theorem trans (before : first.Extends second) (after : second.Extends third) :
    first.Extends third := by
  obtain ⟨early, journal, known, new⟩ := before.names
  obtain ⟨late, journal', known', new'⟩ := after.names
  refine ⟨after.tokens.trans before.tokens, Nat.le_trans before.position after.position,
    ⟨early ++ late, ?_, ?_, ?_⟩, after.classes.trans before.classes,
    after.inTemplateArguments.trans before.inTemplateArguments, after.depth.trans before.depth⟩
  · rw [journal', journal, List.append_assoc]
  · rw [known', known, List.reverse_append, List.append_assoc]
  · intro ident member
    rcases List.mem_append.mp member with member | member
    · exact new ident member
    · exact fun old => new' ident member (known ▸ List.mem_append_right _ old)

theorem context (extended : first.Extends second) : second.context = first.context := by
  rw [Session.context, extended.classes, extended.inTemplateArguments, extended.depth]
  rfl

/-- Taking back all that was changed gives the session that was saved. -/
theorem rollBack (extended : first.Extends second) : second.rollBack first = first := by
  obtain ⟨idents, journal, known, new⟩ := extended.names
  have added : second.journal.drop first.journal.length = idents := by
    rw [journal, List.drop_left]
  have before : second.journal.take first.journal.length = first.journal := by
    rw [journal, List.take_left]
  have left : second.known.filter (!idents.contains ·) = first.known := by
    rw [known, List.filter_append, List.filter_eq_nil_iff.mpr, List.nil_append,
      List.filter_eq_self.mpr]
    · exact fun ident old => by simpa using fun member => new ident member old
    · exact fun ident member => by simpa using member
  have outer : second.classes.take first.classes.length = first.classes := by
    rw [extended.classes, List.take_length]
  cases first
  simp_all [Session.rollBack, extended.tokens, extended.depth]

end Session.Extends


namespace Likeness

variable {L : Likeness}

namespace Cut

variable (cut : L.Cut)

theorem current_mem : cut.current ∈ L.pairs := by simp [cut.whole]

/-- The pair some steps ahead; beyond the end it is the last one. -/
def ahead (steps : Nat) : Token × Token := (cut.rest.take steps).getLast?.getD cut.current

theorem ahead_mem (steps : Nat) : cut.ahead steps ∈ L.pairs := by
  unfold ahead
  cases found : (cut.rest.take steps).getLast? with
  | none => exact cut.current_mem
  | some pair =>
    have member := List.mem_of_mem_take (List.mem_of_getLast? found)
    simp [cut.whole, member]

theorem Shows.ahead {cut : L.Cut} {side : Token × Token → Token} {state : State}
    (shows : cut.Shows side state) (steps : Nat) : state.ahead steps = (side (cut.ahead steps)).kind := by
  unfold State.ahead Cut.ahead
  rw [shows.current, shows.following, ← List.map_take, List.getLast?_map]
  cases (cut.rest.take steps).getLast? <;> rfl

theorem Shows.kind {cut : L.Cut} {side : Token × Token → Token} {state : State}
    (shows : cut.Shows side state) : state.kind = (side cut.current).kind :=
  congrArg Token.kind shows.current

end Cut

namespace Sees

variable {first second : State}

theorem kind (sees : L.Sees first second) : first.kind = second.kind := by
  obtain ⟨cut, left, right⟩ := sees.place
  rw [left.kind, right.kind, kind_eq cut.current_mem]

theorem ahead (sees : L.Sees first second) (steps : Nat) : first.ahead steps = second.ahead steps := by
  obtain ⟨cut, left, right⟩ := sees.place
  rw [left.ahead, right.ahead, kind_eq (cut.ahead_mem steps)]

/-- Whether two tokens stand together is seen where they may be one operator. -/
theorem joint (sees : L.Sees first second) (joins : second.kind.Joins (second.ahead 1)) :
    first.current.joint = second.current.joint := by
  obtain ⟨cut, left, right⟩ := sees.place
  rw [right.kind, right.ahead] at joins
  rw [left.current, right.current]
  cases rest : cut.rest with
  | nil =>
    have last := L.ended cut.current (by rw [cut.whole, rest, List.getLast?_concat])
    simp [joins.1] at last
  | cons next rest' =>
    rw [show cut.ahead 1 = next by simp [Cut.ahead, rest]] at joins
    exact L.joint cut.before cut.current next rest' (by rw [cut.whole, rest]) joins

/-- Whether the two tokens here are one operator. -/
theorem joined (sees : L.Sees first second) {next : Punctuator}
    (here : second.kind = .punctuator .greater) (joins : next = .greater ∨ next = .greaterEq) :
    (first.current.joint && first.isAhead 1 next) =
      (second.current.joint && second.isAhead 1 next) := by
  rw [State.isAhead, sees.ahead, State.isAhead]
  cases ahead : second.ahead 1 == .punctuator next with
  | false => simp
  | true =>
    have known : second.ahead 1 = .punctuator next := by simpa using ahead
    rw [sees.joint ⟨here, by rw [known]; rcases joins with rfl | rfl <;> simp⟩]

/-- The kinds of all tokens from here on. -/
theorem following (sees : L.Sees first second) :
    first.following.map Token.kind = second.following.map Token.kind := by
  obtain ⟨cut, left, right⟩ := sees.place
  rw [left.following, right.following, List.map_map, List.map_map]
  refine List.map_congr_left fun pair member => kind_eq (L := L) ?_
  simp [cut.whole, member]

theorem atEnd (sees : L.Sees first second) : first.atEnd = second.atEnd := by
  rw [State.atEnd, sees.kind, State.atEnd]

end Sees

namespace Meets

variable {session : Session} {state : State}

/-- The place where the two meet, which both of them show. -/
theorem shown (meets : L.Meets session state) : ∃ cut : L.Cut,
    session.position = L.passed.length + cut.before.length ∧
      cut.Shows Prod.fst session.state ∧ cut.Shows Prod.snd state := by
  obtain ⟨cut, position, shows⟩ := meets.place
  have tokens : session.tokens.drop session.position = (cut.current :: cut.rest).map Prod.fst := by
    rw [meets.tokens, position, List.drop_append, cut.whole, List.map_append]
    simp
  refine ⟨cut, position, ⟨?_, ?_, fun later => ?_⟩, shows⟩
  · simp [Session.state, State.start, tokens]
  · simp [Session.state, State.start, tokens]
  · obtain ⟨front, last, split⟩ := List.eq_nil_or_concat cut.before |>.resolve_left later
    show session.previous = _
    have whole := cut.whole
    rw [split] at position whole ⊢
    rw [Session.previous, position, meets.tokens, whole]
    simp [Nat.add_sub_assoc]

theorem sees (meets : L.Meets session state) : L.Sees session.state state := by
  obtain ⟨cut, _, shows⟩ := meets.shown
  exact ⟨⟨cut, shows⟩, session.state_typeNames ▸ meets.known⟩

/-- Behind the first token both have read one pair last. -/
theorem previous (meets : L.Meets session state) (behind : L.passed.length < session.position) :
    ∃ pair ∈ L.pairs, session.state.previous = some pair.1 ∧ state.previous = some pair.2 := by
  obtain ⟨cut, position, left, right⟩ := meets.shown
  have later : cut.before ≠ [] := by
    intro empty
    rw [position, empty] at behind
    exact Nat.lt_irrefl _ behind
  obtain ⟨front, last, split⟩ := List.eq_nil_or_concat cut.before |>.resolve_left later
  refine ⟨last, by simp [cut.whole, split], ?_, ?_⟩
  · rw [left.previous later, split]
    simp
  · rw [right.previous later, split]
    simp

theorem advance (meets : L.Meets session state) :
    L.Meets session.advance state.next ∧ session.Extends session.advance ∧
      (state.atEnd = false → session.position < session.advance.position) := by
  unfold Session.advance
  rw [meets.sees.atEnd]
  cases atEnd : state.atEnd with
  | true =>
    rw [State.next_of_atEnd atEnd]
    exact ⟨meets, .refl _, nofun⟩
  | false =>
    obtain ⟨cut, position, shows⟩ := meets.place
    cases rest : cut.rest with
    | nil =>
      have last := L.ended cut.current (by rw [cut.whole, rest, List.getLast?_concat])
      simp [State.atEnd, shows.kind, last] at atEnd
    | cons next rest' =>
      have following : state.following = next.2 :: rest'.map Prod.snd := by
        rw [shows.following, rest, List.map_cons]
      have whole : L.pairs = (cut.before ++ [cut.current]) ++ next :: rest' := by
        rw [cut.whole, rest, List.append_assoc]
        rfl
      rw [State.next_of_following atEnd following]
      refine ⟨⟨meets.tokens, ⟨⟨_, _, _, whole⟩, ?_, rfl, rfl, fun _ => ?_⟩, meets.known⟩, ?_, ?_⟩
      · simp [position, Nat.add_assoc]
      · simp [shows.current]
      · exact ⟨rfl, Nat.le_succ _, ⟨[], by simp⟩, rfl, rfl, rfl⟩
      · exact fun _ => Nat.lt_succ_self _

theorem declare (meets : L.Meets session state) (ident : String) :
    L.Meets (session.declare ident)
        (if ident ∈ state.typeNames then state
          else { state with typeNames := ident :: state.typeNames }) ∧
      session.Extends (session.declare ident) := by
  unfold Session.declare
  by_cases known : ident ∈ state.typeNames
  · rw [if_pos known, if_pos ((meets.known ident).mpr known)]
    exact ⟨meets, .refl _⟩
  · have new : ident ∉ session.known := fun old => known ((meets.known ident).mp old)
    rw [if_neg known, if_neg new]
    obtain ⟨cut, position, shows⟩ := meets.place
    refine ⟨⟨meets.tokens, ⟨cut, position, shows.current, shows.following, shows.previous⟩,
      fun other => ?_⟩, rfl, Nat.le_refl _, ⟨[ident], rfl, rfl, ?_⟩, rfl, rfl, rfl⟩
    · simp [meets.known]
    · simpa using new

/-- The surroundings have no part in where they meet. -/
theorem surrounded {other : Session} (meets : L.Meets session state)
    (tokens : other.tokens = session.tokens) (position : other.position = session.position)
    (known : other.known = session.known) : L.Meets other state :=
  ⟨tokens.trans meets.tokens, position ▸ meets.place, known ▸ meets.known⟩

/-- The error at the place where they meet. -/
theorem error (meets : L.Meets session state) (expected : Expectation) :
    L.Reports (session.state.error expected) (state.error expected) := by
  obtain ⟨cut, left, right⟩ := meets.sees.place
  refine ⟨rfl, congrArg Finding.token meets.sees.kind, cut.current, cut.current_mem, ?_, ?_⟩
  · show session.state.current.location = _
    rw [left.current]
  · show state.current.location = _
    rw [right.current]

end Meets

end Likeness

end CppSyntax
