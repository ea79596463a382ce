import CppSyntax.Proofs.Lexing.Layout
import CppSyntax.Proofs.Lexing.Order

/-!
Readings in a row. A reading is taken apart into rounds, each of which reads a piece of a gap or a token.
What a round can come to is said once; from it follows that every reading ends, after at most one round
more than it uses characters, and that one which fails uses a character. So only a few readings of a
source fail, and behind the first one that does not there is nothing left but the end.
-/

namespace CppSyntax

/-- The used characters lead from one place to the other. -/
structure Cursor.Leads (start : Cursor) (used : List Char) (stop : Cursor) : Prop where
  divides : used ++ stop.rest = start.rest
  location : stop.location = start.location.advance used

namespace Cursor.Leads

variable {start middle stop : Cursor} {used more : List Char}

theorem refl (place : Cursor) : place.Leads [] place := ⟨rfl, rfl⟩

theorem trans (first : start.Leads used middle) (second : middle.Leads more stop) :
    start.Leads (used ++ more) stop where
  divides := by rw [List.append_assoc, second.divides, first.divides]
  location := by rw [second.location, first.location, Location.advance_append]

theorem length (leads : start.Leads used stop) :
    used.length + stop.rest.length = start.rest.length := by
  rw [← leads.divides, List.length_append]

/-- The place behind a piece of a gap. -/
theorem piece {scan : Scan (Except LexFault GapPiece)}
    (found : GapPiece.first? start.rest = some scan) : start.Leads scan.used (start.past scan) :=
  ⟨(GapPiece.first?_divides found).1, rfl⟩

/-- The place behind a token. -/
theorem token {first : Char} {next : List Char} (front : start.rest = first :: next) :
    start.Leads (Token.scanKind start first next).used
      (Token.pastKind start first (Token.scanKind start first next)) := by
  obtain ⟨location, rest⟩ := Token.pastKind_location start first (Token.scanKind start first next)
  exact ⟨by rw [rest, front]; exact Token.scanKind_divides start first next, location⟩

end Cursor.Leads

namespace Token

/-- The only end token is the last one, and it stands at the place. -/
def EndAt (place : Location) (tokens : List Token) : Prop :=
  ∃ front last, tokens = front ++ [last] ∧ last.kind = .endOfFile ∧ last.location = place ∧
    ∀ token ∈ front, token.kind ≠ .endOfFile

/-- A result with some tokens ahead of those that were found. -/
def ahead (tokens : List Token) (result : Except LexError (List Token) × Cursor) :
    Except LexError (List Token) × Cursor :=
  (result.1.map (tokens ++ ·), result.2)

theorem ahead_nil (result : Except LexError (List Token) × Cursor) : ahead [] result = result := by
  cases result with
  | mk found stopped => cases found <;> rfl

theorem ahead_ahead (tokens more : List Token) (result : Except LexError (List Token) × Cursor) :
    ahead tokens (ahead more result) = ahead (tokens ++ more) result := by
  cases result with
  | mk found stopped => cases found <;> simp [ahead, Except.map]

/-- A reading between two rounds: the tokens that are complete, the last token found, the gap behind it
as far as it has been read, and the place. -/
structure Draft where
  complete : List Token
  last : Option Token
  gap : Gap
  cursor : Cursor

namespace Draft

/-- A reading that has just begun. -/
def opened (place : Cursor) : Draft := ⟨[], none, .empty, place⟩

/-- The tokens found, the last one with the comment that the gap leaves to it. -/
def tokens (draft : Draft) : List Token :=
  draft.complete ++ (draft.last.map ({ · with trailingComment := draft.gap.trailing })).toList

/-- A token behind the gap. The comment that trails it is not known yet. -/
def token (draft : Draft) (kind : TokenKind) (joint : Bool) : Token :=
  ⟨kind, draft.cursor.location, joint, draft.gap.leading, none, draft.gap.blankLine⟩

/-- Reads one more piece of the gap, or the token behind it, unless the reading is over. -/
def round (draft : Draft) : Draft ⊕ Except LexError (List Token) × Cursor :=
  match GapPiece.first? draft.cursor.rest with
  | some scan =>
    let past := draft.cursor.past scan
    match scan.value with
    | .error fault => .inr (.error ⟨fault, draft.cursor.location⟩, past)
    | .ok piece => .inl { draft with gap := draft.gap.add draft.last.isSome piece, cursor := past }
  | none =>
    match draft.cursor.rest with
    | [] => .inr (.ok (draft.tokens ++ [draft.token .endOfFile false]), draft.cursor)
    | first :: next =>
      let scan := scanKind draft.cursor first next
      let past := pastKind draft.cursor first scan
      match scan.value with
      | .error fault => .inr (.error ⟨fault, draft.cursor.location⟩, past)
      | .ok kind => .inl ⟨draft.tokens, some (draft.token kind (isJoint past.rest)), .empty, past⟩

/-- The result of a reading that is over after so many rounds at most. -/
def run : Nat → Draft → Option (Except LexError (List Token) × Cursor)
  | 0, _ => none
  | rounds + 1, draft =>
    match draft.round with
    | .inl next => next.run rounds
    | .inr result => some result

/-- What the reader makes of the rest of the text. -/
def result (draft : Draft) : Except LexError (List Token) × Cursor :=
  match Gap.read draft.last.isSome draft.gap draft.cursor with
  | (.error error, stopped) => (.error error, stopped)
  | (.ok gap, reached) => ahead { draft with gap }.tokens (readAfter gap reached)

theorem result_opened (place : Cursor) : (opened place).result = readAll place := by
  unfold result readAll
  dsimp only [opened, Option.isSome_none]
  cases Gap.read false .empty place with
  | mk found reached =>
    cases found with
    | error error => rfl
    | ok gap => exact ahead_nil _

theorem result_of_fault {draft : Draft} {error : LexError} {stopped : Cursor}
    (read : Gap.read draft.last.isSome draft.gap draft.cursor = (.error error, stopped)) :
    draft.result = (.error error, stopped) := by
  rw [result, read]

theorem result_of_gap {draft : Draft} {gap : Gap} {reached : Cursor}
    (read : Gap.read draft.last.isSome draft.gap draft.cursor = (.ok gap, reached)) :
    draft.result = ahead { draft with gap }.tokens (readAfter gap reached) := by
  rw [result, read]

/-- No token found so far is an end token. -/
def Inside (draft : Draft) : Prop :=
  ∀ token ∈ draft.complete ++ draft.last.toList, token.kind ≠ .endOfFile

theorem Inside.tokens {draft : Draft} (inside : draft.Inside) :
    ∀ token ∈ draft.tokens, token.kind ≠ .endOfFile := by
  intro token member
  rcases List.mem_append.mp member with member | member
  · exact inside token (List.mem_append_left _ member)
  · obtain ⟨last, found, rfl⟩ := Option.map_eq_some_iff.mp (Option.mem_toList.mp member)
    exact inside last (List.mem_append_right _ (Option.mem_toList.mpr found))

/-- What a round can come to: the reading goes on behind some characters with the same result, it ends
behind some with a fault, or it has reached the end of the text. -/
inductive ComesTo (draft : Draft) : Draft ⊕ Except LexError (List Token) × Cursor → Prop
  | onward {next : Draft} {used : List Char} (leads : draft.cursor.Leads used next.cursor)
      (nonempty : used ≠ []) (inside : draft.Inside → next.Inside)
      (result : draft.result = next.result) : ComesTo draft (.inl next)
  | fault {error : LexError} {stopped : Cursor} {used : List Char}
      (leads : draft.cursor.Leads used stopped) (nonempty : used ≠ [])
      (result : draft.result = (.error error, stopped)) :
      ComesTo draft (.inr (.error error, stopped))
  | ended {last : Token} (ended : draft.cursor.rest = []) (isEnd : last.kind = .endOfFile)
      (place : last.location = draft.cursor.location)
      (result : draft.result = (.ok (draft.tokens ++ [last]), draft.cursor)) :
      ComesTo draft (.inr (.ok (draft.tokens ++ [last]), draft.cursor))

theorem round_comesTo (draft : Draft) : draft.ComesTo draft.round := by
  fun_cases round draft with
  | case1 scan found past fault value =>
    exact .fault (.piece found) (GapPiece.first?_divides found).2
      (result_of_fault (Gap.read_fault found value))
  | case2 scan found past piece value =>
    refine .onward (.piece found) (GapPiece.first?_divides found).2 id ?_
    rw [result, Gap.read_piece found value]
    rfl
  | case3 solid ended =>
    refine .ended ended rfl rfl ?_
    rw [result_of_gap (Gap.read_solid solid), readAfter_nil ended]
    rfl
  | case4 solid first next front scan past fault value =>
    refine .fault (.token front) (scanKind_used _ _ _) ?_
    rw [result_of_gap (Gap.read_solid solid), readAfter_fault front value]
    rfl
  | case5 solid first next front scan past kind value =>
    refine .onward (.token front) (scanKind_used _ _ _) (fun inside => ?_) ?_
    · intro token member
      rcases List.mem_append.mp member with member | member
      · exact inside.tokens token member
      · cases List.mem_singleton.mp member
        exact (scanKind_spells _ _ _ kind value).1
    · -- The gap behind the token is left to the rounds that follow, and so is a fault in it.
      rw [result_of_gap (Gap.read_solid solid)]
      cases read : Gap.read true .empty past with
      | mk found reached =>
        cases found with
        | error error =>
          refine Eq.trans ?_ (Eq.symm (result_of_fault read))
          rw [readAfter_gapFault front value (congrArg Prod.fst read)]
          exact congrArg (Prod.mk _) (congrArg Prod.snd read)
        | ok after =>
          refine Eq.trans ?_ (Eq.symm (result_of_gap read))
          rw [readAfter_cons front value read]
          exact ahead_ahead draft.tokens [_] (readAfter after reached)

/-- The reading has used the characters when it is over: it takes at most one round more, it fails only
behind one of them, and it finds tokens only where the text ends. -/
structure Settles (draft : Draft) (used : List Char) (result : Except LexError (List Token) × Cursor) :
    Prop where
  returns : ∃ rounds ≤ used.length + 1, draft.run rounds = some result
  leads : draft.cursor.Leads used result.2
  failed : ∀ error, result.1 = .error error → used ≠ []
  succeeded : ∀ tokens, result.1 = .ok tokens → result.2.rest = [] ∧ EndAt result.2.location tokens

section

variable {draft next : Draft} {result : Except LexError (List Token) × Cursor}

theorem run_of_ends (ends : draft.round = .inr result) : draft.run 1 = some result := by
  rw [run, ends]

/-- A reading that goes on after a round. -/
theorem Settles.later {used more : List Char} (goesOn : draft.round = .inl next)
    (leads : draft.cursor.Leads used next.cursor) (nonempty : used ≠ [])
    (settles : next.Settles more result) : draft.Settles (used ++ more) result where
  returns := by
    obtain ⟨rounds, few, run⟩ := settles.returns
    have positive := List.length_pos_iff.mpr nonempty
    refine ⟨rounds + 1, ?_, ?_⟩
    · rw [List.length_append]
      omega
    · rw [Draft.run, goesOn]
      exact run
  leads := leads.trans settles.leads
  failed _ _ := List.append_ne_nil_of_left_ne_nil nonempty more
  succeeded := settles.succeeded

end

/-- Every reading ends: a round after which it goes on leaves less of the text. -/
theorem settles (draft : Draft) (inside : draft.Inside) : ∃ used, draft.Settles used draft.result := by
  have spec := draft.round_comesTo
  cases came : draft.round with
  | inl next =>
    rw [came] at spec
    cases spec with
    | onward leads nonempty inner same =>
      have shorter : next.cursor.rest.length < draft.cursor.rest.length := by
        have positive := List.length_pos_iff.mpr nonempty
        have length := leads.length
        omega
      obtain ⟨more, settles⟩ := next.settles (inner inside)
      exact ⟨_, same ▸ settles.later came leads nonempty⟩
  | inr result =>
    rw [came] at spec
    cases spec with
    | fault leads nonempty same =>
      rw [same]
      refine ⟨_, ⟨1, Nat.le_add_left 1 _, run_of_ends came⟩, leads, fun _ _ => nonempty, ?_⟩
      exact fun _ found => nomatch found
    | ended ended isEnd place same =>
      rw [same]
      refine ⟨[], ⟨1, Nat.le_refl _, run_of_ends came⟩, .refl _, (fun _ found => nomatch found), ?_⟩
      rintro tokens ⟨⟩
      exact ⟨ended, _, _, rfl, isEnd, place, inside.tokens⟩
termination_by draft.cursor.rest.length

end Draft

theorem readAll_settles (place : Cursor) :
    ∃ used, (Draft.opened place).Settles used (readAll place) := by
  rw [← Draft.result_opened]
  exact Draft.settles _ (fun _ member => nomatch member)

theorem readAll_ended {place : Cursor} (ended : place.rest = []) :
    readAll place = (.ok [⟨.endOfFile, place.location, false, [], none, false⟩], place) := by
  have solid : GapPiece.first? place.rest = none := by
    rw [ended]
    rfl
  rw [readAll, Gap.read_solid solid]
  exact readAfter_nil ended

theorem readTimes_succ (times : Nat) (place : Cursor) :
    readTimes (times + 1) place = (readAll place).1 :: readTimes times (readAll place).2 := rfl

theorem readTimes_ended {place : Cursor} (ended : place.rest = []) (times : Nat) :
    readTimes times place =
      List.replicate times (.ok [⟨.endOfFile, place.location, false, [], none, false⟩]) := by
  induction times with
  | zero => rfl
  | succ times ih => rw [readTimes_succ, readAll_ended ended, ih, List.replicate_succ]

/-- The place where the last of several readings in a row stops. -/
def stopAfter : Nat → Cursor → Cursor
  | 0, place => place
  | times + 1, place => (readAll (stopAfter times place)).2

theorem stopAfter_readAll (times : Nat) (place : Cursor) :
    stopAfter times (readAll place).2 = stopAfter (times + 1) place := by
  induction times with
  | zero => rfl
  | succ times ih => exact congrArg (fun stopped => (readAll stopped).2) ih

/-- One more reading starts where those before it stopped. -/
theorem readTimes_concat (times : Nat) (place : Cursor) :
    readTimes (times + 1) place = readTimes times place ++ [(readAll (stopAfter times place)).1] := by
  induction times generalizing place with
  | zero => rfl
  | succ times ih => rw [readTimes_succ, ih, stopAfter_readAll, readTimes_succ, List.cons_append]

/-- Some readings fail. The first one that does not finds tokens with the only end token behind them, and
each one after it finds that end token alone. -/
def Resumes (faults : List LexError) (answers : List (Except LexError (List Token))) : Prop :=
  answers = faults.map .error ∨
    ∃ front last later, answers = faults.map .error ++ .ok (front ++ [last]) ::
        List.replicate later (.ok [⟨.endOfFile, last.location, false, [], none, false⟩]) ∧
      last.kind = .endOfFile ∧ ∀ token ∈ front, token.kind ≠ .endOfFile

theorem Resumes.fault {faults : List LexError} {answers : List (Except LexError (List Token))}
    (resumes : Resumes faults answers) (error : LexError) :
    Resumes (error :: faults) (.error error :: answers) := by
  rcases resumes with rfl | ⟨front, last, later, rfl, isEnd, others⟩
  · exact .inl rfl
  · exact .inr ⟨front, last, later, rfl, isEnd, others⟩

theorem readTimes_resumes_from (times : Nat) (place : Cursor) :
    ∃ faults : List LexError, faults.length ≤ place.rest.length ∧
      Resumes faults (readTimes times place) := by
  induction times generalizing place with
  | zero => exact ⟨[], Nat.zero_le _, .inl rfl⟩
  | succ times ih =>
    obtain ⟨used, settles⟩ := readAll_settles place
    cases answered : readAll place with
    | mk answer stopped =>
      rw [answered] at settles
      have length : used.length + stopped.rest.length = place.rest.length := settles.leads.length
      rw [readTimes_succ, answered]
      cases answer with
      | error error =>
        have positive := List.length_pos_iff.mpr (settles.failed error rfl)
        obtain ⟨faults, few, resumes⟩ := ih stopped
        refine ⟨error :: faults, ?_, resumes.fault error⟩
        rw [List.length_cons]
        omega
      | ok tokens =>
        obtain ⟨ended, front, last, rfl, isEnd, location, others⟩ := settles.succeeded tokens rfl
        refine ⟨[], Nat.zero_le _, .inr ⟨front, last, times, ?_, isEnd, others⟩⟩
        rw [readTimes_ended ended, location]
        rfl

theorem length_rest_ofSource (source : String) :
    (Cursor.ofSource source).rest.length ≤ source.length := by
  unfold Cursor.ofSource
  split
  · rename_i rest marked
    rw [← String.length_toList, marked]
    exact Nat.le_succ _
  · exact Nat.le_of_eq String.length_toList

/-- **Readings can be resumed.** After any number of readings of a source, each of them started where the
one before it stopped, one more ends after at most one round more than it uses characters, and it has used
one if it fails. There are no more failures than characters; behind them come the tokens up to the only end
token, and then that end token alone, each time. -/
theorem readTimes_resumes (source : String) (times : Nat) :
    let start := Cursor.ofSource source
    let place := stopAfter times start
    (∃ used, (Draft.opened place).Settles used (readAll place)) ∧
      readTimes (times + 1) start = readTimes times start ++ [(readAll place).1] ∧
      ∃ faults : List LexError, faults.length ≤ source.length ∧
        Resumes faults (readTimes times start) := by
  intro start place
  obtain ⟨faults, few, resumes⟩ := readTimes_resumes_from times start
  exact ⟨readAll_settles place, readTimes_concat times start, faults,
    Nat.le_trans few (length_rest_ofSource source), resumes⟩

/-- A literal and a character that fail, then tokens behind both, and their end once more. -/
theorem readTimes_resumes_twoFaults :
    let source := "\"a\n@ y; // z\n"
    let start := Cursor.ofSource source
    let place := stopAfter 3 start
    (readTimes 4 start).map Except.toOption =
        [none, none,
          some [⟨.identifier "y", ⟨2, 3⟩, true, [], none, false⟩,
            ⟨.punctuator .semicolon, ⟨2, 4⟩, false, [], some "// z", false⟩,
            ⟨.endOfFile, ⟨3, 1⟩, false, [], none, false⟩],
          some [⟨.endOfFile, ⟨3, 1⟩, false, [], none, false⟩]] ∧
      (∃ used, (Draft.opened place).Settles used (readAll place)) ∧
      readTimes 4 start = readTimes 3 start ++ [(readAll place).1] ∧
      ∃ faults : List LexError, faults.length ≤ source.length ∧
        Resumes faults (readTimes 3 start) := by
  intro source start place
  exact ⟨by decide +kernel, readTimes_resumes source 3⟩

end Token

end CppSyntax
