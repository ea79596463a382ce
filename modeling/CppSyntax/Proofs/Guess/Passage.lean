import CppSyntax.Proofs.Expression.Brackets

/-!
The ways through tokens that no bracket around them is left on. Types and template arguments are tried
before it is known whether they are there, and what such a trial can pass over decides where it can
end: outside of brackets a type has few sorts of tokens, and template arguments hold no assignment
before a `?`.
-/

namespace CppSyntax

/-- What is read: a type, template arguments, or anything. -/
inductive Region where
  | type | argument | anything
deriving DecidableEq

/-- The tokens that no trial passes over. -/
def TokenKind.isStop : TokenKind → Bool
  | .punctuator mark => mark == .semicolon
  | kind => kind == .endOfFile

/-- The tokens that no template arguments go on past, unless behind a `?`. Assignments are no operators
in them. -/
def TokenKind.endsArgument : TokenKind → Bool
  | .punctuator mark => [.semicolon, .colon, .greaterEq].contains mark || mark.assignOp?.isSome
  | kind => kind == .endOfFile

/-- The tokens outside of brackets, besides the template arguments of a name. -/
def Region.allows : Region → TokenKind → Bool
  | .type, .identifier _ => true
  | .type, .punctuator mark => [.star, .ampersand, .andAnd, .tilde, .arrow].contains mark
  | .type, _ => false
  | .argument, kind =>
    kind != .punctuator .greater && kind != .punctuator .question && !kind.endsArgument
  | .anything, _ => true

/-- A way from some tokens on, so many brackets deep, to a place behind them. -/
inductive Passes : Region → Nat → List Glyph → Nat → List Glyph → Prop where
  | stay {region : Region} {depth : Nat} {glyphs : List Glyph} :
      Passes region depth glyphs depth glyphs
  | token {region : Region} {depth deep : Nat} {first : Glyph} {rest last : List Glyph}
      (noOpening : first.kind.opensBracket = false) (noClosing : first.kind.closesBracket = false)
      (goesOn : first.kind.isStop = false) (allowed : 0 < depth ∨ region.allows first.kind = true)
      (later : Passes region depth rest deep last) : Passes region depth (first :: rest) deep last
  | opening {region : Region} {depth deep : Nat} {first : Glyph} {rest last : List Glyph}
      (opens : first.kind.opensBracket = true) (later : Passes region (depth + 1) rest deep last) :
      Passes region depth (first :: rest) deep last
  | closing {region : Region} {depth deep : Nat} {first : Glyph} {rest last : List Glyph}
      (closes : first.kind.closesBracket = true) (later : Passes region depth rest deep last) :
      Passes region (depth + 1) (first :: rest) deep last
  | arguments {region : Region} {deep : Nat} {ident : String} {first less greater : Glyph}
      {inner rest last : List Glyph} (name : first.kind = .identifier ident)
      (opens : less.kind = .punctuator .less) (closes : greater.kind = .punctuator .greater)
      (inside : Passes .argument 0 inner 0 (greater :: rest))
      (later : Passes region 0 rest deep last) :
      Passes region 0 (first :: less :: inner) deep last
  | choice {deep : Nat} {first : Glyph} {rest middle last : List Glyph}
      (asks : first.kind = .punctuator .question) (inside : Passes .anything 0 rest 0 middle)
      (later : Passes .argument 0 middle deep last) : Passes .argument 0 (first :: rest) deep last

namespace Passes

variable {region other : Region} {depth deep deepest : Nat} {glyphs middle last : List Glyph}

theorem trans (first : Passes region depth glyphs deep middle)
    (second : Passes region deep middle deepest last) : Passes region depth glyphs deepest last := by
  induction first with
  | stay => exact second
  | token noOpening noClosing goesOn allowed _ ih =>
    exact .token noOpening noClosing goesOn allowed (ih second)
  | opening opens _ ih => exact .opening opens (ih second)
  | closing closes _ ih => exact .closing closes (ih second)
  | arguments name opens closes inside _ _ ih => exact .arguments name opens closes inside (ih second)
  | choice asks inside _ _ ih => exact .choice asks inside (ih second)

theorem mono (passes : Passes region depth glyphs deep last)
    (weaker : ∀ kind, region.allows kind = true → other.allows kind = true) :
    Passes other depth glyphs deep last := by
  induction passes with
  | stay => exact .stay
  | token noOpening noClosing goesOn allowed _ ih =>
    exact .token noOpening noClosing goesOn (allowed.imp_right (weaker _)) (ih weaker)
  | opening opens _ ih => exact .opening opens (ih weaker)
  | closing closes _ ih => exact .closing closes (ih weaker)
  | arguments name opens closes inside _ _ ih =>
    exact .arguments name opens closes inside (ih weaker)
  | choice asks inside _ _ ih =>
    cases other with
    | type => cases weaker (.punctuator .comma) rfl
    | argument => exact .choice asks inside (ih weaker)
    | anything =>
      exact .token (by rw [asks]; rfl) (by rw [asks]; rfl) (by rw [asks]; rfl) (.inr rfl)
        (inside.trans (ih weaker))

/-- Inside a bracket every way is open. -/
theorem inside (passes : Passes region depth glyphs deep last) :
    Passes other (depth + 1) glyphs (deep + 1) last := by
  induction passes with
  | stay => exact .stay
  | token noOpening noClosing goesOn _ _ ih =>
    exact .token noOpening noClosing goesOn (.inl (Nat.succ_pos _)) ih
  | opening opens _ ih => exact .opening opens ih
  | closing closes _ ih => exact .closing closes ih
  | arguments name opens closes _ _ ihInner ih =>
    refine .token (by rw [name]; rfl) (by rw [name]; rfl) (by rw [name]; rfl) (.inl (Nat.succ_pos _)) ?_
    refine .token (by rw [opens]; rfl) (by rw [opens]; rfl) (by rw [opens]; rfl)
      (.inl (Nat.succ_pos _)) (ihInner.trans ?_)
    exact .token (by rw [closes]; rfl) (by rw [closes]; rfl) (by rw [closes]; rfl)
      (.inl (Nat.succ_pos _)) ih
  | choice asks _ _ ihInner ih =>
    exact .token (by rw [asks]; rfl) (by rw [asks]; rfl) (by rw [asks]; rfl) (.inl (Nat.succ_pos _))
      (ihInner.trans ih)

end Passes

/-- Looks through the tokens for one outside of brackets that decides, up to the end of the bracket
around them. -/
def lookOutside (decides : Glyph → List Glyph → Option α) (closed : List Glyph → α) :
    Nat → List Glyph → α
  | _, [] => closed []
  | depth, first :: rest =>
    if first.kind.opensBracket then lookOutside decides closed (depth + 1) rest
    else if first.kind.closesBracket then
      match depth with
      | 0 => closed (first :: rest)
      | depth + 1 => lookOutside decides closed depth rest
    else
      match depth with
      | 0 => (decides first rest).getD (lookOutside decides closed 0 rest)
      | depth + 1 => lookOutside decides closed (depth + 1) rest

section

variable {decides : Glyph → List Glyph → Option α} {closed : List Glyph → α} {depth : Nat}
  {first : Glyph} {front rest : List Glyph}

theorem lookOutside_opening (opens : first.kind.opensBracket = true) :
    lookOutside decides closed depth (first :: rest) =
      lookOutside decides closed (depth + 1) rest := by
  rw [lookOutside.eq_def]
  exact if_pos opens

theorem TokenKind.opensBracket_of_closes {kind : TokenKind} (closes : kind.closesBracket = true) :
    kind.opensBracket = false := by
  cases kind with
  | punctuator mark => cases mark <;> first | rfl | cases closes
  | _ => rfl

theorem lookOutside_closing (closes : first.kind.closesBracket = true) :
    lookOutside decides closed (depth + 1) (first :: rest) =
      lookOutside decides closed depth rest := by
  rw [lookOutside, if_neg (by simp [TokenKind.opensBracket_of_closes closes]), if_pos closes]

theorem lookOutside_closed (closes : first.kind.closesBracket = true) :
    lookOutside decides closed 0 (first :: rest) = closed (first :: rest) := by
  rw [lookOutside, if_neg (by simp [TokenKind.opensBracket_of_closes closes]), if_pos closes]

theorem lookOutside_inside (noOpening : first.kind.opensBracket = false)
    (noClosing : first.kind.closesBracket = false) :
    lookOutside decides closed (depth + 1) (first :: rest) =
      lookOutside decides closed (depth + 1) rest := by
  rw [lookOutside, if_neg (by simp [noOpening]), if_neg (by simp [noClosing])]

theorem lookOutside_token (noOpening : first.kind.opensBracket = false)
    (noClosing : first.kind.closesBracket = false) :
    lookOutside decides closed 0 (first :: rest) =
      (decides first rest).getD (lookOutside decides closed 0 rest) := by
  rw [lookOutside, if_neg (by simp [noOpening]), if_neg (by simp [noClosing])]

/-- Closed brackets inside of a bracket are passed over. -/
theorem lookOutside_bracketed {outside : TokenKind → Prop} (bracketed : Bracketed outside front) :
    lookOutside decides closed (depth + 1) (front ++ rest) =
      lookOutside decides closed (depth + 1) rest := by
  induction bracketed generalizing depth rest with
  | nil => rfl
  | token noOpening noClosing _ _ _ ih =>
    rw [List.cons_append, lookOutside_inside noOpening noClosing, ih]
  | group opens closes _ _ ihInside ih =>
    rw [List.cons_append, List.append_assoc, List.cons_append, lookOutside_opening opens, ihInside,
      lookOutside_closing closes, ih]

/-- So is a bracket that is closed again. -/
theorem lookOutside_group {opening closing : Glyph} {outside : TokenKind → Prop}
    (opens : opening.kind.opensBracket = true) (closes : closing.kind.closesBracket = true)
    (bracketed : Bracketed outside front) :
    lookOutside decides closed depth (opening :: (front ++ closing :: rest)) =
      lookOutside decides closed depth rest := by
  rw [lookOutside_opening opens, lookOutside_bracketed bracketed, lookOutside_closing closes]

end

/-- The rest from the bracket on that closes the one around the tokens. -/
def bracketEnd : Nat → List Glyph → List Glyph := lookOutside (fun _ _ => none) id

/-- Whether a `>` lies ahead. -/
def greaterAhead : Nat → List Glyph → Bool :=
  lookOutside (fun first _ =>
    if first.kind == .punctuator .greater then some true
    else if first.kind.isStop then some false
    else none) fun _ => false

/-- Whether template arguments may be closed ahead. A `>` before `>=` shifts and assigns. Behind `?`
assignments may stand, too. -/
def argumentsEnd : Nat → List Glyph → Bool :=
  lookOutside (fun first rest =>
    if first.kind == .punctuator .greater then
      some (rest.head?.map Glyph.kind != some (.punctuator .greaterEq))
    else if first.kind == .punctuator .question then some (greaterAhead 0 rest)
    else if first.kind.endsArgument then some false
    else none) fun _ => false

/-- Whether a token lies ahead that a type does not pass over. -/
def leavesType : Nat → List Glyph → Bool :=
  lookOutside (fun first rest =>
    if !Region.type.allows first.kind then some true
    else if rest.head?.map Glyph.kind == some (.punctuator .less) && argumentsEnd 0 rest then
      some false
    else none) fun _ => false

namespace Passes

variable {region : Region} {depth deep : Nat} {glyphs last : List Glyph}

/-- A way leaves no bracket that it has not opened. -/
theorem bracketEnd_eq (passes : Passes region depth glyphs deep last) :
    bracketEnd depth glyphs = bracketEnd deep last := by
  have plain {depth : Nat} {first : Glyph} {rest : List Glyph}
      (noOpening : first.kind.opensBracket = false) (noClosing : first.kind.closesBracket = false) :
      bracketEnd depth (first :: rest) = bracketEnd depth rest := by
    cases depth with
    | zero => exact lookOutside_token noOpening noClosing
    | succ depth => exact lookOutside_inside noOpening noClosing
  induction passes with
  | stay => rfl
  | token noOpening noClosing _ _ _ ih => rw [plain noOpening noClosing, ih]
  | opening opens _ ih => exact (lookOutside_opening opens).trans ih
  | closing closes _ ih => exact (lookOutside_closing closes).trans ih
  | arguments name opens closes _ _ ihInside ih =>
    rw [plain (by rw [name]; rfl) (by rw [name]; rfl), plain (by rw [opens]; rfl) (by rw [opens]; rfl),
      ihInside, plain (by rw [closes]; rfl) (by rw [closes]; rfl), ih]
  | choice asks _ _ ihInside ih => rw [plain (by rw [asks]; rfl) (by rw [asks]; rfl), ihInside, ih]

end Passes

section

variable {first : Glyph} {rest : List Glyph}

theorem greaterAhead_token (noOpening : first.kind.opensBracket = false)
    (noClosing : first.kind.closesBracket = false) (other : first.kind ≠ .punctuator .greater)
    (goesOn : first.kind.isStop = false) :
    greaterAhead 0 (first :: rest) = greaterAhead 0 rest := by
  rw [greaterAhead, lookOutside_token noOpening noClosing, if_neg (by simp [other]),
    if_neg (by simp [goesOn])]
  rfl

theorem greaterAhead_greater (greater : first.kind = .punctuator .greater) :
    greaterAhead 0 (first :: rest) = true := by
  rw [greaterAhead, lookOutside_token (by rw [greater]; rfl) (by rw [greater]; rfl), greater]
  rfl

theorem greaterAhead_stop (stops : first.kind.isStop = true) :
    greaterAhead 0 (first :: rest) = false := by
  have plain : first.kind.opensBracket = false ∧ first.kind.closesBracket = false ∧
      first.kind ≠ .punctuator .greater := by
    cases kind : first.kind with
    | punctuator mark =>
      rw [kind] at stops
      cases mark <;> first | cases stops; done | exact ⟨rfl, rfl, by simp⟩
    | _ => exact ⟨rfl, rfl, by simp⟩
  rw [greaterAhead, lookOutside_token plain.1 plain.2.1, if_neg (by simp [plain.2.2]), if_pos stops]
  rfl

theorem argumentsEnd_token (noOpening : first.kind.opensBracket = false)
    (noClosing : first.kind.closesBracket = false)
    (allowed : Region.argument.allows first.kind = true) :
    argumentsEnd 0 (first :: rest) = argumentsEnd 0 rest := by
  simp only [Region.allows, Bool.and_eq_true, bne_iff_ne, ne_eq, Bool.not_eq_true'] at allowed
  rw [argumentsEnd, lookOutside_token noOpening noClosing, if_neg (by simp [allowed.1.1]),
    if_neg (by simp [allowed.1.2]), if_neg (by simp [allowed.2])]
  rfl

theorem argumentsEnd_question (asks : first.kind = .punctuator .question) :
    argumentsEnd 0 (first :: rest) = greaterAhead 0 rest := by
  rw [argumentsEnd, lookOutside_token (by rw [asks]; rfl) (by rw [asks]; rfl), asks]
  rfl

theorem argumentsEnd_greater (greater : first.kind = .punctuator .greater) :
    argumentsEnd 0 (first :: rest) =
      (rest.head?.map Glyph.kind != some (.punctuator .greaterEq)) := by
  rw [argumentsEnd, lookOutside_token (by rw [greater]; rfl) (by rw [greater]; rfl), greater]
  rfl

/-- Behind a token that is no operator there, template arguments do not go on. -/
theorem argumentsEnd_ends (ends : first.kind.endsArgument = true) :
    argumentsEnd 0 (first :: rest) = false := by
  have plain : first.kind.opensBracket = false ∧ first.kind.closesBracket = false ∧
      first.kind ≠ .punctuator .greater ∧ first.kind ≠ .punctuator .question := by
    cases kind : first.kind with
    | punctuator mark =>
      rw [kind] at ends
      cases mark <;> first | cases ends; done | exact ⟨rfl, rfl, by simp, by simp⟩
    | _ => exact ⟨rfl, rfl, by simp, by simp⟩
  rw [argumentsEnd, lookOutside_token plain.1 plain.2.1, if_neg (by simp [plain.2.2.1]),
    if_neg (by simp [plain.2.2.2]), if_pos ends]
  rfl

/-- Nothing closes template arguments but a `>`. -/
theorem argumentsEnd_of_greaterAhead {depth : Nat} {glyphs : List Glyph}
    (none : greaterAhead depth glyphs = false) : argumentsEnd depth glyphs = false := by
  induction glyphs generalizing depth with
  | nil => rfl
  | cons first rest ih =>
    by_cases opens : first.kind.opensBracket = true
    · exact (lookOutside_opening opens).trans (ih ((lookOutside_opening opens).symm.trans none))
    have noOpening := Bool.eq_false_iff.mpr opens
    by_cases closes : first.kind.closesBracket = true
    · cases depth with
      | zero => exact lookOutside_closed closes
      | succ depth =>
        exact (lookOutside_closing closes).trans (ih ((lookOutside_closing closes).symm.trans none))
    have noClosing := Bool.eq_false_iff.mpr closes
    cases depth with
    | succ depth =>
      exact (lookOutside_inside noOpening noClosing).trans
        (ih ((lookOutside_inside noOpening noClosing).symm.trans none))
    | zero =>
      have other : first.kind ≠ .punctuator .greater := by
        intro greater
        rw [greaterAhead_greater greater] at none
        cases none
      by_cases ends : first.kind.endsArgument = true
      · exact argumentsEnd_ends ends
      have goesOn : first.kind.isStop = false := by
        refine Bool.eq_false_iff.mpr fun stops => ends ?_
        cases kind : first.kind <;> simp_all [TokenKind.isStop, TokenKind.endsArgument]
      have later := (greaterAhead_token noOpening noClosing other goesOn).symm.trans none
      by_cases asks : first.kind = .punctuator .question
      · exact (argumentsEnd_question asks).trans later
      · refine (argumentsEnd_token noOpening noClosing ?_).trans (ih later)
        simp [Region.allows, other, asks, ends]

end

section

variable {first : Glyph} {rest : List Glyph}

theorem leavesType_other (noOpening : first.kind.opensBracket = false)
    (noClosing : first.kind.closesBracket = false)
    (other : Region.type.allows first.kind = false) : leavesType 0 (first :: rest) = true := by
  rw [leavesType, lookOutside_token noOpening noClosing, other]
  rfl

theorem leavesType_token (noOpening : first.kind.opensBracket = false)
    (noClosing : first.kind.closesBracket = false)
    (allowed : Region.type.allows first.kind = true)
    (shut : rest.head?.map Glyph.kind = some (.punctuator .less) → argumentsEnd 0 rest = false) :
    leavesType 0 (first :: rest) = leavesType 0 rest := by
  rw [leavesType, lookOutside_token noOpening noClosing, allowed]
  rw [if_neg (by simp), if_neg (by simpa using shut)]
  rfl

/-- Template arguments that may be closed ahead may belong to a type. -/
theorem leavesType_arguments (noOpening : first.kind.opensBracket = false)
    (noClosing : first.kind.closesBracket = false)
    (allowed : Region.type.allows first.kind = true)
    (less : rest.head?.map Glyph.kind = some (.punctuator .less))
    (ends : argumentsEnd 0 rest = true) : leavesType 0 (first :: rest) = false := by
  rw [leavesType, lookOutside_token noOpening noClosing, allowed]
  rw [if_neg (by simp), if_pos (by simp [less, ends])]
  rfl

end

namespace Passes

variable {region : Region} {depth deep : Nat} {glyphs last : List Glyph}

/-- No way leads to a `>` if none lies ahead. -/
theorem greaterAhead_eq (passes : Passes region depth glyphs deep last)
    (none : greaterAhead depth glyphs = false) : greaterAhead deep last = false := by
  have noGreater {first : Glyph} {rest : List Glyph} (none : greaterAhead 0 (first :: rest) = false) :
      first.kind ≠ .punctuator .greater := by
    intro greater
    rw [greaterAhead_greater greater] at none
    cases none
  induction passes with
  | stay => exact none
  | @token _ depth _ first _ _ noOpening noClosing goesOn _ _ ih =>
    refine ih ?_
    cases depth with
    | zero => rwa [greaterAhead_token noOpening noClosing (noGreater none) goesOn] at none
    | succ depth => exact (lookOutside_inside noOpening noClosing).symm.trans none
  | opening opens _ ih => exact ih ((lookOutside_opening opens).symm.trans none)
  | closing closes _ ih => exact ih ((lookOutside_closing closes).symm.trans none)
  | arguments name opens closes _ _ ihInside =>
    rw [greaterAhead_token (by rw [name]; rfl) (by rw [name]; rfl) (by simp [name]) (by rw [name]; rfl),
      greaterAhead_token (by rw [opens]; rfl) (by rw [opens]; rfl) (by simp [opens])
        (by rw [opens]; rfl)] at none
    exact absurd closes (noGreater (ihInside none))
  | choice asks _ _ ihInside ih =>
    rw [greaterAhead_token (by rw [asks]; rfl) (by rw [asks]; rfl) (by simp [asks])
      (by rw [asks]; rfl)] at none
    exact ih (ihInside none)

/-- What is read as template arguments does not get to where they may be closed, if they may not be
closed ahead. -/
theorem argumentsEnd_eq (passes : Passes region depth glyphs deep last)
    (argument : region = .argument) (never : argumentsEnd depth glyphs = false) :
    argumentsEnd deep last = false := by
  induction passes with
  | stay => exact never
  | @token _ depth _ first _ _ noOpening noClosing _ allowed _ ih =>
    refine ih argument ?_
    cases depth with
    | zero =>
      subst argument
      rwa [argumentsEnd_token noOpening noClosing (allowed.resolve_left (Nat.lt_irrefl 0))] at never
    | succ depth => exact (lookOutside_inside noOpening noClosing).symm.trans never
  | opening opens _ ih => exact ih argument ((lookOutside_opening opens).symm.trans never)
  | closing closes _ ih => exact ih argument ((lookOutside_closing closes).symm.trans never)
  | @arguments _ _ ident first less greater inner rest last name opens closes _ _ ihInside ih =>
    refine ih argument ?_
    rw [argumentsEnd_token (by rw [name]; rfl) (by rw [name]; rfl) (by rw [name]; rfl),
      argumentsEnd_token (by rw [opens]; rfl) (by rw [opens]; rfl) (by rw [opens]; rfl)] at never
    have behind := ihInside rfl never
    rw [argumentsEnd_greater closes] at behind
    cases rest with
    | nil => rfl
    | cons next rest =>
      have assigns : next.kind = .punctuator .greaterEq := by simpa using behind
      exact argumentsEnd_ends (by rw [assigns]; rfl)
  | choice asks inside _ _ ih =>
    rw [argumentsEnd_question asks] at never
    exact ih rfl (argumentsEnd_of_greaterAhead (inside.greaterAhead_eq never))

/-- A type does not get past a token that no type has. -/
theorem leavesType_eq (passes : Passes region depth glyphs deep last) (type : region = .type)
    (leaves : leavesType depth glyphs = true) : leavesType deep last = true := by
  induction passes with
  | stay => exact leaves
  | @token _ depth _ first rest _ noOpening noClosing _ allowed _ ih =>
    refine ih type ?_
    cases depth with
    | succ depth => exact (lookOutside_inside noOpening noClosing).symm.trans leaves
    | zero =>
      subst type
      have allowed := allowed.resolve_left (Nat.lt_irrefl 0)
      rwa [leavesType_token noOpening noClosing allowed fun less => ?_] at leaves
      refine Bool.eq_false_iff.mpr fun ends => ?_
      rw [leavesType_arguments noOpening noClosing allowed less ends] at leaves
      cases leaves
  | opening opens _ ih => exact ih type ((lookOutside_opening opens).symm.trans leaves)
  | closing closes _ ih => exact ih type ((lookOutside_closing closes).symm.trans leaves)
  | @arguments _ _ ident first less greater inner rest last name opens closes inside _ _ ih =>
    refine ih type ?_
    have never : argumentsEnd 0 inner = false := by
      refine Bool.eq_false_iff.mpr fun ends => ?_
      rw [leavesType_arguments (by rw [name]; rfl) (by rw [name]; rfl) (by rw [name]; rfl)
        (by simp [opens]) (by rwa [argumentsEnd_token (by rw [opens]; rfl) (by rw [opens]; rfl)
          (by rw [opens]; rfl)])] at leaves
      cases leaves
    have behind := inside.argumentsEnd_eq rfl never
    rw [argumentsEnd_greater closes] at behind
    cases rest with
    | nil => cases behind
    | cons next rest =>
      have assigns : next.kind = .punctuator .greaterEq := by simpa using behind
      exact leavesType_other (by rw [assigns]; rfl) (by rw [assigns]; rfl) (by rw [assigns]; rfl)
  | choice => cases type

end Passes

end CppSyntax
