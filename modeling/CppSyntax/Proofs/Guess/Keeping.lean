import CppSyntax.Proofs.Guess.Passage
import CppSyntax.Proofs.Parsing.Outcome

/-!
Parsers that keep to the brackets around them. A parser that gives a value has passed over tokens of
its region, and every bracket that it has opened is closed again. This is proved for the tokens of
expressions over names and numbers, where most forms of the language cannot come up.
-/

namespace CppSyntax

open CppSyntax.Parser

/-- A token of an expression over names and numbers, or one of those that may follow it. -/
def TokenKind.isOrdinary : TokenKind → Bool
  | .punctuator mark => !([.leftBrace, .scope, .semicolon, .ellipsis].contains mark)
  | kind => kind.isLeaf

/-- Ordinary tokens up to one that no trial passes over, none of them an attribute. -/
inductive Ordinary : List Glyph → Prop where
  | last {first : Glyph} {rest : List Glyph} (stops : first.kind.isStop = true) :
      Ordinary (first :: rest)
  | token {first : Glyph} {rest : List Glyph} (ordinary : first.kind.isOrdinary = true)
      (apart : first.kind = .punctuator .leftBracket →
        rest.head?.map Glyph.kind ≠ some (.punctuator .leftBracket))
      (later : Ordinary rest) : Ordinary (first :: rest)

theorem Ordinary.ne_nil {glyphs : List Glyph} (ordinary : Ordinary glyphs) : glyphs ≠ [] := by
  cases ordinary <;> exact List.cons_ne_nil _ _

theorem Ordinary.tail {first : Glyph} {rest : List Glyph} (ordinary : Ordinary (first :: rest))
    (goesOn : first.kind.isStop = false) : Ordinary rest := by
  cases ordinary with
  | last stops =>
    rw [goesOn] at stops
    cases stops
  | token _ _ later => exact later

theorem Ordinary.front {first : Glyph} {rest : List Glyph} (ordinary : Ordinary (first :: rest)) :
    first.kind.isStop = true ∨ first.kind.isOrdinary = true := by
  cases ordinary with
  | last stops => exact .inl stops
  | token is => exact .inr is

theorem Ordinary.apart {first : Glyph} {rest : List Glyph} (ordinary : Ordinary (first :: rest))
    (bracket : first.kind = .punctuator .leftBracket) :
    rest.head?.map Glyph.kind ≠ some (.punctuator .leftBracket) := by
  cases ordinary with
  | last stops =>
    rw [bracket] at stops
    cases stops
  | token _ apart => exact apart bracket

theorem TokenKind.ne_end_of_goesOn {kind : TokenKind} (goesOn : kind.isStop = false) :
    kind ≠ .endOfFile := by
  rintro rfl
  cases goesOn

theorem TokenKind.goesOn_of_bracket {kind : TokenKind}
    (bracket : kind.opensBracket = true ∨ kind.closesBracket = true) : kind.isStop = false := by
  cases kind with
  | punctuator mark => cases mark <;> first | rfl | rcases bracket with opens | closes <;> contradiction
  | _ => rcases bracket with opens | closes <;> contradiction

theorem Passes.ordinary {region : Region} {depth deep : Nat} {glyphs last : List Glyph}
    (passes : Passes region depth glyphs deep last) (ordinary : Ordinary glyphs) :
    Ordinary last := by
  induction passes with
  | stay => exact ordinary
  | token _ _ goesOn _ _ ih => exact ih (ordinary.tail goesOn)
  | opening opens _ ih => exact ih (ordinary.tail (TokenKind.goesOn_of_bracket (.inl opens)))
  | closing closes _ ih => exact ih (ordinary.tail (TokenKind.goesOn_of_bracket (.inr closes)))
  | arguments name opens closes _ _ ihInside ih =>
    have inner := (ordinary.tail (by rw [name]; rfl)).tail (by rw [opens]; rfl)
    exact ih ((ihInside inner).tail (by rw [closes]; rfl))
  | choice asks _ _ ihInside ih => exact ih (ihInside (ordinary.tail (by rw [asks]; rfl)))

/-- What reading a token makes of the number of brackets that are open. -/
inductive Region.Steps (region : Region) (kind : TokenKind) : Nat → Nat → Prop where
  | token {depth : Nat} (noOpening : kind.opensBracket = false)
      (noClosing : kind.closesBracket = false) (goesOn : kind.isStop = false)
      (allowed : 0 < depth ∨ region.allows kind = true) : region.Steps kind depth depth
  | opening {depth : Nat} (opens : kind.opensBracket = true) : region.Steps kind depth (depth + 1)
  | closing {depth : Nat} (closes : kind.closesBracket = true) : region.Steps kind (depth + 1) depth

namespace Region.Steps

variable {region : Region} {kind : TokenKind} {depth deep deepest : Nat}

theorem goesOn (steps : region.Steps kind depth deep) : kind.isStop = false := by
  cases steps with
  | token _ _ goesOn => exact goesOn
  | opening opens => exact TokenKind.goesOn_of_bracket (.inl opens)
  | closing closes => exact TokenKind.goesOn_of_bracket (.inr closes)

theorem passes {first : Glyph} {rest last : List Glyph} (steps : region.Steps first.kind depth deep)
    (later : Passes region deep rest deepest last) :
    Passes region depth (first :: rest) deepest last := by
  cases steps with
  | token noOpening noClosing goesOn allowed => exact .token noOpening noClosing goesOn allowed later
  | opening opens => exact .opening opens later
  | closing closes => exact .closing closes later

end Region.Steps

namespace State

variable {state : State}

/-- Ordinary tokens go on behind every one but the last. -/
theorem glyphs_ordinary (ordinary : Ordinary state.glyphs) (goesOn : state.kind.isStop = false) :
    state.glyphs = state.current.glyph :: state.next.glyphs := by
  have whole : state.glyphs = state.current.glyph :: state.following.map Token.glyph := rfl
  have rest := (whole ▸ ordinary).tail goesOn
  rw [whole, glyphs_next whole rest.ne_nil (TokenKind.ne_end_of_goesOn goesOn)]

theorem kind_ordinary (ordinary : Ordinary state.glyphs) :
    state.kind.isStop = true ∨ state.kind.isOrdinary = true :=
  ordinary.front

theorem kind_ne (ordinary : Ordinary state.glyphs) {kind : TokenKind} (goesOn : kind.isStop = false)
    (other : kind.isOrdinary = false) : state.kind ≠ kind := by
  rintro rfl
  rcases kind_ordinary ordinary with stops | is
  · rw [goesOn] at stops
    cases stops
  · rw [other] at is
    cases is

theorem isAt_ordinary {mark : Punctuator} (ordinary : Ordinary state.glyphs)
    (goesOn : (TokenKind.punctuator mark).isStop = false)
    (other : (TokenKind.punctuator mark).isOrdinary = false) : state.isAt mark = false := by
  simpa [isAt] using kind_ne ordinary goesOn other

theorem isAtWord_ordinary {word : Keyword} (ordinary : Ordinary state.glyphs)
    (other : (TokenKind.keyword word).isLeaf = false) : state.isAtWord word = false := by
  have noWord : state.kind ≠ .keyword word := kind_ne ordinary rfl other
  simpa [isAtWord] using noWord

theorem atAttribute_ordinary (ordinary : Ordinary state.glyphs) : state.atAttribute = false := by
  refine Bool.eq_false_iff.mpr fun opens => ?_
  simp only [atAttribute, Bool.and_eq_true] at opens
  have bracket : state.kind = .punctuator .leftBracket := by simpa [isAt] using opens.1
  have whole := glyphs_ordinary ordinary (by rw [bracket]; rfl)
  have next := ahead_one_of_glyphs (whole.trans (congrArg _ (rfl : state.next.glyphs =
    state.next.current.glyph :: state.next.following.map Token.glyph)))
  refine (whole ▸ ordinary).apart bracket ?_
  have second : state.next.current.glyph.kind = .punctuator .leftBracket := by
    simpa [isAhead, next] using opens.2
  exact congrArg some second

end State

/-- From this place, so many brackets deep, the parser gives a value only behind the last of them. -/
def Parser.Closes (p : Parser α) (context : Context) (region : Region) (depth : Nat) (state : State) :
    Prop :=
  Ordinary state.glyphs → ∀ value reached, p context state = .done value reached →
    CppSyntax.Passes region depth state.glyphs 0 reached.glyphs

/-- From every place the parser keeps to the brackets around it. -/
def Parser.Keeps (p : Parser α) (context : Context) (region : Region) : Prop :=
  ∀ state, p.Closes context region 0 state

/-- A way that closes its brackets is open at every depth. -/
theorem Passes.atDepth {region : Region} {glyphs last : List Glyph}
    (passes : Passes region 0 glyphs 0 last) (depth : Nat) :
    Passes region depth glyphs depth last := by
  induction depth with
  | zero => exact passes
  | succ depth ih => exact ih.inside

section

variable {context : Context} {state reached : State} {p : Parser α} {f : α → Parser β}

theorem Parser.done_of_bind {value : β} (answered : (p >>= f) context state = .done value reached) :
    ∃ middle place, p context state = .done middle place ∧
      f middle context place = .done value reached := by
  have answered : Parser.bind p f context state = .done value reached := answered
  unfold Parser.bind at answered
  cases reply : p context state with
  | done middle place =>
    rw [reply] at answered
    exact ⟨middle, place, rfl, answered⟩
  | failed | exhausted =>
    rw [reply] at answered
    cases answered

theorem Parser.acceptIf_then (passes : State → Bool) {f : Bool → Parser β} :
    (acceptIf passes >>= f) context state =
      if passes state then f true context state.next else f false context state := by
  show Parser.bind (acceptIf passes) f context state = _
  unfold Parser.bind
  rw [acceptIf_apply]
  cases passes state <;> rfl

theorem Parser.done_of_attempt {found : Option α}
    (answered : (attempt p : Parser _) context state = .done found reached) :
    (found = none ∧ reached = state) ∨
      ∃ value, found = some value ∧ p context state = .done value reached := by
  rw [attempt_apply] at answered
  cases reply : p context state with
  | done value place =>
    rw [reply] at answered
    cases answered
    exact .inr ⟨value, rfl, rfl⟩
  | failed error stopped =>
    rw [reply] at answered
    cases answered
    exact .inl ⟨rfl, rfl⟩
  | exhausted =>
    rw [reply] at answered
    cases answered

theorem Parser.done_of_expect {mark : Punctuator} {purpose : String} {value : Unit}
    (answered : (expect mark purpose : Parser _) context state = .done value reached) :
    state.kind = .punctuator mark ∧ reached = state.next := by
  rw [expect, accept, acceptIf_then] at answered
  cases isAt : state.isAt mark with
  | true =>
    rw [isAt] at answered
    cases answered
    exact ⟨by simpa [State.isAt] using isAt, rfl⟩
  | false =>
    rw [isAt] at answered
    cases answered

theorem Parser.done_of_expectIdentifier {purpose ident : String}
    (answered : (expectIdentifier purpose : Parser _) context state = .done ident reached) :
    state.kind = .identifier ident ∧ reached = state.next := by
  obtain ⟨found, place, looked, answered⟩ := done_of_bind answered
  unfold optionalIdentifier at looked
  cases known : state.kind with
  | identifier name =>
    obtain ⟨_, _, ⟨⟩, looked⟩ := done_of_bind looked
    rw [known] at looked
    cases looked
    cases answered
    exact ⟨rfl, rfl⟩
  | _ =>
    obtain ⟨_, _, ⟨⟩, looked⟩ := done_of_bind looked
    rw [known] at looked
    cases looked
    cases answered

end

namespace Parser.Closes

variable {context : Context} {region other : Region} {depth deep : Nat} {state : State}
  {p : Parser α} {f : α → Parser β} {q : Parser β}

theorem ordinarily (each : Ordinary state.glyphs → q.Closes context region depth state) :
    q.Closes context region depth state :=
  fun ordinary => each ordinary ordinary

theorem pure {value : β} : (Pure.pure value : Parser β).Closes context region 0 state := by
  rintro _ _ _ ⟨⟩
  exact .stay

theorem pureThen {value : α} (later : (f value).Closes context region depth state) :
    ((Pure.pure value : Parser α) >>= f).Closes context region depth state :=
  later

theorem failWith (error : SyntaxError) :
    (Parser.failWith error : Parser β).Closes context region depth state :=
  fun _ _ _ => nofun

theorem fail (expected : Expectation) :
    (Parser.fail expected : Parser β).Closes context region depth state :=
  fun _ _ _ => nofun

theorem here {f : State → Parser β} (each : (f state).Closes context region depth state) :
    (Parser.here >>= f).Closes context region depth state :=
  each

theorem byContext {f : Context → Parser β} (each : (f context).Closes context region depth state) :
    (Parser.context >>= f).Closes context region depth state :=
  each

theorem bind (keeps : p.Keeps context region)
    (later : ∀ value reached, (f value).Closes context region depth reached) :
    (p >>= f).Closes context region depth state := by
  intro ordinary result final answered
  obtain ⟨value, reached, first, second⟩ := done_of_bind answered
  have passes := keeps state ordinary value reached first
  exact (passes.atDepth depth).trans
    (later value reached (passes.ordinary ordinary) result final second)

/-- Inside a bracket, what is read matters no more. -/
theorem bindInside (keeps : p.Keeps context other)
    (later : ∀ value reached, (f value).Closes context region (depth + 1) reached) :
    (p >>= f).Closes context region (depth + 1) state := by
  intro ordinary result final answered
  obtain ⟨value, reached, first, second⟩ := done_of_bind answered
  have passes := keeps state ordinary value reached first
  exact (passes.atDepth depth).inside.trans
    (later value reached (passes.ordinary ordinary) result final second)

/-- What follows a parser of two parts follows the second part. -/
theorem assoc {g : α → Parser γ} {f : γ → Parser β}
    (each : (p >>= fun value => g value >>= f).Closes context region depth state) :
    ((p >>= g) >>= f).Closes context region depth state := by
  intro ordinary result final answered
  refine each ordinary result final ?_
  have same : ((p >>= g) >>= f) context state = (p >>= fun value => g value >>= f) context state := by
    show Parser.bind (Parser.bind p g) f context state =
      Parser.bind p (fun value => Parser.bind (g value) f) context state
    unfold Parser.bind
    cases p context state <;> rfl
  rwa [same] at answered

theorem failFirst {expected : Expectation} {f : α → Parser β} :
    ((Parser.fail expected : Parser α) >>= f).Closes context region depth state := by
  intro _ result final answered
  obtain ⟨_, _, impossible, _⟩ := done_of_bind answered
  cases impossible

theorem branch {condition : Prop} [Decidable condition] {no : Parser β}
    (yes : condition → q.Closes context region depth state)
    (otherwise : ¬ condition → no.Closes context region depth state) :
    (if condition then q else no).Closes context region depth state := by
  split
  · exact yes ‹_›
  · exact otherwise ‹_›

private theorem behindToken {f : Parser β} (ordinary : Ordinary state.glyphs)
    (steps : region.Steps state.kind depth deep)
    (later : f.Closes context region deep state.next) {result : β} {final : State}
    (answered : f context state.next = .done result final) :
    CppSyntax.Passes region depth state.glyphs 0 final.glyphs := by
  have whole := State.glyphs_ordinary ordinary steps.goesOn
  rw [whole] at ordinary ⊢
  exact Region.Steps.passes steps (later (ordinary.tail steps.goesOn) result final answered)

theorem advanceOnto {kind : TokenKind} {f : Unit → Parser β} (known : state.kind = kind)
    (steps : region.Steps kind depth deep)
    (later : (f ()).Closes context region deep state.next) :
    (Parser.advance >>= f).Closes context region depth state :=
  fun ordinary _ _ answered => behindToken ordinary (known ▸ steps) later answered

theorem advance {kind : TokenKind} {f : Unit → Parser β} (known : state.kind = kind)
    (steps : region.Steps kind depth deep)
    (later : ∀ reached, (f ()).Closes context region deep reached) :
    (Parser.advance >>= f).Closes context region depth state :=
  .advanceOnto known steps (later _)

/-- Two tokens of which the second one was seen ahead. -/
theorem advanceByTwo {first second : TokenKind} {f : Unit → Parser β} (known : state.kind = first)
    (ahead : state.ahead 1 = second) (steps : region.Steps first depth depth)
    (further : region.Steps second depth depth)
    (later : ∀ reached, (f ()).Closes context region depth reached) :
    (Parser.advanceBy 2 >>= f).Closes context region depth state := by
  refine .ordinarily fun ordinary => .assoc (.advanceOnto known steps ?_)
  have next : state.next.kind = second := by
    have whole := State.glyphs_ordinary ordinary (known ▸ steps.goesOn)
    exact (State.ahead_one_of_glyphs (whole.trans (congrArg _ (rfl : state.next.glyphs =
      state.next.current.glyph :: state.next.following.map Token.glyph)))).symm.trans ahead
  exact .assoc (.advance next further fun _ => later _)

theorem advanceByOne {kind : TokenKind} {f : Unit → Parser β} (known : state.kind = kind)
    (steps : region.Steps kind depth deep)
    (later : ∀ reached, (f ()).Closes context region deep reached) :
    (Parser.advanceBy 1 >>= f).Closes context region depth state :=
  .assoc (.advance known steps fun _ => later _)

theorem accept {mark : Punctuator} {f : Bool → Parser β}
    (steps : region.Steps (.punctuator mark) depth deep)
    (there : ∀ reached, (f true).Closes context region deep reached)
    (missing : (f false).Closes context region depth state) :
    (Parser.accept mark >>= f).Closes context region depth state := by
  intro ordinary result final answered
  rw [Parser.accept, acceptIf_then] at answered
  cases isAt : state.isAt mark with
  | true =>
    rw [isAt] at answered
    have kind : state.kind = .punctuator mark := by simpa [State.isAt] using isAt
    exact behindToken ordinary (kind ▸ steps) (there _) answered
  | false =>
    rw [isAt] at answered
    exact missing ordinary result final answered

/-- Behind `?` everything may stand, in template arguments as well. -/
theorem acceptQuestion {f : Bool → Parser β}
    (there : ∀ reached, (f true).Closes context .anything 0 reached)
    (missing : (f false).Closes context .argument 0 state) :
    (Parser.accept .question >>= f).Closes context .argument 0 state := by
  intro ordinary result final answered
  rw [Parser.accept, acceptIf_then] at answered
  cases isAt : state.isAt .question with
  | true =>
    rw [isAt] at answered
    have asks : state.kind = .punctuator .question := by simpa [State.isAt] using isAt
    have whole := State.glyphs_ordinary ordinary (by rw [asks]; rfl)
    rw [whole] at ordinary ⊢
    have behind : Ordinary state.next.glyphs := ordinary.tail (by
      rw [show state.current.glyph.kind = _ from asks]
      rfl)
    exact .choice asks (there _ behind result final answered) .stay
  | false =>
    rw [isAt] at answered
    exact missing ordinary result final answered

theorem acceptNever {mark : Punctuator} {f : Bool → Parser β}
    (goesOn : (TokenKind.punctuator mark).isStop = false)
    (other : (TokenKind.punctuator mark).isOrdinary = false)
    (missing : (f false).Closes context region depth state) :
    (Parser.accept mark >>= f).Closes context region depth state := by
  intro ordinary result final answered
  rw [Parser.accept, acceptIf_then] at answered
  rw [State.isAt_ordinary ordinary goesOn other] at answered
  exact missing ordinary result final answered

theorem acceptWord {word : Keyword} {f : Bool → Parser β}
    (steps : region.Steps (.keyword word) depth deep)
    (there : ∀ reached, (f true).Closes context region deep reached)
    (missing : (f false).Closes context region depth state) :
    (Parser.acceptWord word >>= f).Closes context region depth state := by
  intro ordinary result final answered
  rw [Parser.acceptWord, acceptIf_then] at answered
  cases isAt : state.isAtWord word with
  | true =>
    rw [isAt] at answered
    have kind : state.kind = .keyword word := by simpa [State.isAtWord] using isAt
    exact behindToken ordinary (kind ▸ steps) (there _) answered
  | false =>
    rw [isAt] at answered
    exact missing ordinary result final answered

theorem acceptWordNever {word : Keyword} {f : Bool → Parser β}
    (other : (TokenKind.keyword word).isLeaf = false)
    (missing : (f false).Closes context region depth state) :
    (Parser.acceptWord word >>= f).Closes context region depth state := by
  intro ordinary result final answered
  rw [Parser.acceptWord, acceptIf_then] at answered
  rw [State.isAtWord_ordinary ordinary other] at answered
  exact missing ordinary result final answered

theorem expect {mark : Punctuator} {purpose : String} {f : Unit → Parser β}
    (steps : region.Steps (.punctuator mark) depth deep)
    (later : ∀ reached, (f ()).Closes context region deep reached) :
    (Parser.expect mark purpose >>= f).Closes context region depth state :=
  .assoc (.accept steps later failFirst)

theorem expectNever {mark : Punctuator} {purpose : String} {f : Unit → Parser β}
    (goesOn : (TokenKind.punctuator mark).isStop = false)
    (other : (TokenKind.punctuator mark).isOrdinary = false) :
    (Parser.expect mark purpose >>= f).Closes context region depth state :=
  .assoc (.acceptNever goesOn other failFirst)

theorem attempt {f : Option α → Parser β} (keeps : p.Keeps context region)
    (found : ∀ value reached, (f (some value)).Closes context region depth reached)
    (missed : (f none).Closes context region depth state) :
    (Parser.attempt p >>= f).Closes context region depth state := by
  intro ordinary result final answered
  obtain ⟨value, reached, tried, second⟩ := done_of_bind answered
  obtain ⟨rfl, rfl⟩ | ⟨inner, rfl, first⟩ := done_of_attempt tried
  · exact missed ordinary result final second
  · have passes := keeps state ordinary inner reached first
    exact (passes.atDepth depth).trans
      (found inner reached (passes.ordinary ordinary) result final second)

/-- Looking ahead leaves the place as it is. -/
theorem lookahead {f : Option α → Parser β}
    (each : ∀ value, (f value).Closes context region depth state) :
    (Parser.lookahead p >>= f).Closes context region depth state := by
  intro ordinary result final answered
  obtain ⟨value, reached, first, second⟩ := done_of_bind answered
  rw [Parser.lookahead_apply] at first
  cases reply : p context state with
  | done inner stopped | failed error stopped =>
    rw [reply] at first
    cases first
    exact each _ ordinary result final second
  | exhausted =>
    rw [reply] at first
    cases first

end Parser.Closes

namespace Parser.Keeps

variable {context : Context} {region other : Region} {p : Parser α} {f : α → Parser β}

theorem mono (keeps : p.Keeps context region)
    (weaker : ∀ kind, region.allows kind = true → other.allows kind = true) : p.Keeps context other :=
  fun state ordinary value reached answered => (keeps state ordinary value reached answered).mono weaker

theorem anything (keeps : p.Keeps context region) : p.Keeps context .anything :=
  keeps.mono fun _ _ => rfl

theorem map {g : α → β} (keeps : p.Keeps context region) : (g <$> p).Keeps context region :=
  fun _ => .bind keeps fun _ _ => .pure

theorem iterate {step : α → Parser (α ⊕ β)} (each : ∀ value, (step value).Keeps context region)
    (fuel : Nat) (start : α) : (Parser.iterate step fuel start).Keeps context region := by
  induction fuel generalizing start with
  | zero => exact fun _ _ _ _ => nofun
  | succ fuel ih =>
    refine fun state => .bind (each start) fun result reached => ?_
    cases result with
    | inl again => exact ih again reached
    | inr result => exact .pure

theorem attempt (keeps : p.Keeps context region) : (Parser.attempt p : Parser _).Keeps context region := by
  intro state ordinary value reached answered
  obtain ⟨_, rfl⟩ | ⟨inner, _, read⟩ := done_of_attempt answered
  · exact .stay
  · exact keeps state ordinary inner reached read

theorem angleCloses {closes : Bool}
    (keeps : p.Keeps { context with inTemplateArguments := closes } region) :
    (Parser.angleCloses closes p : Parser α).Keeps context region :=
  keeps

theorem nested (keeps : p.Keeps { context with depth := context.depth + 1 } region) :
    (Parser.nested p : Parser α).Keeps context region := by
  refine fun state => .byContext (.branch (fun _ => .fail _) fun _ => ?_)
  exact keeps state

/-- An identifier belongs to every region. -/
theorem optionalIdentifier : (Parser.optionalIdentifier : Parser _).Keeps context region := by
  refine fun state => .here ?_
  split
  · rename_i ident name
    exact .advance name (.token rfl rfl rfl (.inr (by cases region <;> rfl))) fun _ => .pure
  · exact .pure

theorem expectIdentifier {purpose : String} :
    (Parser.expectIdentifier purpose : Parser _).Keeps context region := by
  refine fun state => .bind optionalIdentifier fun found reached => ?_
  cases found with
  | none => exact .fail _
  | some ident => exact .pure

end Parser.Keeps

end CppSyntax
