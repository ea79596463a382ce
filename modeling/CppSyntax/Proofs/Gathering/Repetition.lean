import CppSyntax.Proofs.Gathering.Order
import CppSyntax.Proofs.Gathering.Grammar.Statement
import CppSyntax.Proofs.Parsing.Supply

/-!
Loops that cannot spin. What has been gathered tells whether a token has been read, so that a
declaration, a statement and every repetition of a loop lead on to a later place, however much fuel
there is.
-/

set_option synthInstance.maxSize 4096

namespace CppSyntax

open CppSyntax.Parser Grammar

/-- A stretch on which a node records where it stands has a token. -/
theorem Gathered.remaining_lt_of_records {stretch : Stretch} {depth : Nat} {start reached : State}
    {pieces : List Piece} {node : Node} {location : Location}
    (gathered : Gathered stretch depth start reached pieces) (sorted : Token.InOrder start.tokens)
    (member : node ∈ nodesOf pieces) (records : node.Records location) :
    reached.remaining < start.remaining := by
  obtain ⟨notBefore, before⟩ := (gathered.inRow sorted).recorded node member location records
  refine Nat.lt_of_not_le fun further => ?_
  have same : reached.tokens = start.tokens := by
    refine gathered.reaches.tokens_suffix.eq_of_length_le ?_
    simp only [State.tokens, List.length_cons]
    simp only [State.remaining] at further
    omega
  rw [(List.cons.inj same).1, notBefore] at before
  cases before

/-- At this place the parser reads a token wherever it gives one of these values. -/
def Parser.ConsumesAt (place : State) (moves : α → Prop) (p : Parser α) : Prop :=
  ∀ ⦃context : Context⦄ ⦃reached : State⦄ ⦃value : α⦄, p context place = .done value reached →
    moves value → reached.remaining < place.remaining

/-- The parser does so wherever the tokens are in order and end in the end token. -/
def Parser.Consumes (moves : α → Prop) (p : Parser α) : Prop :=
  ∀ ⦃place : State⦄, place.Ended → Token.InOrder place.tokens → p.ConsumesAt place moves

namespace Parser.ConsumesAt

variable {place : State} {moves : β → Prop} {p : Parser α}

theorem stop {value : β} : ConsumesAt place GoesOn (pure (.inr value) : Parser (α ⊕ β)) := by
  intro context reached result answered goesOn
  cases answered
  cases goesOn

theorem here {f : State → Parser β} (there : (f place).ConsumesAt place moves) :
    ConsumesAt place moves (Parser.here >>= f) :=
  there

/-- The value that is read first decides what is answered. -/
theorem finish (read : p.ConsumesAt place Always) (f : α → β) :
    ConsumesAt place moves (p >>= fun value => pure (f value)) := by
  intro context reached result answered _
  obtain ⟨value, behind, first, ⟨⟩⟩ := Parser.done_of_bind answered
  exact read first trivial

/-- A parser that does not go back, and what reads a token behind it. -/
theorem behind {out : Stretch} {pieces : α → List Piece} {f : α → Parser β} (ended : place.Ended)
    (onward : Gathers [] out pieces p)
    (later : ∀ value reached, reached.Ended → (f value).ConsumesAt reached moves) :
    ConsumesAt place moves (p >>= f) := by
  intro context reached result answered moved
  obtain ⟨value, behind, first, rest⟩ := Parser.done_of_bind answered
  have reaches := (onward.alone ended first).reaches
  exact Nat.lt_of_lt_of_le (later value behind (reaches.ended ended) rest moved) reaches.remaining_le

theorem advance (ended : place.Ended) (inside : place.atEnd = false) :
    ConsumesAt place Always (Parser.advance : Parser Unit) := by
  rintro context _ _ ⟨⟩ _
  exact State.remaining_next_lt ended inside

/-- Going on takes the mark here. -/
theorem onlyBehind {mark : Punctuator} {yes : Parser (α ⊕ β)} {result : β} (ended : place.Ended)
    (onward : ∀ place : State, place.Ended → ∀ ⦃context value reached⦄,
      yes context place = .done value reached → reached.remaining ≤ place.remaining) :
    ConsumesAt place GoesOn
      (accept mark >>= fun more => if more = true then yes else pure (.inr result)) := by
  intro context reached value answered goesOn
  unfold accept at answered
  rw [acceptIf_then] at answered
  split at answered
  · have inside := State.inside_of_isAt ‹_›
    exact Nat.lt_of_le_of_lt (onward _ ended.next answered) (State.remaining_next_lt ended inside)
  · exact stop answered goesOn

theorem of_finishes {pieces : α → List Piece} (ended : place.Ended) (gathers : Gathers [] .inside pieces p) :
    p.ConsumesAt place Always :=
  fun _ _ _ answered _ => (gathers.alone ended answered).remaining_lt (.inl rfl)

end Parser.ConsumesAt

theorem GathersAt.consumes {place : State} {pieces : α → List Piece} {p : Parser α} (ended : place.Ended)
    (gathers : GathersAt place (fun _ => .inside) pieces .fresh [] p) : p.ConsumesAt place Always :=
  fun context _ _ answered _ =>
    have nothing : Gathered .fresh context.depth place place ([] ++ []) := .nothing ended
    (gathers.gathered nothing answered).remaining_lt (.inl rfl)

namespace Grammar

section

variable {m : Type → Type} [Monad m] [Reading m]

/-- One more item of those up to a closing mark. -/
def itemsStep (close : Punctuator) (item : m (Option α)) (items : List α) :
    m (List α ⊕ List α) := do
  let state ← here
  if state.isAt close || state.atEnd then return .inr items
  else return .inl (items ++ (← item).toList)

theorem itemsUntil_eq_loop (g : Grammar m) (close : Punctuator) (item : m (Option α)) :
    g.itemsUntil close item = g.loop (itemsStep close item) [] := rfl

/-- One more enumerator, unless the closing brace is reached. -/
def enumeratorStep (g : Grammar m) (items : List (Tree .enumerator)) :
    m (List (Tree .enumerator) ⊕ List (Tree .enumerator)) := do
  if (← here).isAt .rightBrace then return .inr items
  let (item, more) ← g.enumerator
  let items := items ++ [item]
  if more then return .inl items else return .inr items

theorem enumerators_eq_loop (g : Grammar m) : g.enumerators = (do
    expect .leftBrace "to open enum body"
    let items ← angleCloses false (g.loop g.enumeratorStep [])
    expect .rightBrace "to close enum body"
    return items) := rfl

/-- The steps that loops of the grammar repeat: the members of a class, a namespace or a linkage block,
the statements of a block, the enumerators, the items of a list, and the specifiers. -/
inductive Repeats (g : Grammar m) : {α β : Type} → (α → m (α ⊕ β)) → Prop
  | members (scope : Scope) : Repeats g (itemsStep .rightBrace (g.declaration scope))
  | statements : Repeats g (itemsStep .rightBrace (some <$> g.statement))
  | enumerators : Repeats g g.enumeratorStep
  | listItems (close : Punctuator) : Repeats g (g.listStep close)
  | specifiers (scope : Scope) : Repeats g (g.specifierStep scope)

end

variable {g : Grammar Parser} [gathering : g.Gathering]

theorem declaration_consumes (scope : Scope) : (g.declaration scope).Consumes Always := by
  intro place ended sorted context reached found answered _
  cases found with
  | none => exact (gathering.stray scope ended answered).remaining_lt (.inl rfl)
  | some inner =>
    have rows : Rows (g.declaration scope) := inferInstance
    cases inner with
    | declaration place form =>
      have own : (Tree.declaration place form).location? = some place.location := rfl
      exact (rows.alone ended answered).remaining_lt_of_records sorted (List.mem_singleton_self _)
        (Node.records_iff.mpr (.inl own))

theorem statement_consumes : g.statement.Consumes Always := by
  intro place ended sorted context reached statement answered _
  have rows : Rows g.statement := inferInstance
  cases statement with
  | statement place form =>
    have own : (Tree.statement place form).location? = some place.location := rfl
    exact (rows.alone ended answered).remaining_lt_of_records sorted (List.mem_singleton_self _)
      (Node.records_iff.mpr (.inl own))

theorem enumerator_consumes : g.enumerator.Consumes Always := by
  intro place ended sorted context reached found answered _
  have rows : Rows g.enumerator := inferInstance
  obtain ⟨item, more⟩ := found
  cases item with
  | enumerator ident value place =>
    have own : (Tree.enumerator ident value place).location? = some place.location := rfl
    exact (rows.alone ended answered).remaining_lt_of_records sorted (List.mem_singleton_self _)
      (Node.records_iff.mpr (.inl own))

/-- A type that a keyword introduces starts with this keyword. -/
theorem keywordType_gathers {word : Keyword} {type : Parser TypeSpecifier} {place : State}
    (found : g.keywordType word = some type) (inside : place.atEnd = false) :
    GathersAt place (fun _ => .inside) piecesIn .fresh [] type := by
  unfold Grammar.keywordType at found
  split at found
  · cases found
    exact .advance inside inferInstance
  · cases found
    exact .anywhere inferInstance
  · cases found
    unfold Grammar.enumSpecifier
    exact .anywhere (.nextPlain fun _ => .nextPlain fun key => inferInstance)
  · cases found
    exact .advance inside inferInstance
  · obtain ⟨key, _, rfl⟩ := Option.map_eq_some_iff.mp found
    unfold Grammar.classSpecifier
    exact .advance inside inferInstance

omit gathering in
theorem itemsStep_consumes (close : Punctuator) {item : Parser (Option α)}
    (consumes : item.Consumes Always) (items : List α) :
    (itemsStep close item items).Consumes GoesOn := by
  intro place ended sorted
  refine .here ?_
  split
  · exact .stop
  · exact .finish (consumes ended sorted) _

theorem enumeratorStep_consumes (items : List (Tree .enumerator)) :
    (g.enumeratorStep items).Consumes GoesOn := by
  intro place ended sorted
  refine .here ?_
  split
  · exact .stop
  · intro context reached value answered _
    obtain ⟨⟨item, more⟩, behind, read, answered⟩ := Parser.done_of_bind answered
    have further := enumerator_consumes ended sorted read trivial
    cases more <;> cases answered <;> exact further

/-- A list goes on behind a comma only. -/
theorem listStep_consumes (close : Punctuator) (items : List Expr) :
    (g.listStep close items).Consumes GoesOn := by
  intro place ended _
  refine .here ?_
  split
  · exact .stop
  refine .behind ended (inferInstance : Collects g.clause) fun item behind ended => ?_
  refine .behind ended (inferInstance : Collects (accept .ellipsis)) fun expanded behind ended => ?_
  refine .onlyBehind ended fun place _ context value reached answered => ?_
  cases answered
  exact Nat.le_refl _

theorem keywordSpecifier_consumes (draft : SpecifierDraft) (word : Keyword) {place : State}
    (ended : place.Ended) (inside : place.atEnd = false) :
    (g.keywordSpecifier draft word).ConsumesAt place GoesOn := by
  have next := ConsumesAt.advance ended inside
  unfold Grammar.keywordSpecifier
  refine .here ?_
  split
  · exact .stop
  split
  · exact .finish (.of_finishes ended (inferInstance : Finishes g.alignmentText)) _
  iterate 5
    split
    · exact .finish next _
  split
  · split
    · exact .finish ((keywordType_gathers ‹_› inside).consumes ended) _
    · exact .stop
  · exact .stop

theorem namedSpecifier_consumes (scope : Scope) (draft : SpecifierDraft) {place : State}
    (ended : place.Ended) : (g.namedSpecifier scope draft).ConsumesAt place GoesOn := by
  unfold Grammar.namedSpecifier
  split
  · exact .stop
  refine .behind ended (inferInstance : Collects (g.declaratorNameAhead scope))
    fun isName place ended => ?_
  split
  · exact .stop
  intro context reached value answered _
  obtain ⟨target, behind, read, answered⟩ := Parser.done_of_bind answered
  have further := ConsumesAt.of_finishes ended (inferInstance : Finishes g.name) read trivial
  obtain ⟨_, _, ⟨⟩, answered⟩ := Parser.done_of_bind answered
  dsimp only at answered
  split at answered <;> cases answered <;> exact further

/-- One more specifier has a token of its own. -/
theorem specifierStep_consumes (scope : Scope) (draft : SpecifierDraft) :
    (g.specifierStep scope draft).Consumes GoesOn := by
  intro place ended _
  refine .here ?_
  split
  · rename_i word known
    exact keywordSpecifier_consumes draft word ended (State.inside_of_kind known (by simp))
  · exact namedSpecifier_consumes scope draft ended
  · exact namedSpecifier_consumes scope draft ended
  · split
    · exact .finish (.of_finishes ended (inferInstance : Finishes g.attributeText)) _
    · exact .stop

/-- No repetition is for nothing. -/
theorem Repeats.consumes {step : α → Parser (α ⊕ β)} (repeats : g.Repeats step) (value : α) :
    (step value).Consumes GoesOn := by
  cases repeats with
  | members scope => exact itemsStep_consumes .rightBrace (declaration_consumes scope) value
  | statements =>
    refine itemsStep_consumes .rightBrace (fun place ended sorted => ?_) value
    exact .finish (statement_consumes ended sorted) some
  | enumerators => exact enumeratorStep_consumes value
  | listItems close => exact listStep_consumes close value
  | specifiers scope => exact specifierStep_consumes scope value

end Grammar

end CppSyntax
