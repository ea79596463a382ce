import CppSyntax.Proofs.Gathering.Grammar.Name
import CppSyntax.Proofs.WellFormed.Grammar.Specifier

/-!
Specifiers. The comment behind an opening brace is handed to the first node inside, and the comments
before the closing brace are kept beside the nodes.
-/

set_option synthInstance.maxSize 4096

namespace CppSyntax

open CppSyntax.Parser

/-- The placement of a node that starts here, without what follows it. -/
def State.placement (state : State) : Placement :=
  ⟨state.current.location, state.current.leadingComments, none, state.current.blankLineBefore⟩

/-- The node records a placement between two places, the second one right behind a token. -/
def Tree.Spans (tree : Tree c) (start reached : State) : Prop :=
  ∃ place, tree.place? = some place ∧ place.Spans .inside start reached

namespace Placement

variable {stretch : Stretch} {start reached : State}

theorem spans_alone : start.placement.Spans stretch start reached :=
  ⟨rfl, .refl _, List.nil_sublist _⟩

theorem spans_trailing :
    ({ start.placement with trailingComment := reached.trailing } : Placement).Spans .inside start reached :=
  ⟨rfl, .refl _, .refl _⟩

theorem spans_bare : (bare start.current.location).Spans stretch start reached :=
  ⟨rfl, List.nil_sublist _, List.nil_sublist _⟩

end Placement

namespace Parser

theorem startPlacement_ensures (start : State) :
    (Grammar.startPlacement : Parser Placement).Ensures (· = start) fun place _ =>
      place = start.placement := by
  rintro context state rfl _ _ ⟨⟩
  rfl

theorem trailingComment_ensures {before : State → Prop} :
    (trailingComment : Parser (Option String)).Ensures before fun comment state =>
      comment = state.trailing := by
  rintro context state _ _ _ ⟨⟩
  rfl

/-- The comment behind a node is its own, unless the node ends in one that it belongs to. -/
theorem done_of_ownTrailing (start : State) {ends : Bool} {f : Option String → Parser α}
    {context : Context} {state reached : State} {value : α}
    (answered : (if ends then Pure.pure none >>= f else trailingComment >>= f) context state =
      .done value reached) :
    ∃ trailing, f trailing context state = .done value reached ∧
      ({ start.placement with trailingComment := trailing } : Placement).Spans
        (if ends then .behind else .inside) start state := by
  cases ends with
  | true => exact ⟨none, answered, Placement.spans_alone⟩
  | false => exact ⟨state.trailing, answered, Placement.spans_trailing⟩

end Parser

/-- A node is an item if its pieces stand between the places that its placement spans. -/
theorem Gathers.placed {p : Parser α} (tree : α → Tree c)
    (inner : GathersOf (fun _ => .inside) (fun value => (tree value).pieces) .fresh [] p)
    (spans : ∀ start, p.Ensures (· = start) fun value reached => (tree value).Spans start reached) :
    Gathers [] .whole (fun value => [.part (tree value).node]) p := by
  refine .ofAlone fun {context state reached value} ended answered => ?_
  obtain ⟨place, recorded, spanned⟩ := spans state context state rfl value reached answered
  exact .placed (inner.alone ended answered) (.inl rfl) recorded spanned

namespace Grammar

variable {g : Grammar Parser} [g.Gathering]

instance startPlacement_collects : Collects (startPlacement : Parser Placement) := by
  unfold Grammar.startPlacement
  exact .closed .fresh inferInstance

instance balancedTokens_collects (close : Punctuator) (expected : Expectation) :
    Collects (g.balancedTokens close expected) := by
  unfold Grammar.balancedTokens
  exact .closed .fresh inferInstance

instance attributeText_finishes : Finishes g.attributeText := by
  unfold Grammar.attributeText
  exact .closed .fresh inferInstance

instance alignmentText_finishes : Finishes g.alignmentText := by
  unfold Grammar.alignmentText
  exact .closed .fresh inferInstance

instance attributesAndAlignment_collects : Collects g.attributesAndAlignment := by
  unfold Grammar.attributesAndAlignment
  exact .closed .fresh inferInstance

instance decltype_finishes : Finishes g.decltype := by
  unfold Grammar.decltype
  exact .closed .fresh inferInstance

instance declaredTitle_collects : Collects g.declaredTitle := by
  unfold Grammar.declaredTitle
  exact .closed .fresh inferInstance

instance access_collects : Collects (access? : Parser (Option Access)) := by
  unfold Grammar.access?
  refine .closed .fresh (.byPlace fun state => ?_)
  split
  · split <;> infer_instance
  · infer_instance

instance baseSpecifier_finishes : Finishes g.baseSpecifier := by
  unfold Grammar.baseSpecifier
  exact .closed .fresh inferInstance

/-- What stands between braces: items and the comments behind them. -/
@[reducible] def enclosed (inside : List (Tree c) × List String) : List Piece :=
  piecesIn inside.1 ++ notes inside.2

theorem leadWith_remade (comment : Option String) (items : List (Tree c)) (closing : List String) :
    Remade (notes comment.toList ++ piecesIn items ++ notes closing)
      (enclosed (leadWith comment items closing)) := by
  cases comment with
  | none => exact .refl _
  | some comment =>
    cases items with
    | nil => exact .refl _
    | cons first rest =>
      have led : Remade (notes [comment] ++ piecesIn first)
          (piecesIn (first.mapPlace (·.precede comment))) := .led comment first
      simpa [leadWith, enclosed] using led.inFront (piecesIn rest ++ notes closing)

instance braced_gathers (construct : String) {items : Parser (List (Tree c))} [rows : Rows items] :
    Gathers [] .inside enclosed (braced construct items) := by
  refine .ofAlone fun {context state reached value} ended answered => ?_
  obtain ⟨_, opened, first, answered⟩ := Parser.done_of_bind answered
  obtain ⟨_, _, ⟨⟩, answered⟩ := Parser.done_of_bind answered
  obtain ⟨found, behind, read, answered⟩ := Parser.done_of_bind answered
  obtain ⟨_, _, ⟨⟩, answered⟩ := Parser.done_of_bind answered
  obtain ⟨_, _, last, ⟨⟩⟩ := Parser.done_of_bind answered
  obtain ⟨isAt, rfl⟩ := Parser.done_of_expect last
  have opening : Gathered .inside context.depth state opened [] := Gathers.expect.alone ended first
  have items : Gathered .whole context.depth opened behind (piecesIn found) :=
    rows.alone opening.ended read
  have before := opening.trailing.followed items inferInstance
  have closed := before.leading (State.inside_of_kind isAt nofun)
  exact closed.remade (leadWith_remade ..)

instance (priority := 10001) {after : α → Stretch} {pieces : α → List Piece}
    {stretch reached : Stretch} {given rest : List Piece} {p : Parser (List (Tree c) × List String)}
    {f : List (Tree c) × List String → Parser α} [first : First stretch given reached rest enclosed p]
    [later : ∀ items closing,
      GathersOf after pieces reached (rest ++ piecesIn items ++ notes closing) (f (items, closing))] :
    GathersOf after pieces stretch given (p >>= f) :=
  .next fun (items, closing) => by simpa using later items closing

instance (title : Option Name) (key : ClassKey) :
    Gathers [] .inside enclosed (g.classMembers title key) := by
  unfold Grammar.classMembers
  infer_instance

instance classSpecifier_collects (key : ClassKey) : Collects (g.classSpecifier key) := by
  unfold Grammar.classSpecifier
  exact .closed .fresh inferInstance

omit [g.Gathering] in
theorem enumerator_spans (start : State) : g.enumerator.Ensures (· = start) fun found reached =>
    found.1.Spans start reached := by
  unfold Grammar.enumerator
  refine .bind (startPlacement_ensures start) fun place => .assume fun same => ?_
  refine .bind .anything fun ident => .bind .anything fun assigned => ?_
  have later (value : Option Expr) : (do
      let more ← accept .comma
      let place := { place with trailingComment := ← trailingComment }
      return (.enumerator ident (.ofOption value) place, more) : Parser (Tree .enumerator × Bool)).Ensures
        (fun _ => True) fun found reached => found.1.Spans start reached := by
    refine .bind .anything fun more => .bind trailingComment_ensures fun trailing => .pure ?_
    rintro state rfl
    exact ⟨_, rfl, same ▸ Placement.spans_trailing⟩
  dsimp only
  exact .branch (fun _ => .bind .anything later) fun _ => .bind .anything later

instance enumerator_rows : Rows g.enumerator := by
  refine .placed Prod.fst ?_ enumerator_spans
  unfold Grammar.enumerator
  infer_instance

instance enumerators_finishes : Finishes g.enumerators := by
  unfold Grammar.enumerators
  exact .closed .fresh inferInstance

instance enumKey_collects : Collects (enumKey : Parser (Option ClassKey)) := by
  unfold Grammar.enumKey
  exact .closed .fresh inferInstance

instance enumSpecifier_collects : Collects g.enumSpecifier := by
  unfold Grammar.enumSpecifier
  exact .closed .fresh inferInstance

instance {specs : ParsedSpecifiers} {given before : List Piece}
    [made : Makes given (before ++ piecesIn specs)] : Makes given (before ++ piecesIn specs.type) :=
  made

instance {specs : ParsedSpecifiers} {given before : List Piece}
    [Makes given (before ++ piecesIn specs)] : Makes given (before ++ piecesIn specs.tree) := by
  unfold ParsedSpecifiers.tree
  infer_instance

instance specifiersType_makes {specs : ParsedSpecifiers} {type : TypeSpecifier} {given before : List Piece}
    [made : Makes given (before ++ piecesIn type)] :
    Makes given (before ++ piecesIn { specs with type := some type }) := by
  have same : piecesIn (some type) = piecesIn type := piecesIn_some
  exact made.of_eq (congrArg (before ++ ·) same)

/-- Other qualifiers leave a type made of the same pieces. -/
theorem qualify_remade (cv : Qualifiers) (type : TypeSpecifier) :
    Remade (piecesIn type) (piecesIn (type.qualify cv)) := by
  cases type <;> exact .replaced rfl rfl (by simp [Tree.parts, Tree.node, Category.isPlaced]) rfl

namespace SpecifierDraft

variable {draft other : SpecifierDraft} {given before : List Piece}

/-- The words of a builtin type have no pieces. -/
theorem words_remade (draft : SpecifierDraft) : Remade [] (piecesIn draft.wordType?) := by
  unfold wordType?
  split
  · exact .refl _
  · exact .built (.builtinType .none draft.words) rfl

theorem remade_type (draft : SpecifierDraft) : Remade (piecesIn draft) (piecesIn draft.specs.type) := by
  have both : piecesIn draft = piecesIn draft.specs.type ++ piecesIn draft.wordType? := piecesIn_pair
  exact both ▸ .leftOut ..

theorem type_remade (draft : SpecifierDraft) : Remade (piecesIn draft.specs.type) (piecesIn draft) := by
  have both : piecesIn draft = piecesIn draft.specs.type ++ piecesIn draft.wordType? := piecesIn_pair
  have made := draft.words_remade.behind (piecesIn draft.specs.type)
  rwa [List.append_nil, ← both] at made

theorem redrafted (made : Makes given (before ++ piecesIn draft))
    (same : other.specs.type = draft.specs.type) : Makes given (before ++ piecesIn other) := by
  have type := draft.remade_type
  rw [← same] at type
  exact ⟨made.remade.trans ((type.trans other.type_remade).behind before)⟩

/-- The type of finished specifiers is made of the draft. -/
theorem type?_remade (draft : SpecifierDraft) : Remade (piecesIn draft) (piecesIn draft.type?) := by
  unfold type?
  split
  · refine draft.remade_type.trans ?_
    cases draft.specs.type with
    | none => exact .refl _
    | some type => simpa using qualify_remade draft.cv type
  · exact .trans (.dropped _) (.built (.builtinType draft.cv draft.words) rfl)

instance [made : Makes given before] : Makes given (before ++ piecesIn empty) :=
  made.of_eq (List.append_nil _)

section

variable [made : Makes given (before ++ piecesIn draft)]

include made

instance : Makes given (before ++ piecesIn draft.sure) := redrafted made rfl

instance (text : String) : Makes given (before ++ piecesIn (draft.withAttribute text)) :=
  redrafted made rfl

instance (text : String) : Makes given (before ++ piecesIn (draft.withAlignment text)) :=
  redrafted made rfl

instance (modifier : Modifier) : Makes given (before ++ piecesIn (draft.withModifier modifier)) :=
  redrafted made rfl

instance (cv : Qualifiers) : Makes given (before ++ piecesIn { draft with cv }) := redrafted made rfl

instance (isTypedef : Bool) :
    Makes given (before ++ piecesIn { draft with specs := { draft.specs with isTypedef } }) :=
  redrafted made rfl

instance (words : List String) : Makes given (before ++ piecesIn { draft with words }) :=
  redrafted made rfl

end

instance draftType_makes (type : TypeSpecifier) [made : Makes given (before ++ piecesIn type)] :
    Makes given (before ++ piecesIn (draft.withType type)) := by
  have same : piecesIn (some type) = piecesIn type := piecesIn_some
  have drafted := (draft.withType type).type_remade
  exact ⟨made.remade.trans (.behind before (same ▸ drafted))⟩

end SpecifierDraft

theorem keywordType_collects {word : Keyword} {type : Parser TypeSpecifier}
    (found : g.keywordType word = some type) : Collects type := by
  unfold Grammar.keywordType at found
  split at found
  · cases found
    exact .closed .fresh inferInstance
  · cases found
    exact .closed .fresh inferInstance
  · cases found
    infer_instance
  · cases found
    exact .closed .fresh inferInstance
  · obtain ⟨key, _, rfl⟩ := Option.map_eq_some_iff.mp found
    infer_instance

instance keywordSpecifier_gathers (draft : SpecifierDraft) (word : Keyword) :
    Gathers (piecesIn draft) .fresh piecesIn (g.keywordSpecifier draft word) := by
  unfold Grammar.keywordSpecifier
  refine .kept fun stretch => .byPlace fun state => ?_
  dsimp only
  split
  · infer_instance
  split
  · infer_instance
  split
  · infer_instance
  split
  · infer_instance
  split
  · infer_instance
  split
  · infer_instance
  split
  · infer_instance
  split
  · split
    · rename_i type found
      have collects : Collects type := keywordType_collects found
      infer_instance
    · infer_instance
  · infer_instance

instance declaratorNameAhead_collects (scope : Scope) : Collects (g.declaratorNameAhead scope) := by
  unfold Grammar.declaratorNameAhead
  exact .closed .fresh inferInstance

instance namedSpecifier_gathers (scope : Scope) (draft : SpecifierDraft) :
    Gathers (piecesIn draft) .fresh piecesIn (g.namedSpecifier scope draft) := by
  unfold Grammar.namedSpecifier
  exact .kept fun _ => inferInstance

instance specifierStep_gathers (scope : Scope) (draft : SpecifierDraft) :
    Gathers (piecesIn draft) .fresh piecesIn (g.specifierStep scope draft) := by
  unfold Grammar.specifierStep
  refine .kept fun stretch => .byPlace fun state => ?_
  split <;> infer_instance

instance specifiersRule_collects (scope : Scope) : Collects (g.specifiersRule scope) := by
  unfold Grammar.specifiersRule
  refine .closed .fresh (.next fun draft => ?_)
  have finished := draft.type?_remade
  have kept : Remade (piecesIn draft) (piecesIn draft.specs) := draft.remade_type
  cases found : draft.type? with
  | none => exact .makeFirst kept inferInstance
  | some type =>
    rw [found, piecesIn_some] at finished
    exact .makeFirst finished inferInstance

end Grammar

end CppSyntax
