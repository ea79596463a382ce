import CppSyntax.Proofs.Parsing.Outcome
import CppSyntax.Grammar.Derivation

/-!
Builtin types. The words of one are read in any order and number up to a token that no specifier
starts with.
-/

namespace CppSyntax

open CppSyntax.Parser Grammar

/-- The words of a builtin type behind its qualifiers. -/
def Qualifiers.before (cv : Qualifiers) (words : List Keyword) : List Keyword :=
  (if cv.isConst then [.kwConst] else []) ++ (if cv.isVolatile then [.kwVolatile] else []) ++ words

/-- A builtin type as the only specifier. -/
def Tree.builtinSpecifiers (cv : Qualifiers) (words : List Keyword) : Tree .specifiers :=
  .specifiers [] [] [] (.present (.builtinType cv (words.map Keyword.spelling)))

/-- A builtin type with nothing behind it. -/
def Tree.builtin (cv : Qualifiers) (words : List Keyword) : TypeId :=
  .typeId (.builtinType cv (words.map Keyword.spelling)) Tree.plainDeclarator

/-- The draft with one more word of a builtin type. -/
def Grammar.SpecifierDraft.withWord (draft : SpecifierDraft) : Keyword → SpecifierDraft
  | .kwConst => { draft with cv := { draft.cv with isConst := true } }.sure
  | .kwVolatile => { draft with cv := { draft.cv with isVolatile := true } }.sure
  | word => { draft with words := draft.words ++ [word.spelling] }.sure

/-- The words that may stand in a builtin type. -/
def Keyword.isTypeWord (word : Keyword) : Bool :=
  word.isBuiltinType || word == .kwConst || word == .kwVolatile

section

variable {words : List Keyword} {type rest : List Glyph} {closing : Glyph} {sure : Prop}
  {context : Context} {g : Grammar Parser}

private theorem foldl_words (draft : SpecifierDraft)
    (builtin : ∀ word ∈ words, word.isBuiltinType = true) (nonempty : words ≠ []) :
    words.foldl SpecifierDraft.withWord draft =
      { draft with words := draft.words ++ words.map Keyword.spelling }.sure := by
  induction words generalizing draft with
  | nil => exact absurd rfl nonempty
  | cons word words ih =>
    have first : draft.withWord word =
        { draft with words := draft.words ++ [word.spelling] }.sure := by
      have isBuiltin := builtin word (List.mem_cons_self ..)
      cases word <;> first | rfl | cases isBuiltin
    rw [List.foldl_cons, first]
    cases words with
    | nil => rfl
    | cons next words =>
      rw [ih _ (fun word member => builtin word (List.mem_cons_of_mem _ member)) (by simp)]
      simp [SpecifierDraft.sure]

/-- What the words of a builtin type come to. -/
theorem foldl_before (cv : Qualifiers) {draft : SpecifierDraft}
    (bare : draft.cv = .none ∧ draft.words = [])
    (builtin : ∀ word ∈ words, word.isBuiltinType = true) (nonempty : words ≠ []) :
    (cv.before words).foldl SpecifierDraft.withWord draft =
      ⟨{ draft.specs with certain := true }, cv, words.map Keyword.spelling⟩ := by
  obtain ⟨specs, _, _⟩ := draft
  obtain ⟨rfl, rfl⟩ := bare
  obtain ⟨isConst, isVolatile⟩ := cv
  rw [Qualifiers.before, List.foldl_append, foldl_words _ builtin nonempty]
  cases isConst <;> cases isVolatile <;> rfl

theorem isTypeWord_of_mem_before {cv : Qualifiers}
    (builtin : ∀ word ∈ words, word.isBuiltinType = true) :
    ∀ word ∈ cv.before words, word.isTypeWord = true := by
  obtain ⟨isConst, isVolatile⟩ := cv
  intro word member
  simp only [Qualifiers.before, List.mem_append] at member
  rcases member with (isConst' | isVolatile') | isWord
  · cases isConst <;> simp at isConst'
    subst isConst'
    rfl
  · cases isVolatile <;> simp at isVolatile'
    subst isVolatile'
    rfl
  · simp [Keyword.isTypeWord, builtin word isWord]

/-- A type starts with a word. -/
theorem exists_first_word (cv : Qualifiers) (nonempty : words ≠ []) :
    ∃ word more, cv.before words = word :: more :=
  List.exists_cons_of_ne_nil fun none => nonempty (List.append_eq_nil_iff.mp none).2

private theorem specifierStep_word {word : Keyword} {joint : Bool} {scope : Scope}
    {draft : SpecifierDraft} (isWord : word.isTypeWord = true) (noType : draft.specs.type = none)
    (more : rest ≠ []) :
    (g.specifierStep scope draft).Reads context sure (⟨.keyword word, joint⟩ :: rest)
      (· = .inl (draft.withWord word)) rest := by
  obtain ⟨⟨_, _, _, type, _, _⟩, _, _⟩ := draft
  cases noType
  refine .byPlace fun state known => ?_
  rw [State.kind_of_glyphs known]
  refine .byPlace fun state known => ?_
  cases word <;> first | cases isWord; done | skip
  all_goals exact (Reads.advance more (by simp)).bind fun _ _ => .pure rfl

/-- The glyphs spell the words in their order. -/
def SpellWords (words : List Keyword) (glyphs : List Glyph) : Prop :=
  glyphs.map Glyph.kind = words.map .keyword

/-- The specifiers end before the tokens once a type has been read. -/
def StopsSpecifiers (rest : List Glyph) : Prop :=
  ∃ first tail, rest = first :: tail ∧ (∀ word, first.kind ≠ .keyword word) ∧
    (first.kind = .punctuator .leftBracket →
      ∃ second behind, tail = second :: behind ∧ second.kind ≠ .punctuator .leftBracket)

/-- The specifiers end before the token once a type has been read. -/
def EndsSpecifiers (closing : Glyph) : Prop :=
  closing.kind = .punctuator .rightParen ∨ ∃ ident, closing.kind = .identifier ident

theorem StopsSpecifiers.mark {mark : Punctuator} (kind : closing.kind = .punctuator mark)
    (other : mark ≠ .leftBracket) : StopsSpecifiers (closing :: rest) :=
  ⟨closing, rest, rfl, by simp [kind], fun bracket => absurd (kind.symm.trans bracket) (by simp [other])⟩

theorem StopsSpecifiers.name {ident : String} (kind : closing.kind = .identifier ident) :
    StopsSpecifiers (closing :: rest) :=
  ⟨closing, rest, rfl, by simp [kind], by simp [kind]⟩

theorem EndsSpecifiers.stops (ends : EndsSpecifiers closing) : StopsSpecifiers (closing :: rest) := by
  rcases ends with mark | ⟨ident, name⟩
  · exact .mark mark (by decide)
  · exact .name name

theorem specifierStep_stops {scope : Scope} {draft : SpecifierDraft} (stops : StopsSpecifiers rest)
    (typed : draft.hasType = true) :
    (g.specifierStep scope draft).Reads context sure rest (· = .inr draft) rest := by
  obtain ⟨closing, tail, rfl, noWord, noBrackets⟩ := stops
  refine .byPlace fun state known => ?_
  have named : (g.namedSpecifier scope draft).Reads context sure (closing :: tail) (· = .inr draft)
      (closing :: tail) := by
    unfold Grammar.namedSpecifier
    rw [typed]
    exact .pure rfl
  have noAttribute : state.atAttribute = false := by
    rw [State.atAttribute, State.isAt_of_glyphs known]
    cases bracket : closing.kind == .punctuator .leftBracket with
    | false => rfl
    | true =>
      obtain ⟨second, behind, rfl, other⟩ := noBrackets (by simpa using bracket)
      simpa [State.isAhead, State.ahead_one_of_glyphs known] using other
  rw [State.kind_of_glyphs known, noAttribute]
  cases kind : closing.kind with
  | keyword word => exact absurd kind (noWord word)
  | identifier ident => exact named
  | punctuator mark => cases mark <;> first | exact named | exact .pure rfl
  | _ => exact .pure rfl

/-- The words of a type are read one after the other, and the loop goes on behind them. -/
theorem typeWords_then {scope : Scope} {good : SpecifierDraft → Prop} {last : List Glyph}
    (spelled : SpellWords words type) (wordly : ∀ word ∈ words, word.isTypeWord = true)
    (more : rest ≠ []) (draft : SpecifierDraft) (noType : draft.specs.type = none)
    (later : ∀ fuel, (iterate (g.specifierStep scope) fuel
      (words.foldl SpecifierDraft.withWord draft)).Reads context sure rest good last) (fuel : Nat) :
    (iterate (g.specifierStep scope) fuel draft).Reads context sure (type ++ rest) good last := by
  induction words generalizing type draft fuel with
  | nil =>
    rw [SpellWords, List.map_nil, List.map_eq_nil_iff] at spelled
    subst spelled
    exact later fuel
  | cons word words ih =>
    rw [SpellWords, List.map_cons, List.map_eq_cons_iff] at spelled
    obtain ⟨⟨kind, joint⟩, type, rfl, rfl, behind⟩ := spelled
    have isWord := wordly word (List.mem_cons_self ..)
    refine .again (specifierStep_word isWord noType (by simp [more])) (fun fuel => ?_) fuel
    refine ih behind (fun word member => wordly word (List.mem_cons_of_mem _ member)) _ ?_ later fuel
    cases word <;> exact noType

/-- The words of a builtin type go on with specifiers that hold no type. -/
theorem typeWords_read {cv : Qualifiers} {scope : Scope} {draft : SpecifierDraft}
    (noType : draft.specs.type = none) (bare : draft.cv = .none ∧ draft.words = [])
    (spelled : SpellWords (cv.before words) type)
    (builtin : ∀ word ∈ words, word.isBuiltinType = true) (nonempty : words ≠ [])
    (stops : StopsSpecifiers rest) (fuel : Nat) :
    (iterate (g.specifierStep scope) fuel draft).Reads context sure (type ++ rest)
      (· = ⟨{ draft.specs with certain := true }, cv, words.map Keyword.spelling⟩) rest := by
  have more : rest ≠ [] := by
    obtain ⟨first, tail, rfl, _⟩ := stops
    exact List.cons_ne_nil first tail
  have typed : SpecifierDraft.hasType
      ⟨{ draft.specs with certain := true }, cv, words.map Keyword.spelling⟩ = true := by
    cases words with
    | nil => exact absurd rfl nonempty
    | cons => simp [SpecifierDraft.hasType]
  refine typeWords_then spelled (isTypeWord_of_mem_before builtin) more draft noType ?_ fuel
  rw [foldl_before cv bare builtin nonempty]
  exact .stopWith (specifierStep_stops stops typed)

theorem type?_words {specs : ParsedSpecifiers} {cv : Qualifiers} (nonempty : words ≠ []) :
    (⟨specs, cv, words.map Keyword.spelling⟩ : SpecifierDraft).type? =
      some (.builtinType cv (words.map Keyword.spelling)) := by
  cases words with
  | nil => exact absurd rfl nonempty
  | cons => rfl

/-- A builtin type among specifiers, with nothing else. -/
theorem specifiers_reads_before {cv : Qualifiers} {scope : Scope}
    (spelled : SpellWords (cv.before words) type)
    (builtin : ∀ word ∈ words, word.isBuiltinType = true) (nonempty : words ≠ [])
    (stops : StopsSpecifiers rest) (derived : g.IsDerived) :
    (g.specifiers scope).Reads context sure (type ++ rest)
      (· = ⟨[], [], [], some (.builtinType cv (words.map Keyword.spelling)), false, true⟩) rest := by
  refine derived.symbol (.specifiers scope) fun inner _ => ?_
  have loop : (inner.loop (inner.specifierStep scope) .empty).Reads context sure (type ++ rest)
      (· = ⟨⟨[], [], [], none, false, true⟩, cv, words.map Keyword.spelling⟩) rest :=
    typeWords_read rfl ⟨rfl, rfl⟩ spelled builtin nonempty stops inner.fuel
  refine loop.andThen ?_
  rw [type?_words nonempty]
  exact .pure rfl

theorem specifiers_reads {cv : Qualifiers} {scope : Scope}
    (spelled : SpellWords (cv.before words) type)
    (builtin : ∀ word ∈ words, word.isBuiltinType = true) (nonempty : words ≠ [])
    (closes : EndsSpecifiers closing) (derived : g.IsDerived) :
    (g.specifiers scope).Reads context sure (type ++ closing :: rest)
      (· = ⟨[], [], [], some (.builtinType cv (words.map Keyword.spelling)), false, true⟩)
      (closing :: rest) :=
  specifiers_reads_before spelled builtin nonempty closes.stops derived

end

end CppSyntax
