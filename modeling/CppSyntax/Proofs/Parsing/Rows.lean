import CppSyntax.Proofs.Parsing.Guarded
import CppSyntax.Grammar.Derivation

/-!
Items in a row up to a token that ends it. Of each item only a part is of interest, such as its
structure; the row is read as the list of these parts.
-/

namespace CppSyntax

open CppSyntax.Parser Grammar

section

variable {holds : State → Prop} {item : Parser (Option α)} {context : Context} {sure : Prop}
  {ends : TokenKind → Bool} {view : α → β} {values : List β} {glyphs rest : List Glyph}

/-- One more item of a row, or its end. -/
def Parser.rowStep (ends : TokenKind → Bool) (item : Parser (Option α)) (items : List α) :
    Parser (List α ⊕ List α) := do
  if ends (← here).kind then return .inr items else return .inl (items ++ (← item).toList)

/-- The tokens hold the items with these views, up to a token that ends the row. -/
inductive Parser.ReadsRow (holds : State → Prop) (item : Parser (Option α)) (context : Context)
    (sure : Prop) (ends : TokenKind → Bool) (view : α → β) :
    List β → List Glyph → List Glyph → Prop where
  | nil {last : Glyph} {rest : List Glyph} (finished : ends last.kind = true) :
      ReadsRow holds item context sure ends view [] (last :: rest) (last :: rest)
  | cons {first : Glyph} {glyphs middle rest : List Glyph} {value : β} {values : List β}
      (inside : ends first.kind = false)
      (one : item.ReadsUnder holds context sure (first :: glyphs)
        (fun answer => ∃ found, answer = some found ∧ view found = value) middle)
      (later : ReadsRow holds item context sure ends view values middle rest) :
      ReadsRow holds item context sure ends view (value :: values) (first :: glyphs) rest

private theorem rowStep_reads {first : Glyph} {good : List α ⊕ List α → Prop} {found : List α}
    (reads : (if ends first.kind then pure (.inr found)
      else item >>= fun answer => pure (.inl (found ++ answer.toList))).ReadsUnder holds context sure
        (first :: glyphs) good rest) :
    (rowStep ends item found).ReadsUnder holds context sure (first :: glyphs) good rest := by
  intro state known place
  have kind := State.kind_of_glyphs place
  have gives := reads state known place
  rw [← kind] at gives
  exact gives

namespace Parser.ReadsRow

/-- A loop over the items finds all of them in their order. -/
theorem iterate (row : ReadsRow holds item context sure ends view values glyphs rest)
    (found : List α) (fuel : Nat) :
    (Parser.iterate (rowStep ends item) fuel found : Parser _).ReadsUnder holds context sure glyphs
      (fun all => all.map view = found.map view ++ values) rest := by
  induction row generalizing found fuel with
  | nil finished =>
    refine .stop found (rowStep_reads ?_) (List.append_nil _).symm fuel
    rw [finished]
    exact .pure rfl
  | @cons first glyphs middle _ value _ inside one later ih =>
    let isNext (all : List α) : Prop := ∃ more, all = found ++ [more] ∧ view more = value
    have step : (rowStep ends item found).ReadsUnder holds context sure (first :: glyphs)
        (fun result => ∃ next, result = .inl next ∧ isNext next) middle := by
      refine rowStep_reads ?_
      rw [inside]
      refine one.bind fun answer seen => ?_
      obtain ⟨more, rfl, same⟩ := seen
      exact .pure ⟨_, rfl, more, rfl, same⟩
    refine .again isNext step (fun all seen fuel => ?_) fuel
    obtain ⟨more, rfl, rfl⟩ := seen
    simpa using ih (found ++ [more]) fuel

theorem itemsUntil (g : Grammar Parser) {close : Punctuator}
    (row : ReadsRow holds item context sure (fun kind => kind == .punctuator close || kind == .endOfFile)
      view values glyphs rest) :
    (g.itemsUntil close item).ReadsUnder holds context sure glyphs (fun all => all.map view = values)
      rest :=
  row.iterate [] g.fuel

end Parser.ReadsRow

end

section

variable {construct : String} {items : Parser (List (Tree c))} {context : Context} {sure : Prop}
  {opening closing : Glyph} {glyphs rest : List Glyph} {good : List (Tree c) → Prop}
  {holds : State → Prop}

/-- Text in braces behind whose opening one no comment stands. The comments before the closing one are
those of its token. -/
theorem braced_reads_under {comments : List String} (steady : Steady holds)
    (opens : opening.kind = .punctuator .leftBrace) (closes : closing.kind = .punctuator .rightBrace)
    (nonempty : glyphs ≠ []) (more : rest ≠ [])
    (silent : ∀ state, holds state → state.glyphs = glyphs →
      state.previous.bind (·.trailingComment) = none)
    (kept : ∀ state, holds state → state.glyphs = closing :: rest →
      state.current.leadingComments = comments)
    (reads : items.ReadsUnder holds context sure glyphs good (closing :: rest)) :
    (Grammar.braced construct items : Parser _).ReadsUnder holds context sure (opening :: glyphs)
      (fun found => good found.1 ∧ found.2 = comments) rest := by
  refine .bind (.ofReads steady (Reads.expect nonempty opens)) fun _ _ => ?_
  have noComment : (trailingComment : Parser _).ReadsUnder holds context sure glyphs (· = none)
      glyphs := .byPlace fun state known place => .pure (silent state known place)
  refine noComment.andThen ?_
  refine reads.bind fun found isGood => .byPlace fun state known place => ?_
  rw [kept state known place]
  refine .bind (.ofReads steady (Reads.expect more closes)) fun _ _ => ?_
  exact .pure ⟨isGood, rfl⟩

/-- Text in braces that no comments stand in. -/
theorem braced_reads (opens : opening.kind = .punctuator .leftBrace)
    (closes : closing.kind = .punctuator .rightBrace) (nonempty : glyphs ≠ []) (more : rest ≠ [])
    (reads : items.ReadsUnder State.Quiet context sure glyphs good (closing :: rest)) :
    (Grammar.braced construct items : Parser _).ReadsUnder State.Quiet context sure (opening :: glyphs)
      (fun found => good found.1 ∧ found.2 = []) rest := by
  refine braced_reads_under State.Quiet.steady opens closes nonempty more (fun state quiet _ => ?_)
    (fun state quiet _ => (quiet.behind state.current (List.mem_cons_self ..)).1) reads
  cases previous : state.previous with
  | none => rfl
  | some token => exact quiet.before token previous

end

end CppSyntax
