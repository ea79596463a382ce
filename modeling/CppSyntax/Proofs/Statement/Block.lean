import CppSyntax.Proofs.Expression.Reading
import CppSyntax.Proofs.Parsing.Rows
import CppSyntax.Tree.Structure

/-!
Blocks that no comments stand in. A block is read up to the structure of its statements.
-/

namespace CppSyntax

open CppSyntax.Parser Grammar

theorem Trees.erase_ofList (items : List (Tree c)) :
    (Trees.ofList items).erase = .ofList (items.map Tree.erase) :=
  without_ofList .places items

theorem Part.erase_ofOption (part : Option (Tree c)) :
    (Part.ofOption part).erase = .ofOption (part.map Tree.erase) :=
  without_ofOption .places part

/-- With room for so many levels the rule reads a tree of the given structure where no comments
stand, and it stops before the rest. -/
def ReadsErased (rule : Grammar Parser → Parser (Tree c)) (nest : Nat) (glyphs : List Glyph)
    (expected : Tree c) (rest : List Glyph) : Prop :=
  ∀ g : Grammar Parser, g.IsDerived → ∀ (sure : Prop) (context : Context), Room sure context nest →
    (rule g).ReadsUnder State.Quiet context sure glyphs (·.erase = expected) rest

theorem ReadsErased.mono {rule : Grammar Parser → Parser (Tree c)} {nest more : Nat}
    {glyphs rest : List Glyph} {expected : Tree c}
    (reads : ReadsErased rule nest glyphs expected rest) (le : nest ≤ more) :
    ReadsErased rule more glyphs expected rest :=
  fun g derived sure context room => reads g derived sure context (room.less le)

/-- A statement may start with the token. It neither ends a block nor goes on with the statement
before it. -/
def TokenKind.startsStatement (kind : TokenKind) : Bool :=
  kind != .punctuator .rightBrace && kind != .endOfFile && kind != .keyword .kwElse &&
    kind != .keyword .kwCatch

/-- Statements of the given structures in a row, up to a closing brace. -/
inductive ReadsStatements (nest : Nat) : List Statement → List Glyph → List Glyph → Prop where
  | nil {last : Glyph} {rest : List Glyph} (closes : last.kind = .punctuator .rightBrace) :
      ReadsStatements nest [] (last :: rest) (last :: rest)
  | cons {first : Glyph} {glyphs middle rest : List Glyph} {value : Statement}
      {values : List Statement} (starts : first.kind.startsStatement = true)
      (one : ReadsErased (fun g => g.statement) nest (first :: glyphs) value middle)
      (later : ReadsStatements nest values middle rest) :
      ReadsStatements nest (value :: values) (first :: glyphs) rest

namespace ReadsStatements

variable {nest : Nat} {values : List Statement} {glyphs rest : List Glyph}

theorem ne_nil (row : ReadsStatements nest values glyphs rest) : glyphs ≠ [] := by
  cases row <;> exact List.cons_ne_nil _ _

theorem closing (row : ReadsStatements nest values glyphs rest) :
    ∃ last tail, rest = last :: tail ∧ last.kind = .punctuator .rightBrace := by
  induction row with
  | nil closes => exact ⟨_, _, rfl, closes⟩
  | cons _ _ _ ih => exact ih

theorem toRow (row : ReadsStatements nest values glyphs rest) {g : Grammar Parser} (derived : g.IsDerived)
    {sure : Prop} {context : Context} (room : Room sure context nest) :
    ReadsRow State.Quiet (some <$> g.statement) context sure
      (fun kind => kind == .punctuator .rightBrace || kind == .endOfFile) Tree.erase values glyphs
      rest := by
  induction row with
  | nil closes => exact .nil (by simp [closes])
  | cons starts one _ ih =>
    refine .cons ?_ ?_ ih
    · simp only [TokenKind.startsStatement, Bool.and_eq_true, bne_iff_ne] at starts
      simp [starts]
    · exact (one g derived sure context room).bind fun found same => .pure ⟨found, rfl, same⟩

/-- Statements between braces are a block. -/
theorem block (row : ReadsStatements nest values glyphs rest) {opening closing : Glyph}
    {behind : List Glyph} (opens : opening.kind = .punctuator .leftBrace)
    (last : rest = closing :: behind) (more : behind ≠ []) :
    ReadsErased (fun g => g.block) nest (opening :: glyphs) (.block (.ofList values) []) behind := by
  intro g derived sure context room
  subst last
  obtain ⟨_, _, same, closes⟩ := row.closing
  cases same
  have inside := ((row.toRow derived room.bracketed).itemsUntil g).angleCloses
  refine (braced_reads opens closes row.ne_nil more inside).bind fun found known => .pure ?_
  obtain ⟨statements, closing⟩ := found
  obtain ⟨same, none⟩ := known
  subst same none
  show Tree.block (Trees.ofList statements).erase [] = _
  rw [Trees.erase_ofList]

end ReadsStatements

end CppSyntax
