import CppSyntax.Proofs.Statement.Block
import CppSyntax.Render.Unit

/-!
The texts of statements. Whatever may stand behind it, the text of a statement is spelled by tokens
that are read as a statement of a known structure.
-/

namespace CppSyntax

open Doc Render

namespace Spelled

variable {rest : List Char} {glyphs : List Glyph}

theorem margin (layout : Layout) (later : Spelled rest glyphs) :
    Spelled ((Doc.margin layout).toList ++ rest) glyphs := by
  rw [Doc.toList_margin]
  exact later.spaces _

theorem beforeBrace (layout : Layout) (later : Spelled rest glyphs) :
    Spelled ((Doc.beforeBrace layout).toList ++ rest) glyphs := by
  unfold Doc.beforeBrace
  cases layout.options.braceStyle with
  | sameLine => simpa using later.space
  | nextLine => simpa using (later.margin layout).lineBreak

end Spelled

/-- What may stand behind the text of a statement. An `else` must not, if the statement ends in an
`if` that would take it. -/
structure Ensues (openIf : Bool) (rest : List Char) (behind : List Glyph) : Prop where
  spelled : Spelled rest behind
  apart : ∃ c tail, rest = c :: tail ∧ (c = ' ' ∨ c = '\n')
  follows : ∃ first tail, behind = first :: tail ∧ first.kind ≠ .keyword .kwCatch ∧
    (openIf = true → first.kind ≠ .keyword .kwElse)

theorem Ensues.weaken {openIf other : Bool} {rest : List Char} {behind : List Glyph}
    (ensues : Ensues openIf rest behind) (weaker : other = true → openIf = true) :
    Ensues other rest behind := by
  obtain ⟨first, tail, same, noCatch, noElse⟩ := ensues.follows
  exact ⟨ensues.spelled, ensues.apart, first, tail, same, noCatch, fun is => noElse (weaker is)⟩

theorem Ensues.more {openIf : Bool} {rest : List Char} {behind : List Glyph}
    (ensues : Ensues openIf rest behind) : behind ≠ [] := by
  obtain ⟨first, tail, rfl, _⟩ := ensues.follows
  exact List.cons_ne_nil first tail

/-- Wherever it stands, the text is read as a statement of the given structure. -/
def IsStated (nest : Nat) (openIf : Bool) (expected : Statement) (text : List Char) : Prop :=
  ∀ rest behind, Ensues openIf rest behind → ∃ first glyphs, Spelled (text ++ rest) (first :: glyphs) ∧
    first.kind.startsStatement = true ∧
    ReadsErased (fun g => g.statement) nest (first :: glyphs) expected behind

/-- In every layout the text of the statement is read as one of the given structure. -/
def Tree.Stated (nest : Nat) (form shape : Tree .statementForm) : Prop :=
  ∀ layout : Layout, IsStated nest form.endsInOpenIf (.statement .erased shape)
    (form.drawing layout).toList

theorem IsStated.mono {nest more : Nat} {openIf : Bool} {expected : Statement} {text : List Char}
    (stated : IsStated nest openIf expected text) (le : nest ≤ more) :
    IsStated more openIf expected text := by
  intro rest behind ensues
  obtain ⟨first, glyphs, spelled, starts, reads⟩ := stated rest behind ensues
  exact ⟨first, glyphs, spelled, starts, reads.mono le⟩

/-- No comments stand with the statement, and it is no directive. -/
def Tree.IsBare : Statement → Prop
  | .statement place form =>
    place.leadingComments = [] ∧ place.trailingComment = none ∧ isDirectiveStatement form = false

theorem Tree.IsBare.line {place : Placement} {form : Tree .statementForm}
    (bare : (Tree.statement place form).IsBare) (layout : Layout) :
    statementLine ⟨.statement place form, form.drawing⟩ layout =
      Doc.margin layout ++ form.drawing layout ++ "\n" := by
  obtain ⟨leading, trailing, notDirective⟩ := bare
  obtain ⟨_, _, _, _⟩ := place
  cases leading
  cases trailing
  simp [statementLine, notDirective, commentLines, concat, Doc.trailing]

/-- The text of a line is read as the statement on it. -/
theorem Tree.Stated.line {place : Placement} {form shape : Tree .statementForm} {nest : Nat}
    (stated : Stated nest form shape) (bare : (Tree.statement place form).IsBare) (layout : Layout)
    {rest : List Char} {first : Glyph} {tail : List Glyph} (spelled : Spelled rest (first :: tail))
    (noCatch : first.kind ≠ .keyword .kwCatch) (noElse : first.kind ≠ .keyword .kwElse) :
    ∃ start glyphs, start.kind.startsStatement = true ∧
      Spelled ((statementLine ⟨.statement place form, form.drawing⟩ layout).toList ++ rest)
        (start :: glyphs) ∧
      ReadsErased (fun g => g.statement) nest (start :: glyphs) (.statement .erased shape)
        (first :: tail) := by
  obtain ⟨start, glyphs, written, starts, reads⟩ := stated layout ('\n' :: rest) (first :: tail)
    ⟨spelled.lineBreak, ⟨_, _, rfl, .inr rfl⟩, _, _, rfl, noCatch, fun _ => noElse⟩
  refine ⟨start, glyphs, starts, ?_, reads⟩
  rw [bare.line]
  simpa using written.margin layout

section

variable {nest : Nat} {expect : Statement → Statement} {rest : List Char} {closing : Glyph}
  {behind : List Glyph}

/-- The text of the statement is read as a statement of the given structure. -/
def Tree.StatedAs (nest : Nat) (body expected : Statement) : Prop :=
  ∃ place form shape, body = .statement place form ∧ expected = .statement .erased shape ∧
    body.IsBare ∧ Tree.Stated nest form shape

private theorem Spelled.gap {text : List Char} {glyphs : List Glyph} (isFirst : Bool)
    (body : Statement) (later : Spelled text glyphs) :
    Spelled ((if isFirst then "" else statementGap body).toList ++ text) glyphs := by
  obtain ⟨place, _⟩ := body
  cases isFirst with
  | true => exact later
  | false =>
    rw [if_neg (by simp), statementGap]
    split
    · simpa using later.lineBreak
    · exact later

/-- The lines of a block are read as the statements on them. -/
theorem statementLines_written {statements : Trees .statement}
    (stated : ∀ body ∈ statements.toList, body.StatedAs nest (expect body)) (isFirst behindLabel : Bool)
    (layout : Layout) (spelled : Spelled rest (closing :: behind))
    (closes : closing.kind = .punctuator .rightBrace) :
    ∃ glyphs, Spelled ((statementLines isFirst behindLabel statements.drawn layout).toList ++ rest)
      glyphs ∧ ReadsStatements nest (statements.toList.map expect) glyphs (closing :: behind) ∧
      ∃ first tail, glyphs = first :: tail ∧ first.kind ≠ .keyword .kwCatch ∧
        first.kind ≠ .keyword .kwElse := by
  cases statements with
  | nil => exact ⟨_, spelled, .nil closes, _, _, rfl, by simp [closes], by simp [closes]⟩
  | cons body statements =>
    obtain ⟨place, form, shape, rfl, expected, bare, written⟩ := stated body (List.mem_cons_self ..)
    let isLabel := isCaseLabel (.statement place form)
    obtain ⟨glyphs, spelled, row, first, tail, rfl, noCatch, noElse⟩ :=
      statementLines_written (fun body member => stated body (List.mem_cons_of_mem _ member)) false
        (behindLabel || isLabel) layout spelled closes
    obtain ⟨inner, same⟩ : ∃ inner, (if behindLabel && !isLabel
        then (statementLine ⟨.statement place form, form.drawing⟩).deeper
        else statementLine ⟨.statement place form, form.drawing⟩) layout =
          statementLine ⟨.statement place form, form.drawing⟩ inner := by
      split
      · exact ⟨_, rfl⟩
      · exact ⟨_, rfl⟩
    obtain ⟨start, glyphs, starts, line, reads⟩ := written.line bare inner spelled noCatch noElse
    refine ⟨start :: glyphs, ?_, ?_, _, _, rfl, ?_, ?_⟩
    · have text := Spelled.gap isFirst (.statement place form) line
      show Spelled ((_ ++ (if behindLabel && !isLabel
        then (statementLine ⟨.statement place form, form.drawing⟩).deeper
        else statementLine ⟨.statement place form, form.drawing⟩) layout ++ _).toList ++ _) _
      rw [same]
      simpa using text
    · rw [Trees.toList, List.map_cons, expected]
      exact .cons starts reads row
    · rintro kind
      simp [TokenKind.startsStatement, kind] at starts
    · rintro kind
      simp [TokenKind.startsStatement, kind] at starts

/-- Wherever it stands, the text is read as a block of the given structure. -/
def IsBlock (nest : Nat) (body : Tree .block) (text : List Char) : Prop :=
  ∀ rest behind, Spelled rest behind → behind ≠ [] → ∃ joint glyphs,
    Spelled (text ++ rest) (⟨.punctuator .leftBrace, joint⟩ :: glyphs) ∧
    ReadsErased (fun g => g.block) nest (⟨.punctuator .leftBrace, joint⟩ :: glyphs) body behind

/-- The text of a block without comments is read as the block. -/
theorem block_written {statements : Trees .statement}
    (stated : ∀ body ∈ statements.toList, body.StatedAs nest (expect body)) (layout : Layout) :
    IsBlock nest (.block (.ofList (statements.toList.map expect)) [])
      (Render.block statements.drawn [] layout).toList := by
  intro rest behind spelled more
  obtain ⟨closed, close⟩ := spelled.single .rightBrace '\x7d' rfl rfl
  obtain ⟨glyphs, lines, row, _⟩ := statementLines_written stated true false
    { layout with depth := layout.depth + 1 } (close.margin layout) rfl
  obtain ⟨opened, whole⟩ := lines.lineBreak.single .leftBrace '\x7b' rfl rfl
  refine ⟨opened, glyphs, ?_, row.block rfl rfl more⟩
  simpa [Render.block, braced, commentLines, concat] using whole

end

end CppSyntax
