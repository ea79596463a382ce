import CppSyntax.Proofs.Declarator.Tokens
import CppSyntax.Proofs.Lexing.Kinds
import CppSyntax.Proofs.Parsing.Fuel
import CppSyntax.Proofs.Statement.Writing
import CppSyntax.Roundtrip
import Mathlib.Data.List.Forall2

/-!
Units of declarations, each on lines of its own. What the forms of the declarations read back as decides
what the whole unit reads back as.
-/

namespace CppSyntax

open CppSyntax.Parser Grammar Render

/-- A unit that holds nothing but a declaration of the form. -/
def Tree.single (location : Location) (blankLineBefore : Bool) (form : Tree .declarationForm) :
    TranslationUnit :=
  .unit (.cons (.declaration ⟨location, [], none, blankLineBefore⟩ form) .nil) []

/-- Items in a row, each with its tokens and those behind it. -/
inductive Linked {α : Type} (holds : α → List Glyph → List Glyph → Prop) :
    List α → List Glyph → List Glyph → Prop where
  | nil {behind : List Glyph} : Linked holds [] behind behind
  | cons {item : α} {items : List α} {glyphs middle behind : List Glyph}
      (own : holds item glyphs middle) (later : Linked holds items middle behind) :
      Linked holds (item :: items) glyphs behind

/-- The tokens are read as a form that is as it should be, surely if there is room for so many levels. -/
structure ReadsForm (sure : Prop) (nest : Nat) (good : Tree .declarationForm → Prop)
    (glyphs behind : List Glyph) : Prop where
  opens : ∃ first tail, glyphs = first :: tail ∧ first.kind ≠ .punctuator .semicolon ∧
    first.kind ≠ .endOfFile
  reads : ∀ g : Grammar Parser, g.IsDerived → ∀ context, Room sure context nest →
    (g.declarationForm .inNamespace).ReadsUnder State.Quiet context sure glyphs good behind

theorem ReadsForm.mono {sure : Prop} {nest more : Nat} {good : Tree .declarationForm → Prop}
    {glyphs behind : List Glyph} (form : ReadsForm sure nest good glyphs behind) (le : nest ≤ more) :
    ReadsForm sure more good glyphs behind :=
  ⟨form.opens, fun g derived context room => form.reads g derived context (room.less le)⟩

section

variable {first last : Glyph} {glyphs rest : List Glyph} {nest : Nat} {form : Tree .declarationForm}
  {g : Grammar Parser} {sure : Prop}

/-- A declaration without comments is read from its form. -/
theorem declaration_reads_quiet {good : Tree .declarationForm → Prop} {context : Context} {scope : Scope}
    (inside : first.kind ≠ .punctuator .semicolon) (derived : g.IsDerived)
    (room : Room sure context (nest + 1)) (reads : ∀ g : Grammar Parser, g.IsDerived →
      ∀ context, Room sure context nest → (g.declarationForm scope).ReadsUnder State.Quiet context sure
        (first :: glyphs) good rest) :
    (g.declaration scope).ReadsUnder State.Quiet context sure (first :: glyphs)
      (fun answer => ∃ location blankLineBefore found,
        answer = some (.declaration ⟨location, [], none, blankLineBefore⟩ found) ∧ good found) rest := by
  refine .symbol derived (.declaration scope) fun inner innerDerived => .nested room.fits ?_
  refine .byPlace fun start quiet _ => ?_
  have silent : start.current.leadingComments = [] := (quiet.behind _ (List.mem_cons_self ..)).1
  rw [silent]
  refine (Reads.missing inside).quietly.andThen ?_
  refine (reads inner innerDerived _ room.deeper).bind fun found isGood => ?_
  cases found.endsInDeclaration with
  | true => exact .pure ⟨_, _, found, rfl, isGood⟩
  | false =>
    refine .byPlace fun state quiet _ => ?_
    have noComment : state.previous.bind (·.trailingComment) = none :=
      Option.bind_eq_none_iff.mpr quiet.before
    rw [noComment]
    exact .pure ⟨_, _, found, rfl, isGood⟩

variable {β : Type} {look : Tree .declarationForm → β} {items : List β}

/-- The comments of a declaration and what is looked at of its form. -/
def Tree.seenBy (look : Tree .declarationForm → β) : Declaration → List String × Option String × β
  | .declaration place form => (place.leadingComments, place.trailingComment, look form)

theorem Tree.erase_seenBy : ∀ inner : Declaration,
    inner.erase = .declaration .erased (inner.seenBy Tree.erase).2.2
  | .declaration _ _ => rfl

/-- Forms in a row are read as declarations without comments. -/
theorem Linked.readsRow {context : Context} {ends : TokenKind → Bool}
    (linked : Linked (fun item => ReadsForm sure nest (look · = item)) items glyphs (last :: rest))
    (closes : ends last.kind = true) (onlyEnds : ∀ kind, ends kind = true → kind = .endOfFile)
    (derived : g.IsDerived) (room : Room sure context (nest + 1)) :
    ReadsRow State.Quiet (g.declaration .inNamespace) context sure ends (Tree.seenBy look)
      (items.map ([], none, ·)) glyphs (last :: rest) := by
  generalize same : last :: rest = behind at linked
  induction linked with
  | nil =>
    subst same
    exact .nil closes
  | cons own later ih =>
    obtain ⟨first, tail, rfl, inside, goesOn⟩ := own.opens
    have one := declaration_reads_quiet inside derived room own.reads
    refine .cons (Bool.eq_false_iff.mpr fun is => goesOn (onlyEnds _ is)) (one.mono ?_) (ih same)
    rintro answer ⟨location, blankLineBefore, found, rfl, seen⟩
    exact ⟨_, rfl, congrArg (([], none, ·) : β → _) seen⟩

/-- A unit of nothing but such forms is read as declarations of them. -/
theorem translationUnit_reads
    (linked : Linked (fun item => ReadsForm sure nest (look · = item)) items glyphs [last])
    (ends : last.kind = .endOfFile) (allowed : sure → nest + 1 ≤ nestingLimit)
    (derived : g.IsDerived) :
    g.translationUnit.ReadsUnder State.Quiet .top sure glyphs
      (fun unit => ∃ found, unit = .unit (.ofList found) [] ∧
        found.map (Tree.seenBy look) = items.map ([], none, ·)) [last] := by
  have room : Room sure .top (nest + 1) :=
    ⟨rfl, fun certain => (Nat.zero_add _).symm ▸ allowed certain⟩
  have row : ReadsRow State.Quiet (g.declaration .inNamespace) .top sure (fun kind => kind == .endOfFile)
      (Tree.seenBy look) (items.map ([], none, ·)) glyphs [last] :=
    linked.readsRow (by simp [ends]) (fun _ is => beq_iff_eq.mp is) derived room
  refine ReadsUnder.bind (row.iterate [] g.fuel) fun found same => .byPlace fun state quiet _ => .pure ?_
  have noComments : state.current.leadingComments = [] :=
    (quiet.behind state.current (List.mem_cons_self ..)).1
  rw [noComments]
  exact ⟨found, rfl, same⟩

end

/-- A text without comments is parsed as its tokens are read. -/
theorem parse_of_spelled {source : String} {glyphs rest : List Glyph} {sure : Prop}
    {good : TranslationUnit → Prop} (spelled : Spelled source.toList glyphs) (more : glyphs ≠ [])
    (reads : ∀ g : Grammar Parser, g.IsDerived →
      g.translationUnit.ReadsUnder State.Quiet .top sure glyphs good rest) :
    (∃ unit, parse source = .ok unit ∧ good unit) ∨
      (¬ sure ∧ ∃ error, parse source = .error error) := by
  obtain ⟨tokens, lexed, rfl, quiet⟩ := Token.ofSource_of_spelled spelled
  exact parse_of_reads lexed (State.Quiet.start quiet (by simpa using more)) reads

/-- What stands of the form on its line, with the semicolon of a variable. -/
def Tree.lineText (form : Tree .declarationForm) (layout : Layout) : String :=
  completed ⟨.declaration .erased form, form.drawing⟩ layout

theorem Tree.lineText_eq {form : Tree .declarationForm}
    (ended : terminator (.declaration .erased form) = "") (layout : Layout) :
    form.lineText layout = form.drawing layout := by
  show form.drawing layout ++ terminator (.declaration .erased form) = _
  rw [ended, String.append_empty]

/-- The form stands on a line of its own behind the margin. -/
def Tree.standsAlone : Tree .declarationForm → Bool
  | .directive _ | .accessLabel _ => false
  | _ => true

theorem declarationLine_standsAlone {form : Tree .declarationForm} (stands : form.standsAlone = true)
    (location : Location) (blankLineBefore : Bool) (layout : Layout) :
    declarationLine ⟨.declaration ⟨location, [], none, blankLineBefore⟩ form, form.drawing⟩ layout =
      Doc.margin layout ++ form.lineText layout ++ "\n" := by
  have line : declarationLine ⟨.declaration ⟨location, [], none, blankLineBefore⟩ form, form.drawing⟩
      layout = "" ++ (Doc.margin layout ++ form.lineText layout ++ "" ++ "\n") := by
    cases form <;> first | rfl | cases stands
  rw [line]
  simp

section

variable {β : Type} {holds : β → List Glyph → List Glyph → Prop} {layout : Layout} {rest : List Char}
  {behind : List Glyph}

/-- The line of a declaration is spelled by tokens of the item. -/
def Tree.WrittenLine (holds : β → List Glyph → List Glyph → Prop) (layout : Layout)
    (inner : Declaration) (item : β) : Prop :=
  ∀ rest behind, behind ≠ [] → Spelled rest behind → ∃ glyphs, glyphs ≠ [] ∧
    Spelled ((declarationLine ⟨inner, inner.drawing⟩ layout).toList ++ rest) glyphs ∧
    holds item glyphs behind

private theorem Spelled.declarationGap {text : List Char} {glyphs : List Glyph} (inner : Declaration)
    (later : Spelled text glyphs) :
    Spelled ((Render.declarationGap inner).toList ++ text) glyphs := by
  obtain ⟨place, _⟩ := inner
  rw [Render.declarationGap]
  split
  · simpa using later.lineBreak
  · exact later

private theorem declarationRow_written {members : Trees .declaration} {items : List β}
    (written : List.Forall₂ (Tree.WrittenLine holds layout) members.toList items)
    (spelled : Spelled rest behind) (more : behind ≠ []) :
    ∃ glyphs, glyphs ≠ [] ∧
      Spelled ((Doc.concat (members.drawn.map fun inner =>
        (declarationGap inner.tree : Doc) ++ declarationLine inner) layout).toList ++ rest) glyphs ∧
      Linked holds items glyphs behind := by
  match members, items, written with
  | .nil, [], .nil => exact ⟨behind, more, spelled, .nil⟩
  | .cons inner members, item :: items, .cons own others =>
    obtain ⟨middle, some, later, linked⟩ := declarationRow_written others spelled more
    obtain ⟨glyphs, any, line, isHeld⟩ := own _ _ some later
    refine ⟨glyphs, any, ?_, .cons isHeld linked⟩
    simpa [Trees.drawn, Doc.concat] using line.declarationGap inner

/-- The first line stands close to the margin; otherwise the lines of a unit are those of its row. -/
theorem unitLines_written {members : Trees .declaration} {items : List β}
    (written : List.Forall₂ (Tree.WrittenLine holds layout) members.toList items) :
    ∃ glyphs, glyphs ≠ [] ∧ Spelled (declarationLines members.drawn layout).toList glyphs ∧
      Linked holds items glyphs [⟨.endOfFile, false⟩] := by
  match members, items, written with
  | .nil, [], .nil => exact ⟨_, List.cons_ne_nil _ _, .nil, .nil⟩
  | .cons inner members, item :: items, .cons own others =>
    obtain ⟨middle, some, later, linked⟩ := declarationRow_written others .nil (List.cons_ne_nil _ _)
    obtain ⟨glyphs, any, line, isHeld⟩ := own _ _ some later
    refine ⟨glyphs, any, ?_, .cons isHeld linked⟩
    simpa [Trees.drawn, declarationLines] using line

end

theorem render_unit (declarations : Trees .declaration) (options : RenderOptions) :
    ∃ layout, render options (.unit declarations []) = declarationLines declarations.drawn layout := by
  refine ⟨⟨options, (Tree.unit declarations []).typeNames, 0, false⟩, ?_⟩
  show declarationLines declarations.drawn _ ++ "" = _
  rw [String.append_empty]

/-- The text of a declaration of the form is read as one of another form, surely if there is room for so
many levels. -/
structure Tree.Rereads (sure : Prop) (nest : Nat) (form shape : Tree .declarationForm) : Prop where
  stands : form.standsAlone = true
  reread : ∀ (layout : Layout) (rest : List Char) (behind : List Glyph), behind ≠ [] →
    Spelled rest behind → ∃ glyphs, Spelled ((form.lineText layout).toList ++ '\n' :: rest) glyphs ∧
      ReadsForm sure nest (·.erase = shape) glyphs behind

theorem Tree.Rereads.mono {sure : Prop} {nest more : Nat} {form shape : Tree .declarationForm}
    (known : form.Rereads sure nest shape) (le : nest ≤ more) : form.Rereads sure more shape := by
  refine ⟨known.stands, fun layout rest behind nonempty spelled => ?_⟩
  obtain ⟨glyphs, written, form⟩ := known.reread layout rest behind nonempty spelled
  exact ⟨glyphs, written, form.mono le⟩

/-- If it need not be sure that the form is read, any number of levels will do. -/
theorem Tree.Rereads.unsure {nest : Nat} {form shape : Tree .declarationForm}
    (known : form.Rereads False nest shape) : form.Rereads False 0 shape := by
  refine ⟨known.stands, fun layout rest behind nonempty spelled => ?_⟩
  obtain ⟨glyphs, written, form⟩ := known.reread layout rest behind nonempty spelled
  exact ⟨glyphs, written, form.opens, fun g derived context room =>
    form.reads g derived context ⟨room.plain, False.elim⟩⟩

/-- The declaration has such a form, and no comments stand with it. -/
def Tree.RereadsAlone (sure : Prop) (nest : Nat) (inner : Declaration) (shape : Tree .declarationForm) : Prop :=
  ∃ location blankLineBefore form,
    inner = .declaration ⟨location, [], none, blankLineBefore⟩ form ∧ form.Rereads sure nest shape

private theorem Tree.RereadsAlone.written {sure : Prop} {nest : Nat} {inner : Declaration}
    {shape : Tree .declarationForm} (reread : inner.RereadsAlone sure nest shape) (layout : Layout) :
    inner.WrittenLine (fun shape => ReadsForm sure nest (·.erase = shape)) layout shape := by
  obtain ⟨location, blankLineBefore, form, rfl, known⟩ := reread
  intro rest behind more spelled
  obtain ⟨glyphs, written, reads⟩ := known.reread layout rest behind more spelled
  obtain ⟨first, tail, rfl, _⟩ := id reads.opens
  have drawn : (Tree.declaration ⟨location, [], none, blankLineBefore⟩ form).drawing = form.drawing := rfl
  refine ⟨first :: tail, List.cons_ne_nil _ _, ?_, reads⟩
  rw [drawn, declarationLine_standsAlone known.stands]
  simpa using written.margin layout

theorem Tree.erase_unit_of_seen {found : List Declaration} {shapes : List (Tree .declarationForm)}
    (same : found.map (seenBy erase) = shapes.map ([], none, ·)) :
    (Tree.unit (.ofList found) []).erase = .unit (.ofList (shapes.map (.declaration .erased))) [] := by
  have shapes : found.map Tree.erase = shapes.map (.declaration .erased) :=
    calc found.map Tree.erase
      _ = (found.map (seenBy erase)).map (fun seen => .declaration .erased seen.2.2) := by
        rw [List.map_map]
        exact List.map_congr_left fun inner _ => erase_seenBy inner
      _ = shapes.map (.declaration .erased) := by rw [same, List.map_map]; rfl
  show Tree.unit (Trees.ofList found).erase [] = _
  rw [Trees.erase_ofList, shapes]

/-- A unit is read back as what its declarations are read back as. There is no error if they are surely
read. -/
theorem Tree.reread_unit {declarations : Trees .declaration} {shapes : List (Tree .declarationForm)}
    {sure : Prop} {nest : Nat} (each : List.Forall₂ (RereadsAlone sure nest) declarations.toList shapes)
    (fits : sure → nest + 1 ≤ nestingLimit) (options : RenderOptions) :
    (∃ again, parse (render options (.unit declarations [])) = .ok again ∧
      again.erase = .unit (.ofList (shapes.map (.declaration .erased))) []) ∨
    (¬ sure ∧ ∃ error, parse (render options (.unit declarations [])) = .error error) := by
  obtain ⟨layout, text⟩ := render_unit declarations options
  have written := each.imp fun _ _ reread => reread.written layout
  obtain ⟨glyphs, more, spelled, linked⟩ := unitLines_written written
  have answers := parse_of_spelled (text ▸ spelled) more fun g derived =>
    translationUnit_reads linked rfl fits derived
  refine answers.imp ?_ id
  rintro ⟨unit, read, found, rfl, same⟩
  exact ⟨_, read, erase_unit_of_seen same⟩

/-- A unit survives if each of its declarations is read back as it is. -/
theorem Tree.survives_of_reread {declarations : Trees .declaration} {nest : Nat}
    (each : ∀ inner ∈ declarations.toList, ∃ location blankLineBefore form,
      inner = .declaration ⟨location, [], none, blankLineBefore⟩ form ∧ form.Rereads True nest form.erase)
    (fits : nest + 1 ≤ nestingLimit) (options : RenderOptions) :
    survives options (.unit declarations []) = true := by
  have rereads : List.Forall₂ (RereadsAlone True nest) declarations.toList
      (declarations.toList.map fun inner => (inner.seenBy erase).2.2) := by
    refine List.forall₂_map_right_iff.mpr (List.forall₂_same.mpr fun inner member => ?_)
    obtain ⟨location, blankLineBefore, form, rfl, known⟩ := each inner member
    exact ⟨location, blankLineBefore, form, rfl, known⟩
  obtain ⟨again, read, same⟩ :=
    (Tree.reread_unit rereads (fun _ => fits) options).resolve_right fun failed => failed.1 trivial
  have kept : declarations.erase = .ofList (declarations.toList.map fun inner =>
      .declaration .erased (inner.seenBy erase).2.2) := by
    rw [← declarations.ofList_toList, Trees.erase_ofList, Trees.toList_ofList]
    exact congrArg Trees.ofList (List.map_congr_left fun inner _ => erase_seenBy inner)
  rw [survives, read]
  refine sameStructure_iff.mpr (Eq.trans ?_ same.symm)
  rw [List.map_map]
  exact congrArg (Tree.unit · []) kept

/-- The form is written with tokens of these kinds, and read from them with room for so many levels. -/
structure Tree.HasKinds (nest : Nat) (form : Tree .declarationForm) (kinds : List TokenKind) : Prop where
  stands : form.standsAlone = true
  opens : ∃ kind more, kinds = kind :: more ∧ kind ≠ .punctuator .semicolon ∧ kind ≠ .endOfFile
  written : ∀ layout, SpellsBefore (fun _ => true) (form.lineText layout).toList kinds
  read : ∀ glyphs rest, OfKinds kinds glyphs → rest ≠ [] → ∀ g : Grammar Parser, g.IsDerived →
    ∀ context, Room True context nest →
      (g.declarationForm .inNamespace).Reads context True (glyphs ++ rest) (· = form) rest

/-- The tokens start with some of these kinds, before those behind them. -/
def KindsBefore (kinds : List TokenKind) (glyphs behind : List Glyph) : Prop :=
  ∃ front, glyphs = front ++ behind ∧ OfKinds kinds front

namespace Tree.HasKinds

variable {nest : Nat} {form : Tree .declarationForm} {kinds : List TokenKind}

theorem readsForm (known : form.HasKinds nest kinds) {front behind : List Glyph}
    (row : OfKinds kinds front) (more : behind ≠ []) :
    ReadsForm True nest (· = form) (front ++ behind) behind := by
  refine ⟨?_, fun g derived context room =>
    (known.read front behind row more g derived context room).quietly⟩
  obtain ⟨kind, _, rfl, inside, goesOn⟩ := known.opens
  obtain ⟨joint, tail, rfl, _⟩ := OfKinds.of_cons row
  exact ⟨_, _, rfl, inside, goesOn⟩

theorem mono {more : Nat} (known : form.HasKinds nest kinds) (le : nest ≤ more) :
    form.HasKinds more kinds :=
  { known with
    read := fun glyphs rest row nonempty g derived context room =>
      known.read glyphs rest row nonempty g derived context (room.less le) }

theorem rereads (known : form.HasKinds nest kinds) : form.Rereads True nest form.erase := by
  refine ⟨known.stands, fun layout rest behind more spelled => ?_⟩
  obtain ⟨front, row, written⟩ := known.written layout _ _ ⟨'\n', rest, rfl, rfl⟩ spelled.lineBreak
  have form := known.readsForm row more
  exact ⟨_, written, form.opens, fun g derived context room =>
    (form.reads g derived context room).mono fun _ same => same ▸ rfl⟩

theorem survives (known : form.HasKinds nest kinds) (fits : nest + 1 ≤ nestingLimit)
    (location : Location) (blankLineBefore : Bool) (options : RenderOptions) :
    survives options (.single location blankLineBefore form) = true :=
  survives_of_reread (List.forall_mem_singleton.mpr ⟨_, _, form, rfl, known.rereads⟩) fits options

variable {rows : List (Tree .declarationForm × List TokenKind)}

private theorem linked_of_kinds (each : ∀ row ∈ rows, row.1.HasKinds nest row.2) {glyphs : List Glyph}
    (spelled : OfKinds ((rows.map (·.2)).flatten ++ [.endOfFile]) glyphs) :
    ∃ joint, Linked (fun form => ReadsForm True nest (id · = form)) (rows.map (·.1)) glyphs
      [⟨.endOfFile, joint⟩] := by
  induction rows generalizing glyphs with
  | nil =>
    obtain ⟨joint, _, rfl, none⟩ := OfKinds.of_cons spelled
    obtain rfl := OfKinds.of_nil none
    exact ⟨joint, .nil⟩
  | cons row rows ih =>
    obtain ⟨own, others⟩ := List.forall_mem_cons.mp each
    rw [List.map_cons, List.flatten_cons, List.append_assoc] at spelled
    obtain ⟨front, back, rfl, ownKinds, backKinds⟩ := OfKinds.of_append spelled
    obtain ⟨joint, later⟩ := ih others backKinds
    have more : back ≠ [] := by
      rintro rfl
      simp [OfKinds] at backKinds
    exact ⟨joint, .cons (own.readsForm ownKinds more) later⟩

/-- A text of the tokens of some forms, without comments, is parsed as these forms. -/
theorem parsed (each : ∀ row ∈ rows, row.1.HasKinds nest row.2) (fits : nest + 1 ≤ nestingLimit)
    {source : String} {tokens : List Token} (lexed : Token.ofSource source = .ok tokens)
    (quiet : ∀ token ∈ tokens, token.IsQuiet)
    (same : tokens.map (·.kind) = (rows.map (·.2)).flatten ++ [.endOfFile]) :
    ∃ found, parse source = .ok (.unit (.ofList found) []) ∧
      found.map (seenBy id) = rows.map fun row => ([], none, row.1) := by
  have spelled : OfKinds ((rows.map (·.2)).flatten ++ [.endOfFile]) (tokens.map Token.glyph) := by
    rw [OfKinds, List.map_map]
    exact same
  obtain ⟨joint, linked⟩ := linked_of_kinds each spelled
  have nonempty : tokens ≠ [] := by
    rintro rfl
    simp at same
  have answers := parse_of_reads lexed (State.Quiet.start quiet nonempty) fun g derived =>
    translationUnit_reads linked rfl (fun _ => fits) derived
  obtain ⟨unit, ok, found, rfl, seen⟩ := answers.resolve_right fun unsure => unsure.1 trivial
  exact ⟨found, ok, by rw [seen, List.map_map]; rfl⟩

private theorem kinds_of_linked {all : List (List TokenKind)} {glyphs behind : List Glyph}
    (linked : Linked KindsBefore all glyphs behind) :
    glyphs.map Glyph.kind = all.flatten ++ behind.map Glyph.kind := by
  induction linked with
  | nil => rfl
  | cons own _ ih =>
    obtain ⟨front, rfl, kinds⟩ := own
    rw [List.map_append, ih, List.flatten_cons, List.append_assoc]
    exact congrArg (· ++ _) kinds

private theorem writtenLine (known : form.HasKinds nest kinds) {inner : Declaration}
    (seen : inner.seenBy id = ([], none, form)) (layout : Layout) :
    inner.WrittenLine KindsBefore layout kinds := by
  intro rest behind more spelled
  cases inner with | declaration place shape
  obtain ⟨location, leading, trailing, blankLineBefore⟩ := place
  obtain ⟨rfl, rfl, rfl⟩ : leading = [] ∧ trailing = none ∧ shape = form := by
    simpa [seenBy] using seen
  obtain ⟨front, row, written⟩ := known.written layout _ _ ⟨'\n', rest, rfl, rfl⟩ spelled.lineBreak
  have drawn : (Tree.declaration ⟨location, [], none, blankLineBefore⟩ shape).drawing = shape.drawing :=
    rfl
  refine ⟨front ++ behind, by simp [more], ?_, front, rfl, row⟩
  rw [drawn, declarationLine_standsAlone known.stands]
  simpa using written.margin layout

/-- Declarations of some forms, without comments, are rendered with the tokens of these forms. -/
theorem kindsOf_render (each : ∀ row ∈ rows, row.1.HasKinds nest row.2) {found : List Declaration}
    (seen : found.map (seenBy id) = rows.map fun row => ([], none, row.1)) (options : RenderOptions) :
    Token.kindsOf (render options (.unit (.ofList found) [])) =
      some ((rows.map (·.2)).flatten ++ [.endOfFile]) := by
  obtain ⟨layout, text⟩ := render_unit (.ofList found) options
  have aligned : List.Forall₂ (fun row inner => ([], none, Prod.fst row) = seenBy id inner) rows found :=
    List.forall₂_map_left_iff.mp (List.forall₂_map_right_iff.mp (List.forall₂_eq_eq_eq ▸ seen.symm))
  have known := ((List.forall₂_and_left rows found).mpr ⟨each, aligned⟩).flip
  have written : List.Forall₂ (WrittenLine KindsBefore layout) (Trees.ofList found).toList
      (rows.map (·.2)) := by
    rw [Trees.toList_ofList]
    exact List.forall₂_map_right_iff.mpr
      (known.imp fun _ _ known => known.1.writtenLine known.2.symm layout)
  obtain ⟨glyphs, _, spelled, linked⟩ := unitLines_written written
  obtain ⟨tokens, lexed, same, _⟩ := Token.ofSource_of_spelled (text ▸ spelled)
  refine Token.kindsOf_eq_some.mpr ⟨tokens, lexed, ?_⟩
  have kinds := kinds_of_linked linked
  rw [← same, List.map_map] at kinds
  exact kinds

end Tree.HasKinds

end CppSyntax
