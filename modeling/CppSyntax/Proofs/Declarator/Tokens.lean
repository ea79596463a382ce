import CppSyntax.Proofs.Lexing.Number
import CppSyntax.Proofs.Parsing.Builtin
import CppSyntax.Render.Unit

/-!
The tokens of types, names and declarators, and the texts that are spelled by them. How close together
the tokens stand is left open, since it decides about nothing here.
-/

namespace CppSyntax

/-- The tokens of qualifiers. -/
def Qualifiers.kinds (cv : Qualifiers) : List TokenKind := (cv.before []).map .keyword

/-- Rows of tokens with a mark between them. -/
def Punctuator.between (mark : Punctuator) (rows : List (List TokenKind)) : List TokenKind :=
  [.punctuator mark].intercalate rows

theorem Punctuator.between_single (mark : Punctuator) (row : List TokenKind) :
    mark.between [row] = row := by
  simp [between]

theorem Punctuator.between_cons (mark : Punctuator) (first second : List TokenKind)
    (rows : List (List TokenKind)) :
    mark.between (first :: second :: rows) = first ++ .punctuator mark :: mark.between (second :: rows) := by
  simp [between, List.intercalate_cons_cons]

theorem Punctuator.between_opens (mark : Punctuator) (kind : TokenKind) (row : List TokenKind)
    (rows : List (List TokenKind)) : ∃ tail, mark.between ((kind :: row) :: rows) = kind :: tail := by
  cases rows with
  | nil => exact ⟨row, mark.between_single _⟩
  | cons next rows => exact ⟨_, mark.between_cons ..⟩

/-- The tokens behind the parameters of a list with an ellipsis. -/
def ellipsisKinds (isFirst : Bool) : List TokenKind :=
  if isFirst then [.punctuator .ellipsis] else [.punctuator .comma, .punctuator .ellipsis]

mutual

/-- The tokens that names, types and declarators are written with. -/
def Tree.kinds {c : Category} : Tree c → List TokenKind
  | .plainSegment ident _ => [.identifier ident]
  | .templateSegment ident arguments _ =>
    .identifier ident :: .punctuator .less ::
      (Punctuator.comma.between arguments.kinds ++ [.punctuator .greater])
  | .qualifiedName isGlobal segments =>
    (if isGlobal then [.punctuator .scope] else []) ++ Punctuator.scope.between segments.kinds
  | .typeArgument target => target.kinds
  | .valueArgument value => value.kinds
  | .literal value => [.integer value.text]
  | .builtinType cv words =>
    cv.kinds ++ (words.filterMap Keyword.ofSpelling?).map .keyword
  | .namedType cv target => cv.kinds ++ target.kinds
  | .pointer cv => .punctuator .star :: cv.kinds
  | .lvalueReference => [.punctuator .ampersand]
  | .rvalueReference => [.punctuator .andAnd]
  | .declaredName target => target.kinds
  | .nestedDeclarator inner =>
    .punctuator .leftParen :: (inner.kinds ++ [.punctuator .rightParen])
  | .parameterList items variadic =>
    .punctuator .leftParen :: (Punctuator.comma.between items.kinds ++
      ((if variadic then ellipsisKinds items.kinds.isEmpty else []) ++ [.punctuator .rightParen]))
  | .signature parameters _ _ _ _ => parameters.kinds
  | .arraySuffix size =>
    .punctuator .leftBracket :: (size.kinds.flatten ++ [.punctuator .rightBracket])
  | .functionSuffix sig => sig.kinds
  | .declarator pointers _ core suffixes =>
    pointers.kinds.flatten ++ core.kinds ++ suffixes.kinds.flatten
  | .typeId spec shape => spec.kinds ++ shape.kinds
  | .specifiers _ _ _ type => type.kinds.flatten
  | .parameter specs shape _ => specs.kinds ++ shape.kinds
  | _ => []
termination_by structural tree => tree

def Trees.kinds {c : Category} : Trees c → List (List TokenKind)
  | .nil => []
  | .cons head tail => head.kinds :: tail.kinds
termination_by structural trees => trees

def Part.kinds {c : Category} : Part c → List (List TokenKind)
  | .absent => []
  | .present inner => [inner.kinds]
termination_by structural part => part

end

theorem Qualifiers.kinds_before (cv : Qualifiers) (words : List Keyword) :
    cv.kinds ++ words.map .keyword = (cv.before words).map .keyword := by
  simp [Qualifiers.kinds, Qualifiers.before]

theorem Tree.kinds_builtinType (cv : Qualifiers) (words : List Keyword) :
    (Tree.builtinType cv (words.map Keyword.spelling)).kinds = (cv.before words).map .keyword := by
  have inverse : Keyword.ofSpelling? ∘ Keyword.spelling = some := funext Keyword.ofSpelling?_spelling
  rw [← cv.kinds_before, Tree.kinds, List.filterMap_map, inverse, List.filterMap_some]

theorem Tree.kinds_builtinSpecifiers (cv : Qualifiers) (words : List Keyword) :
    (Tree.builtinSpecifiers cv words).kinds = (cv.before words).map .keyword := by
  rw [← kinds_builtinType]
  exact List.append_nil _

/-- The tokens are of these kinds, in this order. -/
def OfKinds (kinds : List TokenKind) (glyphs : List Glyph) : Prop := glyphs.map Glyph.kind = kinds

namespace OfKinds

variable {kinds others : List TokenKind} {kind : TokenKind} {glyphs : List Glyph}

theorem nil : OfKinds [] [] := rfl

theorem cons {joint : Bool} (later : OfKinds kinds glyphs) :
    OfKinds (kind :: kinds) (⟨kind, joint⟩ :: glyphs) :=
  congrArg (kind :: ·) later

theorem append {more : List Glyph} (first : OfKinds kinds glyphs) (later : OfKinds others more) :
    OfKinds (kinds ++ others) (glyphs ++ more) := by
  rw [OfKinds, List.map_append, first, later]

theorem of_nil (none : OfKinds [] glyphs) : glyphs = [] := List.map_eq_nil_iff.mp none

theorem of_cons (row : OfKinds (kind :: kinds) glyphs) :
    ∃ joint later, glyphs = ⟨kind, joint⟩ :: later ∧ OfKinds kinds later := by
  obtain ⟨⟨_, joint⟩, later, rfl, rfl, behind⟩ := List.map_eq_cons_iff.mp row
  exact ⟨joint, later, rfl, behind⟩

theorem of_append (row : OfKinds (kinds ++ others) glyphs) :
    ∃ first later, glyphs = first ++ later ∧ OfKinds kinds first ∧ OfKinds others later :=
  List.map_eq_append_iff.mp row

end OfKinds

/-- The text opens with a character of the sort. -/
def OpensIn (sort : Char → Bool) (text : List Char) : Prop :=
  ∃ c tail, text = c :: tail ∧ sort c = true

/-- Before everything that opens with a character of the sort, the text is spelled by tokens of these
kinds. -/
def SpellsBefore (sort : Char → Bool) (text : List Char) (kinds : List TokenKind) : Prop :=
  ∀ rest glyphs, OpensIn sort rest → Spelled rest glyphs →
    ∃ front, OfKinds kinds front ∧ Spelled (text ++ rest) (front ++ glyphs)

/-- Names, numbers and the marks that only an equals sign can lengthen end before the character. -/
def endsToken (c : Char) : Bool := Lexeme.endsNumber c && c != '=' && c != '+' && c != '-'

/-- The character ends a declarator. -/
def endsDeclarator (c : Char) : Bool := [',', ')', ';', '>'].contains c

theorem OpensIn.mono {sort other : Char → Bool} {text : List Char} (opens : OpensIn sort text)
    (weaker : ∀ c, sort c = true → other c = true) : OpensIn other text := by
  obtain ⟨c, tail, rfl, isSort⟩ := opens
  exact ⟨c, tail, rfl, weaker c isSort⟩

theorem OpensIn.append {sort : Char → Bool} {text : List Char} (opens : OpensIn sort text)
    (rest : List Char) : OpensIn sort (text ++ rest) := by
  obtain ⟨c, tail, rfl, isSort⟩ := opens
  exact ⟨c, tail ++ rest, rfl, isSort⟩

/-- Before a text that opens somehow, everything opens somehow. -/
theorem OpensIn.behind {sort : Char → Bool} {rest : List Char} (opens : OpensIn sort rest)
    {text : List Char} : OpensIn (fun _ => true) (text ++ rest) := by
  obtain ⟨c, tail, rfl, _⟩ := opens
  cases text with
  | nil => exact ⟨c, tail, rfl, rfl⟩
  | cons d more => exact ⟨d, more ++ c :: tail, rfl, rfl⟩

theorem OpensIn.literalEnds {rest : List Char} (opens : OpensIn endsToken rest) :
    Lexeme.LiteralEnds rest := by
  obtain ⟨c, tail, rfl, ends⟩ := opens
  simp only [endsToken, Bool.and_eq_true, bne_iff_ne] at ends
  obtain ⟨⟨⟨number, _⟩, noPlus⟩, noMinus⟩ := ends
  exact ⟨Lexeme.numberEnds_of_head number, by simpa using noPlus, by simpa using noMinus⟩

theorem OpensIn.nameEnds {rest : List Char} (opens : OpensIn endsToken rest) : Lexeme.NameEnds rest :=
  opens.literalEnds.1.1

theorem endsToken_of_endsDeclarator (c : Char) (ends : endsDeclarator c = true) :
    endsToken c = true := by
  simp only [endsDeclarator, List.contains_eq_mem, List.mem_cons, List.not_mem_nil, or_false,
    decide_eq_true_eq] at ends
  rcases ends with rfl | rfl | rfl | rfl <;> decide

namespace SpellsBefore

variable {sort other : Char → Bool} {text more : List Char} {kinds others : List TokenKind}

theorem nil : SpellsBefore sort [] [] := fun _ _ _ spelled => ⟨[], .nil, spelled⟩

theorem mono (spells : SpellsBefore sort text kinds) (weaker : ∀ c, other c = true → sort c = true) :
    SpellsBefore other text kinds :=
  fun rest glyphs opens => spells rest glyphs (opens.mono weaker)

/-- A text before one that nothing can run into. -/
theorem append (first : SpellsBefore sort text kinds) (second : SpellsBefore other more others)
    (apart : ∀ rest, OpensIn other rest → OpensIn sort (more ++ rest)) :
    SpellsBefore other (text ++ more) (kinds ++ others) := by
  intro rest glyphs opens spelled
  obtain ⟨back, behind, middle⟩ := second rest glyphs opens spelled
  obtain ⟨front, before, whole⟩ := first _ _ (apart rest opens) middle
  exact ⟨front ++ back, before.append behind, by simpa using whole⟩

theorem mark {mark : Punctuator} (stops : ∀ c, sort c = true → mark.growsWith c = false) :
    SpellsBefore sort mark.spelling.toList [.punctuator mark] := by
  rintro rest glyphs ⟨c, tail, rfl, isSort⟩ spelled
  have ends : ∀ next ∈ (c :: tail).head?, mark.growsWith next = false := by
    rintro _ ⟨⟩
    exact stops c isSort
  exact ⟨[⟨.punctuator mark, _⟩], rfl, spelled.mark mark ends⟩

/-- A mark that nothing can lengthen. -/
theorem finished {mark : Punctuator} (finished : mark.isFinished = true) :
    SpellsBefore sort mark.spelling.toList [.punctuator mark] :=
  .mark fun _ _ => Punctuator.growsWith_of_isFinished finished

theorem word (word : Keyword) : SpellsBefore endsToken word.spelling.toList [.keyword word] :=
  fun _ _ opens spelled => ⟨[⟨.keyword word, _⟩], rfl, spelled.word word opens.nameEnds⟩

theorem identifier {ident : String} (valid : isIdentifier ident = true) :
    SpellsBefore endsToken ident.toList [.identifier ident] :=
  fun _ _ opens spelled => ⟨[⟨.identifier ident, _⟩], rfl, spelled.identifier valid opens.nameEnds⟩

theorem literal {text : String} (whole : isIntegerLiteral text = true) :
    SpellsBefore endsToken text.toList [.integer text] :=
  fun _ _ opens spelled => ⟨[⟨.integer text, _⟩], rfl, spelled.literal whole opens.literalEnds⟩

theorem space (spells : SpellsBefore sort text kinds) : SpellsBefore sort (' ' :: text) kinds := by
  intro rest glyphs opens spelled
  obtain ⟨front, before, whole⟩ := spells rest glyphs opens spelled
  exact ⟨front, before, whole.space⟩

theorem commaSpace : SpellsBefore sort ", ".toList [.punctuator .comma] := by
  intro rest glyphs _ spelled
  have opens : OpensIn (fun _ => true) (' ' :: rest) := ⟨' ', rest, rfl, rfl⟩
  have comma : SpellsBefore (fun _ => true) Punctuator.comma.spelling.toList [.punctuator .comma] :=
    finished rfl
  exact comma (' ' :: rest) glyphs opens spelled.space

/-- A text before a space. -/
theorem beforeSpace (first : SpellsBefore endsToken text kinds)
    (second : SpellsBefore sort more others) :
    SpellsBefore sort (text ++ ' ' :: more) (kinds ++ others) :=
  first.append second.space fun rest _ => ⟨' ', more ++ rest, rfl, by decide⟩

/-- A text between marks that nothing can lengthen. -/
theorem enclosed (opening closing : Punctuator) (opens : opening.isFinished = true)
    (closes : closing.isFinished = true) (inner : SpellsBefore sort text kinds)
    (before : OpensIn sort closing.spelling.toList) :
    SpellsBefore other (opening.spelling.toList ++ (text ++ closing.spelling.toList))
      (.punctuator opening :: (kinds ++ [.punctuator closing])) := by
  have closed : SpellsBefore other (text ++ closing.spelling.toList) (kinds ++ [.punctuator closing]) :=
    inner.append (finished closes) fun rest _ => before.append rest
  exact (finished opens).append closed fun rest opens => opens.behind

end SpellsBefore

section

variable {c : Category} {sort : Char → Bool} {drawn : Drawn c → String}

/-- Texts in a row, each of which may stand before anything. -/
theorem Trees.join_spells (items : Trees c) (each : ∀ item ∈ items.toList,
      SpellsBefore (fun _ => true) (drawn ⟨item, item.drawing⟩).toList item.kinds) :
    SpellsBefore sort (String.join (items.drawn.map drawn)).toList items.kinds.flatten := by
  cases items with
  | nil => exact .nil
  | cons item items =>
    obtain ⟨first, others⟩ := List.forall_mem_cons.mp each
    have row := first.append (Trees.join_spells items others) fun rest opens => opens.behind
    simpa [Trees.drawn, Trees.kinds, String.join_cons] using row

/-- Texts with a mark between them. -/
theorem Trees.between_spells (items : Trees c) {mark : Punctuator} {glue : String}
    (glued : SpellsBefore (fun _ => true) glue.toList [.punctuator mark])
    (before : OpensIn sort glue.toList) (each : ∀ item ∈ items.toList,
      SpellsBefore sort (drawn ⟨item, item.drawing⟩).toList item.kinds) :
    SpellsBefore sort (glue.intercalate (items.drawn.map drawn)).toList (mark.between items.kinds) := by
  cases items with
  | nil => exact .nil
  | cons item items =>
    obtain ⟨first, others⟩ := List.forall_mem_cons.mp each
    cases items with
    | nil => simpa [Trees.drawn, Trees.kinds, Punctuator.between_single] using first
    | cons next items =>
      have later := Trees.between_spells (.cons next items) glued before others
      have behind := glued.append later fun rest opens => opens.behind
      have row := first.append behind fun rest _ => (before.append _).append rest
      simpa [Trees.drawn, Trees.kinds, Punctuator.between_cons, String.intercalate_cons_cons] using row

end

end CppSyntax
