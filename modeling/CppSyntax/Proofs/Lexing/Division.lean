import CppSyntax.Token.Stream

/-!
Sources are divided into gaps and tokens without loss. A gap is described by its parts alone, without
the way in which it is read; the main result says that every source that can be read splits into such
gaps and the slices of its tokens, and that the tokens record their spelling, their place, the comments
around them and the empty lines before them.
-/

namespace CppSyntax

/-- A part of a gap, as it stands in the source. -/
inductive GapPart where
  | blank (c : Char)
  | splice
  | lineComment (body : List Char)
  | blockComment (body : List Char)

namespace GapPart

def text : GapPart → List Char
  | .blank c => [c]
  | .splice => ['\\', '\n']
  | .lineComment body => '/' :: '/' :: body
  | .blockComment body => '/' :: '*' :: (body ++ ['*', '/'])

/-- The part reaches up to the rest of the source and not beyond its end: a line comment ends with
its line, and a block comment with the first mark that closes it. -/
def EndsBefore (rest : List Char) : GapPart → Prop
  | .blank c => Text.isBlank c = true
  | .splice => True
  | .lineComment body => '\n' ∉ body ∧ ∀ c ∈ rest.head?, c = '\n'
  | .blockComment body => ¬ ['*', '/'] <:+: body ++ ['*']

/-- The comment that a part is. A line comment is trimmed at its end. -/
def comment? : GapPart → Option String
  | .lineComment body => some (String.ofList (Text.trimEnd ('/' :: '/' :: body)))
  | .blockComment body => some (String.ofList (GapPart.blockComment body).text)
  | _ => none

/-- A line break that is not part of a splice. -/
def isLineBreak : GapPart → Bool
  | .blank c => c == '\n'
  | _ => false

/-- What the part is to a reader of gaps. -/
def piece : GapPart → GapPiece
  | .blank c => if c = '\n' then .lineBreak else .blank
  | .splice => .splice
  | .lineComment body => .comment (String.ofList (Text.trimEnd ('/' :: '/' :: body)))
  | .blockComment body => .comment (String.ofList (GapPart.blockComment body).text)

/-- The parts make up a gap before the rest of the source. -/
def AreGap (rest : List Char) : List GapPart → Prop
  | [] => True
  | part :: parts => part.EndsBefore (parts.flatMap text ++ rest) ∧ AreGap rest parts

/-- Some stretch without comments has two line breaks. -/
def HaveBlankLine (parts : List GapPart) : Prop :=
  ∃ stretch : List GapPart, stretch <:+: parts ∧ (∀ part ∈ stretch, part.comment? = none) ∧
    2 ≤ stretch.countP isLineBreak

end GapPart

/-- A closed comment holds its closing mark only at its end. -/
private theorem Lexeme.commentRest_closed {text : List Char}
    (closed : (Lexeme.commentRest text).value = true) :
    ∃ body, (Lexeme.commentRest text).used = body ++ ['*', '/'] ∧
      ¬ ['*', '/'] <:+: body ++ ['*'] := by
  fun_induction Lexeme.commentRest text with
  | case1 => simp at closed
  | case2 rest => exact ⟨[], rfl, by decide⟩
  | case3 c rest open' ih =>
    obtain ⟨body, used, first⟩ := ih closed
    refine ⟨c :: body, by simp [Scan.after, used], fun found => ?_⟩
    rw [List.cons_append, List.infix_cons_iff] at found
    rcases found with front | later
    · -- The body goes on with what follows its first character in the text.
      have divided : (body ++ ['*', '/']) ++ (Lexeme.commentRest rest).rest = rest :=
        used ▸ Lexeme.commentRest_divides rest
      obtain ⟨star, slash⟩ := List.cons_prefix_cons.mp front
      cases body with
      | nil => simp at slash
      | cons next more =>
        obtain ⟨rfl, _⟩ := List.cons_prefix_cons.mp slash
        exact open' _ star.symm divided.symm
    · exact first later

/-- A piece that is read at the front of a text is a part that ends before the rest. -/
theorem GapPiece.first?_part {text : List Char} {scan : Scan (Except LexFault GapPiece)}
    {piece : GapPiece} (found : GapPiece.first? text = some scan) (value : scan.value = .ok piece) :
    ∃ part : GapPart, part.text = scan.used ∧ part.EndsBefore scan.rest ∧ part.piece = piece := by
  unfold GapPiece.first? at found
  split at found
  · simp at found
  · cases found
    cases value
    have blank : Text.isBlank '\n' = true := by decide
    exact ⟨.blank '\n', rfl, blank, rfl⟩
  · cases found
    cases value
    exact ⟨.splice, rfl, trivial, rfl⟩
  · rename_i rest
    cases found
    cases value
    refine ⟨.lineComment (rest.takeWhile (· != '\n')), rfl, ⟨fun inside => ?_, fun c first => ?_⟩,
      rfl⟩
    · simpa using List.all_eq_true.mp List.all_takeWhile _ inside
    · have stops := List.head?_dropWhile_not (· != '\n') rest
      rw [show (rest.dropWhile (· != '\n')).head? = some c from first] at stops
      simpa using stops
  · rename_i rest
    cases found
    by_cases closed : (Lexeme.commentRest rest).value = true
    · obtain ⟨body, used, first⟩ := Lexeme.commentRest_closed closed
      simp only [Scan.map, Scan.after, closed, if_true, Except.ok.injEq] at value
      refine ⟨.blockComment body, ?_, first, ?_⟩
      · simp [GapPart.text, Scan.map, Scan.after, used]
      · simp [GapPart.piece, GapPart.text, ← value, used]
    · simp [Scan.map, Scan.after, closed] at value
  · rename_i c rest notBreak _ _ _
    split at found
    · rename_i blank
      cases found
      cases value
      have inLine : c ≠ '\n' := fun same => notBreak same
      exact ⟨.blank c, rfl, blank, if_neg inLine⟩
    · simp at found

namespace GapPart

theorem haveBlankLine_concat {parts : List GapPart} {part : GapPart} :
    HaveBlankLine (parts ++ [part]) ↔ HaveBlankLine parts ∨
      ∃ stretch : List GapPart, stretch <:+ parts ++ [part] ∧
        (∀ part ∈ stretch, part.comment? = none) ∧ 2 ≤ stretch.countP isLineBreak := by
  constructor
  · rintro ⟨stretch, inside, free, breaks⟩
    rcases List.infix_concat_iff.mp inside with behind | before
    · exact .inr ⟨stretch, behind, free, breaks⟩
    · exact .inl ⟨stretch, before, free, breaks⟩
  · rintro (⟨stretch, inside, free, breaks⟩ | ⟨stretch, behind, free, breaks⟩)
    · exact ⟨stretch, inside.trans (List.infix_append' [] parts [part]), free, breaks⟩
    · exact ⟨stretch, behind.isInfix, free, breaks⟩

/-- Behind a part that is no comment the stretches at the end grow by that part. -/
theorem stretch_concat {parts stretch : List GapPart} {part : GapPart} (free : part.comment? = none) :
    (stretch <:+ parts ++ [part] ∧ ∀ part ∈ stretch, part.comment? = none) ↔
      stretch = [] ∨ ∃ front, stretch = front ++ [part] ∧ front <:+ parts ∧
        ∀ part ∈ front, part.comment? = none := by
  rw [List.suffix_concat_iff]
  constructor
  · rintro ⟨rfl | ⟨front, rfl, behind⟩, all⟩
    · exact .inl rfl
    · exact .inr ⟨front, by simp, behind, fun part member => all part (by simp [member])⟩
  · rintro (rfl | ⟨front, rfl, behind, all⟩)
    · exact ⟨.inl rfl, by simp⟩
    · refine ⟨.inr ⟨front, by simp, behind⟩, fun other member => ?_⟩
      rcases List.mem_append.mp member with member | member
      · exact all other member
      · rw [List.mem_singleton.mp member]
        exact free

end GapPart

/-- What the notes of a gap record of its parts. The line breaks are those at the end of the gap, behind
its last comment. -/
structure Gap.Notes (afterToken : Bool) (gap : Gap) (parts : List GapPart) : Prop where
  comments : gap.trailing.toList ++ gap.leading = parts.filterMap GapPart.comment?
  unowned : afterToken = false → gap.trailing = none
  blankLine : gap.blankLine = true ↔ GapPart.HaveBlankLine parts
  most : ∀ stretch : List GapPart, stretch <:+ parts → (∀ part ∈ stretch, part.comment? = none) →
    stretch.countP GapPart.isLineBreak ≤ gap.lineBreaks
  reached : ∃ stretch : List GapPart, stretch <:+ parts ∧ (∀ part ∈ stretch, part.comment? = none) ∧
    stretch.countP GapPart.isLineBreak = gap.lineBreaks

namespace Gap.Notes

variable {afterToken : Bool} {gap : Gap} {parts : List GapPart}

theorem empty : Gap.empty.Notes afterToken [] where
  comments := rfl
  unowned _ := rfl
  blankLine := by simp [Gap.empty, GapPart.HaveBlankLine]
  most stretch inside _ := by simp [List.suffix_nil.mp inside]
  reached := ⟨[], List.suffix_refl _, by simp, rfl⟩

/-- One more part that is no comment. Only a line break is counted. -/
private theorem addFree (notes : gap.Notes afterToken parts) (part : GapPart)
    (free : part.comment? = none) :
    (Gap.mk gap.trailing gap.leading
      (gap.blankLine || (part.isLineBreak && decide (1 ≤ gap.lineBreaks)))
      (gap.lineBreaks + if part.isLineBreak then 1 else 0)).Notes afterToken (parts ++ [part]) := by
  have most : ∀ stretch : List GapPart, stretch <:+ parts ++ [part] →
      (∀ part ∈ stretch, part.comment? = none) → stretch.countP GapPart.isLineBreak ≤
        gap.lineBreaks + if part.isLineBreak then 1 else 0 := by
    intro stretch behind all
    rcases (GapPart.stretch_concat free).mp ⟨behind, all⟩ with rfl | ⟨front, rfl, behind, all⟩
    · simp
    · have fewer := notes.most front behind all
      rw [List.countP_append, List.countP_singleton]
      omega
  obtain ⟨longest, behind, all, counted⟩ := notes.reached
  have extended := (GapPart.stretch_concat free).mpr (.inr ⟨longest, rfl, behind, all⟩)
  have count : (longest ++ [part]).countP GapPart.isLineBreak =
      gap.lineBreaks + if part.isLineBreak then 1 else 0 := by
    rw [List.countP_append, List.countP_singleton, counted]
  refine ⟨by simp [notes.comments, free], notes.unowned, ?_, most,
    ⟨_, extended.1, extended.2, count⟩⟩
  rw [GapPart.haveBlankLine_concat, Bool.or_eq_true, notes.blankLine, Bool.and_eq_true,
    decide_eq_true_eq]
  constructor
  · rintro (before | ⟨isBreak, some⟩)
    · exact .inl before
    · refine .inr ⟨_, extended.1, extended.2, ?_⟩
      rw [count, if_pos isBreak]
      omega
  · rintro (before | ⟨stretch, behind, all, breaks⟩)
    · exact .inl before
    · rcases (GapPart.stretch_concat free).mp ⟨behind, all⟩ with rfl | ⟨front, rfl, behind, all⟩
      · simp at breaks
      · rw [List.countP_append, List.countP_singleton] at breaks
        by_cases isBreak : part.isLineBreak = true
        · rw [if_pos isBreak] at breaks
          have fewer := notes.most front behind all
          exact .inr ⟨isBreak, by omega⟩
        · rw [if_neg isBreak] at breaks
          exact .inl (notes.blankLine.mp (notes.blankLine.mpr
            ⟨front, behind.isInfix, all, breaks⟩))

/-- One more comment. It belongs to the token before the gap if that is where it can go, and no stretch
goes on behind it. -/
private theorem addComment {part : GapPart} {text : String} (notes : gap.Notes afterToken parts)
    (comment : part.comment? = some text) :
    (gap.add afterToken (.comment text)).Notes afterToken (parts ++ [part]) := by
  have noStretch : ∀ stretch : List GapPart, stretch <:+ parts ++ [part] →
      (∀ part ∈ stretch, part.comment? = none) → stretch = [] := by
    intro stretch behind all
    rcases List.suffix_concat_iff.mp behind with rfl | ⟨front, rfl, _⟩
    · rfl
    · have none := all part (by simp)
      rw [comment] at none
      cases none
  have blankLine : gap.blankLine = true ↔ GapPart.HaveBlankLine (parts ++ [part]) := by
    rw [GapPart.haveBlankLine_concat, notes.blankLine]
    refine ⟨.inl, ?_⟩
    rintro (before | ⟨stretch, behind, all, breaks⟩)
    · exact before
    · rw [noStretch stretch behind all] at breaks
      simp at breaks
  have most : ∀ stretch : List GapPart, stretch <:+ parts ++ [part] →
      (∀ part ∈ stretch, part.comment? = none) → stretch.countP GapPart.isLineBreak ≤ 0 := by
    intro stretch behind all
    simp [noStretch stretch behind all]
  have reached : ∃ stretch : List GapPart, stretch <:+ parts ++ [part] ∧
      (∀ part ∈ stretch, part.comment? = none) ∧ stretch.countP GapPart.isLineBreak = 0 :=
    ⟨[], List.nil_suffix, by simp, rfl⟩
  unfold Gap.add
  dsimp only
  split
  · rename_i owned
    simp only [Bool.and_eq_true, beq_iff_eq, List.isEmpty_iff, Option.isNone_iff_eq_none] at owned
    obtain ⟨⟨⟨after, noBreaks⟩, noLeading⟩, noTrailing⟩ := owned
    have comments := notes.comments
    rw [noLeading, noTrailing] at comments
    refine ⟨?_, fun before => ?_, blankLine, ?_, ?_⟩
    · simp [noLeading, ← comments, comment]
    · rw [after] at before
      cases before
    · simpa [noBreaks] using most
    · simpa [noBreaks] using reached
  · refine ⟨?_, notes.unowned, blankLine, most, reached⟩
    simp [← List.append_assoc, notes.comments, comment]

theorem add (notes : gap.Notes afterToken parts) (part : GapPart) :
    (gap.add afterToken part.piece).Notes afterToken (parts ++ [part]) := by
  cases part with
  | splice => simpa [GapPart.piece, Gap.add, GapPart.isLineBreak] using notes.addFree .splice rfl
  | lineComment body => exact notes.addComment rfl
  | blockComment body => exact notes.addComment rfl
  | blank c =>
    have free := notes.addFree (.blank c) rfl
    by_cases isBreak : c = '\n'
    · simpa [GapPart.piece, Gap.add, GapPart.isLineBreak, isBreak] using free
    · have inLine : (c == '\n') = false := beq_false_of_ne isBreak
      simpa [GapPart.piece, Gap.add, GapPart.isLineBreak, isBreak, inLine] using free

end Gap.Notes

/-- Reading a gap finds its parts, and the notes record them. -/
theorem Gap.read_notes {afterToken : Bool} {gap read : Gap} {cursor reached : Cursor}
    {before : List GapPart} (notes : gap.Notes afterToken before)
    (found : Gap.read afterToken gap cursor = (.ok read, reached)) :
    ∃ parts : List GapPart, cursor.rest = parts.flatMap GapPart.text ++ reached.rest ∧
      reached.location = cursor.location.advance (parts.flatMap GapPart.text) ∧
      GapPart.AreGap reached.rest parts ∧ read.Notes afterToken (before ++ parts) := by
  fun_induction Gap.read afterToken gap cursor generalizing before with
  | case1 gap cursor none =>
    cases found
    exact ⟨[], rfl, rfl, trivial, by simpa using notes⟩
  | case2 gap cursor scan some fault => cases found
  | case3 gap cursor scan some piece value ih =>
    obtain ⟨part, used, ends, rfl⟩ := GapPiece.first?_part some value
    obtain ⟨parts, rest, place, areGap, notes⟩ := ih (notes.add part) found
    have divided : scan.used ++ scan.rest = cursor.rest := (GapPiece.first?_divides some).1
    have following : scan.rest = parts.flatMap GapPart.text ++ reached.rest := rest
    refine ⟨part :: parts, ?_, ?_, ⟨?_, areGap⟩, by simpa using notes⟩
    · rw [← divided, following, ← used, List.flatMap_cons, List.append_assoc]
    · rw [place, List.flatMap_cons, used, Location.advance_append]
      rfl
    · rw [← following]
      exact ends

/-- The text with a bare line feed in place of the carriage return and line feed of every splice. -/
def bareSplices : List Char → List Char
  | [] => []
  | '\\' :: '\r' :: '\n' :: rest => '\\' :: '\n' :: bareSplices rest
  | c :: rest => c :: bareSplices rest

/-- A slice of the source spells the kind of a token. The end has no slice, and a directive is the
slice with bare splices and without the blanks at its end. -/
def TokenKind.IsSpelledBy (slice : List Char) (kind : TokenKind) : Prop :=
  match kind with
  | .directive text => text.toList = Text.trimEnd (bareSplices slice)
  | kind => kind.spelling.toList = slice

/-- The place behind a text: its line breaks and the characters behind the last of them, counted from
one. -/
def Location.behind (text : List Char) : Location :=
  ⟨1 + text.count '\n', 1 + (text.reverse.takeWhile (· != '\n')).length⟩

theorem Location.behind_append (before text : List Char) :
    Location.behind (before ++ text) = (Location.behind before).advance text := by
  induction text generalizing before with
  | nil => simp
  | cons c rest ih =>
    have step : Location.behind (before ++ [c]) = (Location.behind before).after c := by
      by_cases isBreak : c = '\n'
      · simp [Location.behind, Location.after, isBreak, Nat.add_assoc]
      · simp [Location.behind, Location.after, isBreak, Nat.add_comm]
    rw [← List.singleton_append, ← List.append_assoc, ih, step]
    rfl

theorem bareSplices_cons {c : Char} {rest : List Char}
    (whole : ∀ more, c = '\\' → rest ≠ '\r' :: '\n' :: more) :
    bareSplices (c :: rest) = c :: bareSplices rest := by
  rw [bareSplices]
  intro more mark follows
  exact whole more mark follows

namespace Lexeme

theorem directiveLine_value (text : List Char) :
    (directiveLine text).value = bareSplices (directiveLine text).used := by
  fun_induction directiveLine text with
  | case1 => rfl
  | case2 => rfl
  | case3 rest ih => simp [Scan.map, Scan.after, ih, bareSplices]
  | case4 rest ih => simp [Scan.map, Scan.after, ih, bareSplices]
  | case5 c rest _ _ notSplice ih =>
    have divided : (directiveLine rest).used ++ (directiveLine rest).rest = rest :=
      directiveLine_divides rest
    show c :: (directiveLine rest).value = bareSplices (c :: (directiveLine rest).used)
    rw [ih, bareSplices_cons]
    intro more mark used
    rw [used] at divided
    exact notSplice _ mark divided.symm

/-- A scan whose kind spells out what was used for it. -/
def Spells (scan : Scan (Except LexFault TokenKind)) : Prop :=
  ∀ kind, scan.value = .ok kind → kind ≠ .endOfFile ∧ kind.IsSpelledBy scan.used

variable {kind : TokenKind} {front : List Char}

theorem spells_error {scan : Scan α} {fault : LexFault} : Spells (scan.map fun _ => .error fault) :=
  fun _ value => nomatch value

theorem spells_ok {scan : Scan α} (solid : kind ≠ .endOfFile) (spelled : kind.IsSpelledBy scan.used) :
    Spells (scan.map fun _ => .ok kind) := by
  intro other value
  cases value
  exact ⟨solid, spelled⟩

private theorem numberKind_spells (text : List Char) :
    numberKind text ≠ .endOfFile ∧ (numberKind text).IsSpelledBy text := by
  unfold numberKind
  split <;> simp [TokenKind.IsSpelledBy, TokenKind.spelling]

private theorem quoted_spells (quote : Char) (next : List Char) : Spells (quoted front quote next) := by
  unfold quoted
  dsimp only
  split
  · refine spells_ok ?_ ?_ <;> unfold quotedKind <;> split <;>
      simp [TokenKind.IsSpelledBy, TokenKind.spelling]
  · exact spells_error

private theorem rawString_spells (next : List Char) : Spells (rawString front next) := by
  unfold rawString
  dsimp only
  split
  · exact spells_error
  · split
    · exact spells_ok nofun (by simp [TokenKind.IsSpelledBy, TokenKind.spelling])
    · exact spells_error

private theorem wordKind_spells (text : List Char) :
    wordKind (String.ofList text) ≠ .endOfFile ∧
      (wordKind (String.ofList text)).IsSpelledBy text := by
  unfold wordKind
  split
  · rename_i word reserved
    have spelled : word.spelling = String.ofList text := by
      simpa using List.find?_some reserved
    exact ⟨nofun, by simp [TokenKind.IsSpelledBy, TokenKind.spelling, spelled]⟩
  · exact ⟨nofun, by simp [TokenKind.IsSpelledBy, TokenKind.spelling]⟩

private theorem word_spells (first : Char) (next : List Char) : Spells (word first next) := by
  have plain := wordKind_spells ((Scan.takeWhile isNameChar next).after [first]).used
  unfold word
  dsimp only
  split
  · split
    · exact quoted_spells _ _
    · split
      · exact rawString_spells _
      · exact spells_ok plain.1 plain.2
  · split
    · exact quoted_spells _ _
    · exact spells_ok plain.1 plain.2
  · exact spells_ok plain.1 plain.2

theorem longest?_spells {first : Char} {next : List Char} {mark : Punctuator} {more : Nat}
    (longest : Punctuator.longest? first next = some (mark, more)) :
    mark.spelling.toList = first :: next.take more := by
  unfold Punctuator.longest? at longest
  split at longest <;> cases longest <;> rfl

private theorem punctuator_spells (first : Char) (next : List Char) :
    Spells (punctuator first next) := by
  unfold punctuator
  split
  · rename_i mark more longest
    intro kind value
    cases value
    exact ⟨nofun, longest?_spells longest⟩
  · exact fun _ value => nomatch value

theorem scan_spells (first : Char) (next : List Char) : Spells (scan first next) := by
  unfold scan
  split
  · exact quoted_spells _ _
  · split
    · have number := numberKind_spells ((numberRest
        (first == '0' && next.head?.any fun c => c == 'x' || c == 'X') first next).after [first]).used
      exact spells_ok number.1 number.2
    · split
      · exact word_spells first next
      · exact punctuator_spells first next

theorem directive_spells (text : List Char) : Spells (directive text) := by
  refine spells_ok nofun ?_
  show (String.ofList _).toList = _
  rw [String.toList_ofList, directiveLine_value]

end Lexeme

/-- A gap and the slice of the token behind it. -/
structure Segment where
  gap : List GapPart
  slice : List Char

def Segment.text (segment : Segment) : List Char :=
  segment.gap.flatMap GapPart.text ++ segment.slice

/-- The token records the segment that stands behind the text and the token before it, and ahead of the
rest of the source. -/
structure Token.Records (token : Token) (previous : Option Token) (before : List Char)
    (segment : Segment) (rest : List Char) : Prop where
  gap : GapPart.AreGap (segment.slice ++ rest) segment.gap
  spelled : token.kind.IsSpelledBy segment.slice
  located : token.location = .behind (before ++ segment.gap.flatMap GapPart.text)
  comments : (previous.bind (·.trailingComment)).toList ++ token.leadingComments =
    segment.gap.filterMap GapPart.comment?
  blankLine : token.blankLineBefore = true ↔ GapPart.HaveBlankLine segment.gap

/-- Tokens up to the end token record segments one by one. -/
inductive Token.Divide : Option Token → List Char → List Segment → List Token → Prop
  | ended {previous : Option Token} {before : List Char} {segment : Segment} {token : Token}
      (records : token.Records previous before segment []) (isEnd : token.kind = .endOfFile) :
      Divide previous before [segment] [token]
  | token {previous : Option Token} {before : List Char} {segment : Segment} {token : Token}
      {segments : List Segment} {tokens : List Token}
      (records : token.Records previous before segment (segments.flatMap Segment.text))
      (inside : token.kind ≠ .endOfFile)
      (later : Divide (some token) (before ++ segment.text) segments tokens) :
      Divide previous before (segment :: segments) (token :: tokens)

namespace Token

theorem scanKind_spells (cursor : Cursor) (first : Char) (next : List Char) :
    Lexeme.Spells (scanKind cursor first next) := by
  unfold scanKind
  split
  · exact Lexeme.directive_spells _
  · exact Lexeme.scan_spells first next

theorem scanKind_divides (cursor : Cursor) (first : Char) (next : List Char) :
    (scanKind cursor first next).Divides (first :: next) := by
  unfold scanKind
  split
  · exact Lexeme.directive_divides _
  · exact Lexeme.scan_divides first next

theorem pastKind_location (cursor : Cursor) (first : Char) (scan : Scan α) :
    (pastKind cursor first scan).location = cursor.location.advance scan.used ∧
      (pastKind cursor first scan).rest = scan.rest := by
  unfold pastKind
  split <;> exact ⟨rfl, rfl⟩

/-- Behind a gap whose notes are known, the tokens that are read record the rest of the text. -/
private theorem readAfter_divide {gap : Gap} {cursor : Cursor} {tokens : List Token}
    {previous : Option Token} {before : List Char} {parts : List GapPart} {afterToken : Bool}
    (notes : gap.Notes afterToken parts) (areGap : GapPart.AreGap cursor.rest parts)
    (place : cursor.location = .behind (before ++ parts.flatMap GapPart.text))
    (owner : gap.trailing = previous.bind (·.trailingComment))
    (read : (readAfter gap cursor).1 = .ok tokens) :
    ∃ slice segments, cursor.rest = slice ++ segments.flatMap Segment.text ∧
      Divide previous before (⟨parts, slice⟩ :: segments) tokens := by
  fun_induction readAfter gap cursor generalizing tokens previous before parts afterToken with
  | case1 gap cursor empty =>
    cases read
    rw [empty] at areGap
    refine ⟨[], [], by simp [empty], .ended ⟨areGap, rfl, place, ?_, notes.blankLine⟩ rfl⟩
    rw [← owner, notes.comments]
  | case2 => cases read
  | case3 => cases read
  | case4 gap cursor first next front scan past kind value after reached found token following =>
    rename_i stopped same ih
    cases following with
    | error fault => cases read
    | ok behind =>
      cases read
      obtain ⟨solid, spelled⟩ := scanKind_spells cursor first next kind value
      obtain ⟨pastPlace, pastRest⟩ := pastKind_location cursor first scan
      obtain ⟨gapParts, gapText, gapPlace, isGap, gapNotes⟩ := Gap.read_notes .empty found
      rw [List.nil_append] at gapNotes
      have divided : scan.used ++ scan.rest = cursor.rest :=
        front ▸ scanKind_divides cursor first next
      have reachedPlace : reached.location = .behind
          ((before ++ Segment.text ⟨parts, scan.used⟩) ++ gapParts.flatMap GapPart.text) := by
        simp only [gapPlace, pastPlace, place, past, Segment.text, Location.behind_append,
          Location.advance_append]
      obtain ⟨slice, segments, rest, later⟩ : ∃ slice segments,
          reached.rest = slice ++ segments.flatMap Segment.text ∧ Divide (some token)
            (before ++ Segment.text ⟨parts, scan.used⟩) (⟨gapParts, slice⟩ :: segments) behind :=
        ih gapNotes isGap reachedPlace rfl (congrArg Prod.fst same)
      have whole : cursor.rest =
          scan.used ++ (Segment.mk gapParts slice :: segments).flatMap Segment.text := by
        rw [← divided, ← pastRest, gapText, rest, List.flatMap_cons, Segment.text,
          List.append_assoc]
      rw [whole] at areGap
      refine ⟨scan.used, _, whole,
        .token ⟨areGap, spelled, place, ?_, notes.blankLine⟩ solid later⟩
      rw [← owner, notes.comments]

/-- No token but the last one is an end token. -/
theorem Divide.ended_once {previous : Option Token} {before : List Char} {segments : List Segment}
    {tokens : List Token} (divide : Divide previous before segments tokens) :
    ∃ front last, tokens = front ++ [last] ∧ last.kind = .endOfFile ∧
      ∀ token ∈ front, token.kind ≠ .endOfFile := by
  induction divide with
  | ended _ isEnd => exact ⟨[], _, rfl, isEnd, by simp⟩
  | @token _ _ _ token _ _ _ inside _ ih =>
    obtain ⟨front, last, rfl, isEnd, others⟩ := ih
    refine ⟨token :: front, last, rfl, isEnd, ?_⟩
    rintro other (_ | ⟨_, member⟩)
    · exact inside
    · exact others other member

/-- A source that can be read is made up of segments, past a byte order mark, and its tokens record
them in order up to the only end token. -/
theorem ofSource_divide {source : String} {tokens : List Token} (lexed : ofSource source = .ok tokens) :
    (∃ segments : List Segment, segments.flatMap Segment.text = (Cursor.ofSource source).rest ∧
      Divide none [] segments tokens) ∧
    ∃ front last, tokens = front ++ [last] ∧ last.kind = .endOfFile ∧
      ∀ token ∈ front, token.kind ≠ .endOfFile := by
  unfold ofSource readAll at lexed
  split at lexed
  · cases lexed
  · rename_i gap reached found
    obtain ⟨parts, text, place, areGap, notes⟩ := Gap.read_notes .empty found
    rw [List.nil_append] at notes
    have start : (Cursor.ofSource source).location = .behind [] := by
      unfold Cursor.ofSource
      split <;> rfl
    have reachedPlace : reached.location = .behind ([] ++ parts.flatMap GapPart.text) := by
      rw [place, start, ← Location.behind_append]
    have owner : gap.trailing = (none : Option Token).bind (·.trailingComment) := notes.unowned rfl
    obtain ⟨slice, segments, rest, divide⟩ := readAfter_divide notes areGap reachedPlace owner lexed
    refine ⟨⟨_, ?_, divide⟩, divide.ended_once⟩
    rw [text, rest, List.flatMap_cons, Segment.text, List.append_assoc]

/-- A directive that goes on over a splice, comments on both sides of a token and an empty line. -/
theorem ofSource_divide_directive : ∃ tokens,
    ofSource "#if A\\\r\n 1\n/* x */ int // y \n\n  a;" = .ok tokens ∧ tokens.length = 5 ∧
      (∃ segments : List Segment, segments.flatMap Segment.text =
          (Cursor.ofSource "#if A\\\r\n 1\n/* x */ int // y \n\n  a;").rest ∧
        Divide none [] segments tokens) ∧
      ∃ front last, tokens = front ++ [last] ∧ last.kind = .endOfFile ∧
        ∀ token ∈ front, token.kind ≠ .endOfFile := by
  have five : (ofSource "#if A\\\r\n 1\n/* x */ int // y \n\n  a;").toOption.map List.length =
      some 5 := by
    decide +kernel
  cases lexed : ofSource "#if A\\\r\n 1\n/* x */ int // y \n\n  a;" with
  | error error =>
    rw [lexed] at five
    cases five
  | ok tokens =>
    rw [lexed] at five
    exact ⟨tokens, rfl, Option.some.inj five, ofSource_divide lexed⟩

end Token

end CppSyntax
