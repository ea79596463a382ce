import CppSyntax.Proofs.Lexing.Division
import CppSyntax.Proofs.Lexing.Layout
import CppSyntax.Proofs.Lexing.Returns

/-!
The kinds of the tokens of a source, without their places and their comments, and what the first character
of a token says about its kind.
-/

namespace CppSyntax

namespace TokenKind

def isLiteral : TokenKind → Bool
  | .integer _ | .floating _ | .character _ | .string _ => true
  | _ => false

/-- Names, reserved or not. -/
def isWord : TokenKind → Bool
  | .identifier _ | .keyword _ => true
  | _ => false

end TokenKind

namespace Lexeme

theorem quoted_isLiteral {front : List Char} {quote : Char} {next : List Char} {kind : TokenKind}
    (value : (quoted front quote next).value = .ok kind) : kind.isLiteral = true := by
  cases closed : (quotedRest quote next).value with
  | false => cases (quoted_open closed front).symm.trans value
  | true =>
    rw [quoted_closed closed] at value
    cases value
    unfold quotedKind
    split <;> rfl

theorem rawString_isLiteral {front next : List Char} {kind : TokenKind}
    (value : (rawString front next).value = .ok kind) : kind.isLiteral = true := by
  unfold rawString at value
  dsimp only at value
  split at value
  · cases value
  · split at value <;> cases value
    rfl

theorem numberKind_isLiteral (text : List Char) : (numberKind text).isLiteral = true := by
  unfold numberKind
  split <;> rfl

theorem wordKind_isWord (text : String) : (wordKind text).isWord = true := by
  unfold wordKind
  split <;> rfl

theorem word_sorts {first : Char} {next : List Char} {kind : TokenKind}
    (value : (word first next).value = .ok kind) : kind.isLiteral = true ∨ kind.isWord = true := by
  obtain ⟨name, tail, rfl, chars, ends⟩ := word_front next
  rcases ends with ⟨text, rfl⟩ | ⟨text, rfl⟩ | ends
  · rw [word_string chars] at value
    split at value
    · exact .inl (quoted_isLiteral value)
    · split at value
      · exact .inl (rawString_isLiteral value)
      · cases value
        exact .inr (wordKind_isWord _)
  · rw [word_character chars] at value
    split at value
    · exact .inl (quoted_isLiteral value)
    · cases value
      exact .inr (wordKind_isWord _)
  · rw [word_of_ends chars ends] at value
    cases value
    exact .inr (wordKind_isWord _)

/-- A token other than a directive is a literal, a word that starts like a name, or a mark. -/
theorem scan_sorts {first : Char} {next : List Char} {kind : TokenKind}
    (value : (scan first next).value = .ok kind) :
    kind.isLiteral = true ∨ kind.isWord = true ∧ isNameStart first = true ∨
      ∃ mark, kind = .punctuator mark := by
  unfold scan at value
  split at value
  · exact .inl (quoted_isLiteral value)
  · split at value
    · cases value
      exact .inl (numberKind_isLiteral _)
    · split at value
      · rename_i starts
        exact (word_sorts value).imp id fun isWord => .inl ⟨isWord, starts⟩
      · unfold punctuator at value
        split at value <;> cases value
        exact .inr (.inr ⟨_, rfl⟩)

theorem scan_ne_directive (first : Char) (next : List Char) (text : String) :
    (scan first next).value ≠ .ok (.directive text) := by
  intro value
  rcases scan_sorts value with literal | ⟨isWord, _⟩ | ⟨mark, same⟩
  · cases literal
  · cases isWord
  · cases same

/-- What no token within a line starts with. -/
theorem scan_stray {first : Char} (stray : first ∈ ['\\', '#', '\ufeff']) (next : List Char) :
    (scan first next).value = .error (.unexpectedCharacter first) := by
  simp only [List.mem_cons, List.not_mem_nil, or_false] at stray
  obtain ⟨noName, noDigit⟩ : isNameStart first = false ∧ first.isDigit = false := by
    rcases stray with rfl | rfl | rfl <;> decide +kernel
  rcases stray with rfl | rfl | rfl <;>
    simp [scan, noName, noDigit, punctuator, Punctuator.longest?]

theorem scan_spelling {first : Char} {next : List Char} {kind : TokenKind}
    (value : (scan first next).value = .ok kind) : kind.spelling.toList = (scan first next).used := by
  have spelled := (scan_spells first next kind value).2
  cases kind with
  | directive text => exact absurd value (scan_ne_directive first next text)
  | _ => exact spelled

/-- The spelling of a token starts where the token does. -/
theorem scan_opens {first : Char} {next : List Char} {kind : TokenKind}
    (value : (scan first next).value = .ok kind) : ∃ more, kind.spelling.toList = first :: more := by
  have divides : (scan first next).used ++ (scan first next).rest = first :: next := scan_divides first next
  rw [scan_spelling value]
  cases used : (scan first next).used with
  | nil => exact absurd used (scan_used first next)
  | cons c more =>
    rw [used] at divides
    exact ⟨more, congrArg (· :: more) (List.cons.inj divides).1⟩

end Lexeme

namespace Token

/-- A mark starts with the character at its place. -/
theorem scanKind_mark {cursor : Cursor} {first : Char} {next : List Char} {mark : Punctuator}
    (value : (scanKind cursor first next).value = .ok (.punctuator mark)) :
    mark.spelling.toList.head? = some first := by
  unfold scanKind at value
  split at value
  · cases value
  · obtain ⟨more, opened⟩ := Lexeme.scan_opens value
    exact congrArg List.head? opened

/-- What the rules of the grammar see of the tokens from a place in a gap on. -/
def glyphsFrom (afterToken : Bool) (gap : Gap) (cursor : Cursor) : Option (List Glyph) :=
  match Gap.read afterToken gap cursor with
  | (.error _, _) => none
  | (.ok after, reached) => (readAfter after reached).1.toOption.map (·.map Token.glyph)

/-- The kinds of the tokens from a place in a gap on. -/
def kindsFrom (afterToken : Bool) (gap : Gap) (cursor : Cursor) : Option (List TokenKind) :=
  match Gap.read afterToken gap cursor with
  | (.error _, _) => none
  | (.ok after, reached) => (readAfter after reached).1.toOption.map (·.map (·.kind))

section

variable {afterToken : Bool} {gap : Gap} {cursor : Cursor}

theorem kindsFrom_eq : kindsFrom afterToken gap cursor =
    (glyphsFrom afterToken gap cursor).map (·.map Glyph.kind) := by
  unfold kindsFrom glyphsFrom
  cases Gap.read afterToken gap cursor with
  | mk result reached =>
    cases result with
    | error => rfl
    | ok after =>
      simp only [Option.map_map]
      congr 1
      funext tokens
      exact (List.map_map (f := Token.glyph) (g := Glyph.kind)).symm

theorem glyphsFrom_nil (ended : cursor.rest = []) :
    glyphsFrom afterToken gap cursor = some [⟨.endOfFile, false⟩] := by
  have solid : GapPiece.first? cursor.rest = none := by rw [ended]; rfl
  rw [glyphsFrom, Gap.read_solid solid]
  simp only [readAfter_nil ended]
  rfl

theorem glyphsFrom_piece {scan : Scan (Except LexFault GapPiece)} {part : GapPiece}
    (found : GapPiece.first? cursor.rest = some scan) (value : scan.value = .ok part) :
    glyphsFrom afterToken gap cursor =
      glyphsFrom afterToken (gap.add afterToken part) (cursor.past scan) := by
  rw [glyphsFrom, Gap.read_piece found value]
  rfl

/-- A blank leaves its trace in the gap alone. -/
theorem glyphsFrom_blank (afterToken : Bool) (gap : Gap) {c : Char} {rest : List Char}
    (front : cursor.rest = c :: rest) (blank : Text.isBlank c = true) :
    ∃ (gap' : Gap) (past : Cursor), past.rest = rest ∧
      glyphsFrom afterToken gap cursor = glyphsFrom afterToken gap' past := by
  by_cases feed : c = '\n'
  · have found : GapPiece.first? cursor.rest = some ⟨.ok .lineBreak, ['\n'], rest⟩ := by
      rw [front, feed]
      rfl
    exact ⟨_, _, rfl, glyphsFrom_piece found rfl⟩
  · have found := front ▸ GapPiece.first?_blank blank feed rest
    exact ⟨_, _, rfl, glyphsFrom_piece found rfl⟩

theorem glyphsFrom_token {first : Char} {next : List Char} {kind : TokenKind}
    (front : cursor.rest = first :: next) (solid : GapPiece.first? cursor.rest = none)
    (value : (scanKind cursor first next).value = .ok kind) :
    glyphsFrom afterToken gap cursor =
      (glyphsFrom true .empty (pastKind cursor first (scanKind cursor first next))).map
        (⟨kind, isJoint (scanKind cursor first next).rest⟩ :: ·) := by
  rw [glyphsFrom, Gap.read_solid solid, glyphsFrom]
  cases read : Gap.read true .empty (pastKind cursor first (scanKind cursor first next)) with
  | mk result reached =>
    cases result with
    | error error =>
      simp only [readAfter_gapFault front value (congrArg Prod.fst read)]
      rfl
    | ok after =>
      simp only [readAfter_cons front value read, pastKind_rest]
      cases (readAfter after reached).1 <;> rfl

theorem glyphsFrom_fault {first : Char} {next : List Char} {fault : LexFault}
    (front : cursor.rest = first :: next) (solid : GapPiece.first? cursor.rest = none)
    (value : (scanKind cursor first next).value = .error fault) :
    glyphsFrom afterToken gap cursor = none := by
  rw [glyphsFrom, Gap.read_solid solid]
  simp only [readAfter_fault front value]
  rfl

theorem kindsFrom_nil (ended : cursor.rest = []) :
    kindsFrom afterToken gap cursor = some [.endOfFile] := by
  rw [kindsFrom_eq, glyphsFrom_nil ended]
  rfl

theorem kindsFrom_lineBreak {rest : List Char} (front : cursor.rest = '\n' :: rest) :
    kindsFrom afterToken gap cursor =
      kindsFrom afterToken (gap.add afterToken .lineBreak) ⟨rest, cursor.location.advance ['\n'], true⟩ := by
  have found : GapPiece.first? cursor.rest = some ⟨.ok .lineBreak, ['\n'], rest⟩ := by rw [front]; rfl
  rw [kindsFrom_eq, glyphsFrom_piece found rfl, ← kindsFrom_eq]
  simp [Cursor.past]

theorem kindsFrom_token {first : Char} {next : List Char} {kind : TokenKind}
    (front : cursor.rest = first :: next) (solid : GapPiece.first? cursor.rest = none)
    (value : (scanKind cursor first next).value = .ok kind) :
    kindsFrom afterToken gap cursor =
      (kindsFrom true .empty (pastKind cursor first (scanKind cursor first next))).map (kind :: ·) := by
  rw [kindsFrom_eq, glyphsFrom_token front solid value, kindsFrom_eq, Option.map_map, Option.map_map]
  rfl

theorem kindsFrom_fault {first : Char} {next : List Char} {fault : LexFault}
    (front : cursor.rest = first :: next) (solid : GapPiece.first? cursor.rest = none)
    (value : (scanKind cursor first next).value = .error fault) :
    kindsFrom afterToken gap cursor = none := by
  rw [kindsFrom_eq, glyphsFrom_fault front solid value]
  rfl

/-- What is read starts with the token at the place. -/
theorem kindsFrom_opens {first : Char} {next : List Char} {kinds : List TokenKind}
    (front : cursor.rest = first :: next) (solid : GapPiece.first? cursor.rest = none)
    (read : kindsFrom afterToken gap cursor = some kinds) :
    ∃ kind rest, kinds = kind :: rest ∧ (scanKind cursor first next).value = .ok kind ∧
      kindsFrom true .empty (pastKind cursor first (scanKind cursor first next)) = some rest := by
  cases value : (scanKind cursor first next).value with
  | error fault => cases (kindsFrom_fault front solid value).symm.trans read
  | ok kind =>
    rw [kindsFrom_token front solid value] at read
    obtain ⟨rest, later, rfl⟩ := Option.map_eq_some_iff.mp read
    exact ⟨kind, rest, rfl, rfl, later⟩

/-- A token at the end of its line. -/
theorem kindsFrom_line {first : Char} {next used rest : List Char} {kind : TokenKind}
    (front : cursor.rest = first :: next) (solid : GapPiece.first? cursor.rest = none)
    (scanned : scanKind cursor first next = ⟨.ok kind, used, '\n' :: rest⟩) :
    ∃ gap' place, kindsFrom afterToken gap cursor =
      (kindsFrom true gap' ⟨rest, place, true⟩).map (kind :: ·) := by
  rw [kindsFrom_token front solid (by rw [scanned])]
  rw [kindsFrom_lineBreak (pastKind_rest _ |>.trans (by rw [scanned]))]
  exact ⟨_, _, rfl⟩

end

/-- The kinds of the tokens of a source, if it can be read. -/
def kindsOf (source : String) : Option (List TokenKind) :=
  (ofSource source).toOption.map (·.map (·.kind))

theorem kindsOf_eq_some {source : String} {kinds : List TokenKind} :
    kindsOf source = some kinds ↔ ∃ tokens, ofSource source = .ok tokens ∧ tokens.map (·.kind) = kinds := by
  simp only [kindsOf, Option.map_eq_some_iff, toOption_eq_some]

theorem kindsOf_of_plain {source : String} (plain : source.toList.head? ≠ some '\ufeff') :
    kindsOf source = kindsFrom false .empty ⟨source.toList, .start, true⟩ := by
  unfold kindsOf ofSource readAll kindsFrom
  rw [Cursor.ofSource_of_plain plain]
  cases Gap.read false .empty ⟨source.toList, .start, true⟩ with
  | mk result reached => cases result <;> rfl

/-- What the rules of the grammar see of a source, if it can be read. -/
def glyphsOf (source : String) : Option (List Glyph) :=
  (ofSource source).toOption.map (·.map Token.glyph)

theorem glyphsOf_eq (source : String) :
    glyphsOf source = glyphsFrom false .empty (.ofSource source) := by
  unfold glyphsOf ofSource readAll glyphsFrom
  cases Gap.read false .empty (.ofSource source) with
  | mk result reached => cases result <;> rfl

/-- Where a plain text goes on with a solid character, a token starts. -/
theorem first?_of_plain {c : Char} {rest : List Char} (plain : Text.isPlain (c :: rest) = true)
    (solid : Text.isBlank c = false) : GapPiece.first? (c :: rest) = none := by
  simp only [Text.isPlain, Bool.and_eq_true, Bool.not_eq_true', Bool.and_eq_false_iff] at plain
  obtain ⟨⟨allowed, noComment⟩, _⟩ := plain
  have noSplice : c ≠ '\\' := by
    rintro rfl
    cases allowed
  by_cases slash : c = '/'
  · subst slash
    cases rest with
    | nil => rfl
    | cons d rest =>
      have apart := noComment.resolve_left (by simp)
      simp only [List.head?_cons, Option.any_some, Bool.or_eq_false_iff, beq_eq_false_iff_ne] at apart
      unfold GapPiece.first?
      split <;> rename_i same <;> cases same <;> simp_all
  · exact GapPiece.first?_eq_none solid noSplice slash

/-- The blanks between the tokens of a plain text can be made single spaces. -/
theorem glyphsFrom_squeezed {text : List Char} (plain : Text.isPlain text = true) {behindBlank : Bool}
    {afterToken afterOther : Bool} {gap otherGap : Gap} {cursor other : Cursor}
    (here : cursor.rest = text) (there : other.rest = Text.squeezed behindBlank text) :
    glyphsFrom afterToken gap cursor = glyphsFrom afterOther otherGap other := by
  match text, plain, here, there with
  | [], _, here, there => rw [glyphsFrom_nil here, glyphsFrom_nil there]
  | c :: rest, plain, here, there =>
    cases blank : Text.isBlank c with
    | true =>
      have later := Text.isPlain_tail plain
      obtain ⟨gap', past, front, same⟩ := glyphsFrom_blank afterToken gap here blank
      rw [same]
      cases behindBlank with
      | true =>
        rw [Text.squeezed_blank_on blank] at there
        exact glyphsFrom_squeezed later front there
      | false =>
        rw [Text.squeezed_blank blank] at there
        obtain ⟨gap', past', front', same'⟩ :=
          glyphsFrom_blank afterOther otherGap there (by decide)
        rw [same']
        exact glyphsFrom_squeezed later front front'
    | false =>
      have solid (behindBlank : Bool) :
          Text.squeezed behindBlank (c :: rest) = c :: Text.squeezed false rest :=
        Text.squeezed_solid blank
      rw [solid] at there
      have unquoted := Text.not_mem_of_isPlain plain
      have noDirective {cursor : Cursor} {next : List Char} :
          scanKind cursor c next = Lexeme.scan c next := by
        have unmarked := List.ne_of_not_mem_cons (unquoted '#' (by simp))
        simp [scanKind, startsDirective, unmarked.symm]
      have scanned := Lexeme.scan_respaced Text.respaces_squeezed (unquoted '"' (by simp))
        (unquoted '\'' (by simp))
      have front := first?_of_plain plain blank
      have front' : GapPiece.first? other.rest = none := by
        rw [there]
        refine first?_of_plain ?_ blank
        rw [← solid false, Text.isPlain_squeezed]
        exact plain
      have divided : (Lexeme.scan c rest).used ++ (Lexeme.scan c rest).rest = c :: rest :=
        Lexeme.scan_divides c rest
      cases value : (Lexeme.scan c rest).value with
      | error fault =>
        rw [glyphsFrom_fault here (here ▸ front) (noDirective ▸ value),
          glyphsFrom_fault there front' (by rw [noDirective, scanned]; exact value)]
      | ok kind =>
        have joint : isJoint (Text.squeezed false (Lexeme.scan c rest).rest) =
            isJoint (Lexeme.scan c rest).rest :=
          Text.respaces_squeezed.any_head? (fun d blank => by simp [blank]) _
        rw [glyphsFrom_token here (here ▸ front) (noDirective ▸ value),
          glyphsFrom_token there front' (by rw [noDirective, scanned]; exact value), noDirective,
          noDirective, scanned, Scan.before_rest, joint]
        have later := (Text.isPlain_append (divided ▸ plain)).2
        exact congrArg _ (glyphsFrom_squeezed later (pastKind_rest _) (pastKind_rest _))
termination_by text.length
decreasing_by
  all_goals first
    | exact Nat.lt_succ_self _
    | exact (Lexeme.scan_divides c rest).length_lt (Lexeme.scan_used c rest)

theorem glyphsOf_squeezed {source : String} (behindBlank : Bool)
    (plain : Text.isPlain source.toList = true) :
    glyphsOf source = glyphsOf (String.ofList (Text.squeezed behindBlank source.toList)) := by
  have unmarked {text : List Char} (plain : Text.isPlain text = true) : text.head? ≠ some '\ufeff' := by
    intro marked
    exact Text.not_mem_of_isPlain plain '\ufeff' (by simp) (List.mem_of_head? marked)
  have squeezed := Text.isPlain_squeezed behindBlank source.toList
  rw [glyphsOf_eq, glyphsOf_eq, Cursor.ofSource_of_plain (unmarked plain),
    Cursor.ofSource_of_plain (by rw [String.toList_ofList]; exact unmarked (squeezed.trans plain))]
  exact glyphsFrom_squeezed plain rfl String.toList_ofList

/-- Plain texts that differ only in their blanks have the same tokens, or neither can be read. -/
theorem glyphsOf_of_alike {behindBlank : Bool} {first second : String}
    (plain : Text.isPlain first.toList = true) (alike : Text.Alike behindBlank first second) :
    glyphsOf first = glyphsOf second := by
  have plain' : Text.isPlain second.toList = true := by
    rw [← Text.isPlain_squeezed behindBlank, ← alike, Text.isPlain_squeezed]
    exact plain
  rw [glyphsOf_squeezed behindBlank plain, glyphsOf_squeezed behindBlank plain', alike]

end Token

end CppSyntax
