import CppSyntax.Proofs.Lexing.Spelling
import CppSyntax.Token.Stream

/-!
How a text laid out as tokens and gaps is read. What matters of a token is everything but its place,
and for most purposes only its kind and whether it is joint.
-/

namespace CppSyntax

/-- The token with its place forgotten. -/
def Token.unplaced (token : Token) : Token := { token with location := ⟨0, 0⟩ }

/-- What the rules of the grammar see of a token. -/
structure Glyph where
  kind : TokenKind
  joint : Bool
deriving DecidableEq, Repr

def Token.glyph (token : Token) : Glyph := ⟨token.kind, token.joint⟩

@[simp] theorem Token.glyph_unplaced (token : Token) : token.unplaced.glyph = token.glyph := rfl

/-- What is found by evaluation has been read. -/
theorem toOption_eq_some {result : Except ε α} {value : α} :
    result.toOption = some value ↔ result = .ok value := by
  cases result <;> simp [Except.toOption]

section

variable {afterToken : Bool} {gap : Gap} {cursor : Cursor}

theorem GapPiece.first?_blank {c : Char} (isBlank : Text.isBlank c = true) (inLine : c ≠ '\n')
    (rest : List Char) : first? (c :: rest) = some ⟨.ok .blank, [c], rest⟩ := by
  have noSplice : c ≠ '\\' := by
    rintro rfl
    exact absurd isBlank (by decide)
  have noComment : c ≠ '/' := by
    rintro rfl
    exact absurd isBlank (by decide)
  unfold first?
  split <;> simp_all

/-- Where no piece starts there is no blank. -/
theorem GapPiece.isBlank_eq_false {c : Char} {rest : List Char} (solid : first? (c :: rest) = none) :
    Text.isBlank c = false := by
  cases blank : Text.isBlank c with
  | false => rfl
  | true =>
    by_cases feed : c = '\n'
    · rw [feed] at solid
      cases solid
    · cases solid.symm.trans (first?_blank blank feed rest)

theorem Gap.read_solid (solid : GapPiece.first? cursor.rest = none) :
    Gap.read afterToken gap cursor = (.ok gap, cursor) := by
  unfold Gap.read
  split
  · rfl
  · rename_i found
    cases solid.symm.trans found

theorem Gap.read_piece {scan : Scan (Except LexFault GapPiece)} {part : GapPiece}
    (found : GapPiece.first? cursor.rest = some scan) (value : scan.value = .ok part) :
    Gap.read afterToken gap cursor =
      Gap.read afterToken (gap.add afterToken part) (cursor.past scan) := by
  conv => lhs; unfold Gap.read
  split
  · rename_i missing
    cases found.symm.trans missing
  · rename_i other
    cases found.symm.trans other
    rw [value]

theorem Gap.read_fault {scan : Scan (Except LexFault GapPiece)} {fault : LexFault}
    (found : GapPiece.first? cursor.rest = some scan) (value : scan.value = .error fault) :
    Gap.read afterToken gap cursor = (.error ⟨fault, cursor.location⟩, cursor.past scan) := by
  unfold Gap.read
  split
  · rename_i missing
    cases found.symm.trans missing
  · rename_i other
    cases found.symm.trans other
    rw [value]

/-- Where a gap ends, no further piece starts. -/
theorem Gap.read_reached {after : Gap} {reached : Cursor}
    (found : Gap.read afterToken gap cursor = (.ok after, reached)) :
    GapPiece.first? reached.rest = none ∧ reached.rest <:+ cursor.rest := by
  fun_induction Gap.read afterToken gap cursor with
  | case1 gap cursor solid =>
    cases found
    exact ⟨solid, List.suffix_refl _⟩
  | case2 => cases found
  | case3 gap cursor scan piece some value ih =>
    obtain ⟨solid, behind⟩ := ih found
    have divided : scan.used ++ scan.rest = cursor.rest := (GapPiece.first?_divides piece).1
    exact ⟨solid, behind.trans ⟨_, divided⟩⟩

namespace Token

theorem readAfter_nil (ended : cursor.rest = []) : readAfter gap cursor =
    (.ok [⟨.endOfFile, cursor.location, false, gap.leading, none, gap.blankLine⟩], cursor) := by
  unfold readAfter
  split
  · rfl
  · rename_i other
    cases ended.symm.trans other

variable {first : Char} {next : List Char} (front : cursor.rest = first :: next)

include front

/-- A text that goes on with a token. -/
theorem readAfter_cons {kind : TokenKind} {after : Gap} {reached : Cursor}
    (value : (scanKind cursor first next).value = .ok kind)
    (read : Gap.read true .empty (pastKind cursor first (scanKind cursor first next)) =
      (.ok after, reached)) :
    readAfter gap cursor = ((readAfter after reached).1.map
      (⟨kind, cursor.location, isJoint (pastKind cursor first (scanKind cursor first next)).rest,
        gap.leading, after.trailing, gap.blankLine⟩ :: ·), (readAfter after reached).2) := by
  fun_cases readAfter gap cursor with
  | case1 ended => cases front.symm.trans ended
  | case2 _ _ other _ _ _ fault =>
    cases front.symm.trans other
    cases value.symm.trans fault
  | case3 _ _ other _ _ _ _ _ _ failed =>
    cases front.symm.trans other
    cases read.symm.trans failed
  | case4 _ _ other _ _ _ found _ _ done _ _ _ later =>
    cases front.symm.trans other
    cases value.symm.trans found
    cases read.symm.trans done
    rw [later]

theorem readAfter_fault {fault : LexFault} (value : (scanKind cursor first next).value = .error fault) :
    readAfter gap cursor =
      (.error ⟨fault, cursor.location⟩, pastKind cursor first (scanKind cursor first next)) := by
  fun_cases readAfter gap cursor with
  | case1 ended => cases front.symm.trans ended
  | case2 _ _ other _ _ _ found =>
    cases front.symm.trans other
    cases value.symm.trans found
    rfl
  | case3 _ _ other _ _ _ found =>
    cases front.symm.trans other
    cases value.symm.trans found
  | case4 _ _ other _ _ _ found =>
    cases front.symm.trans other
    cases value.symm.trans found

/-- A token that is followed by a faulty gap. -/
theorem readAfter_gapFault {kind : TokenKind} {error : LexError}
    (value : (scanKind cursor first next).value = .ok kind)
    (read : (Gap.read true .empty (pastKind cursor first (scanKind cursor first next))).1 = .error error) :
    readAfter gap cursor = (.error error,
      (Gap.read true .empty (pastKind cursor first (scanKind cursor first next))).2) := by
  fun_cases readAfter gap cursor with
  | case1 ended => cases front.symm.trans ended
  | case2 _ _ other _ _ _ found =>
    cases front.symm.trans other
    cases value.symm.trans found
  | case3 _ _ other _ _ _ _ _ _ failed =>
    cases front.symm.trans other
    cases (congrArg Prod.fst failed).symm.trans read
    exact congrArg (Prod.mk _) (congrArg Prod.snd failed).symm
  | case4 _ _ other _ _ _ _ _ _ done =>
    cases front.symm.trans other
    cases (congrArg Prod.fst done).symm.trans read

end Token

end

/-- Reading on in a gap leaves a comment to the token before it and finds the tokens behind it, which
are given up to their places. -/
def Lexed (afterToken lineOpen : Bool) (gap : Gap) (text : List Char) (trailing : Option String)
    (tokens : List Token) : Prop :=
  ∀ place, ∃ final reached found,
    Gap.read afterToken gap ⟨text, place, lineOpen⟩ = (.ok final, reached) ∧
      final.trailing = trailing ∧ (Token.readAfter final reached).1 = .ok found ∧
      found.map Token.unplaced = tokens

namespace Lexed

variable {afterToken lineOpen : Bool} {gap : Gap} {text rest : List Char}
  {trailing : Option String} {tokens : List Token}

/-- A gap that goes on with a piece. -/
theorem piece {scan : Scan (Except LexFault GapPiece)} {part : GapPiece}
    (found : GapPiece.first? text = some scan) (value : scan.value = .ok part)
    (later : Lexed afterToken (lineOpen || scan.used.contains '\n') (gap.add afterToken part)
      scan.rest trailing tokens) :
    Lexed afterToken lineOpen gap text trailing tokens := by
  intro place
  obtain ⟨final, reached, tail, read, rest⟩ := later (place.advance scan.used)
  refine ⟨final, reached, tail, ?_, rest⟩
  exact (Gap.read_piece found value).trans read

/-- A gap that ends before a token which a scan finds. -/
theorem ofScan {kind : TokenKind} {first : Char} {next : List Char} (used : List Char)
    {opened : Bool}
    (solid : GapPiece.first? (first :: next) = none)
    (scanned : ∀ place, Token.scanKind ⟨first :: next, place, lineOpen⟩ first next =
      ⟨.ok kind, used, rest⟩)
    (later : ∀ place, ∃ past, Token.pastKind ⟨first :: next, place, lineOpen⟩ first
      (⟨.ok kind, used, rest⟩ : Scan (Except LexFault TokenKind)) = ⟨rest, past, opened⟩)
    (following : Lexed true opened .empty rest trailing tokens) :
    Lexed afterToken lineOpen gap (first :: next) gap.trailing
      (⟨kind, ⟨0, 0⟩, Token.isJoint rest, gap.leading, trailing, gap.blankLine⟩ :: tokens) := by
  intro place
  obtain ⟨past, same⟩ := later place
  obtain ⟨final, reached, tail, read, belongs, found, erased⟩ := following past
  have tokens : (Token.readAfter gap ⟨first :: next, place, lineOpen⟩).1 = _ := congrArg Prod.fst
    (Token.readAfter_cons rfl (by rw [scanned place]) (by rw [scanned place, same, read]))
  rw [scanned place, same, found] at tokens
  refine ⟨gap, ⟨first :: next, place, lineOpen⟩, _, Gap.read_solid solid, rfl, tokens, ?_⟩
  simp [Token.unplaced, erased, belongs]

/-- A gap that ends before a token other than a directive. -/
theorem token {kind : TokenKind} {first : Char} {more : List Char}
    (reads : kind.ReadsBefore first more rest)
    (following : Lexed true false .empty rest trailing tokens) :
    Lexed afterToken lineOpen gap (first :: (more ++ rest)) gap.trailing
      (⟨kind, ⟨0, 0⟩, Token.isJoint rest, gap.leading, trailing, gap.blankLine⟩ :: tokens) := by
  have unmarked : ∀ place, Token.startsDirective ⟨first :: (more ++ rest), place, lineOpen⟩ first =
      false := by
    intro place
    simp [Token.startsDirective, reads.unmarked]
  have inLine : (first :: more).contains '\n' = false := by
    simpa only [List.contains_eq_mem, decide_eq_false_iff_not] using reads.inLine
  refine ofScan (first :: more) reads.solid (fun place => ?_) (fun place => ⟨place.advance (first :: more), ?_⟩)
    following
  · rw [Token.scanKind, unmarked place, if_neg (by simp), reads.scanned]
  · rw [Token.pastKind, unmarked place, if_neg (by simp), Cursor.pastToken, inLine]

/-- The end of the text. -/
theorem nil : Lexed afterToken lineOpen gap [] gap.trailing
    [⟨.endOfFile, ⟨0, 0⟩, false, gap.leading, none, gap.blankLine⟩] := by
  intro place
  exact ⟨gap, ⟨[], place, lineOpen⟩, [⟨.endOfFile, place, false, gap.leading, none, gap.blankLine⟩],
    Gap.read_solid rfl, rfl, congrArg Prod.fst (Token.readAfter_nil rfl), rfl⟩

/-- No token starts with a byte order mark. -/
theorem unmarked (lexed : Lexed afterToken lineOpen gap text trailing tokens) :
    text.head? ≠ some '\ufeff' := by
  intro marked
  obtain ⟨rest, rfl⟩ := List.head?_eq_some_iff.mp marked
  have solid : GapPiece.first? ('\ufeff' :: rest) = none :=
    GapPiece.first?_eq_none (by decide) (by decide) (by decide)
  obtain ⟨final, reached, found, read, _, following, _⟩ := lexed .start
  cases (Gap.read_solid solid).symm.trans read
  have faulty : (Token.scanKind ⟨'\ufeff' :: rest, .start, lineOpen⟩ '\ufeff' rest).value =
      .error (.unexpectedCharacter '\ufeff') := by
    have noName : Lexeme.isNameStart '\ufeff' = false := by decide +kernel
    have noDigit : Char.isDigit '\ufeff' = false := by decide
    simp [Token.scanKind, Token.startsDirective, Lexeme.scan, noName, noDigit, Lexeme.punctuator,
      Punctuator.longest?]
  unfold Token.readAfter at following
  simp only [faulty] at following
  cases following

theorem lineBreak (later : Lexed afterToken true (gap.add afterToken .lineBreak) rest trailing tokens) :
    Lexed afterToken lineOpen gap ('\n' :: rest) trailing tokens := by
  have found : GapPiece.first? ('\n' :: rest) = some ⟨.ok .lineBreak, ['\n'], rest⟩ := rfl
  refine piece found rfl ?_
  simpa using later

theorem blank {c : Char} (isBlank : Text.isBlank c = true) (inLine : c ≠ '\n')
    (later : Lexed afterToken lineOpen gap rest trailing tokens) :
    Lexed afterToken lineOpen gap (c :: rest) trailing tokens := by
  refine piece (GapPiece.first?_blank isBlank inLine rest) rfl ?_
  simpa [inLine.symm, Gap.add] using later

/-- Spaces leave no trace. -/
theorem spaces (count : Nat) (later : Lexed afterToken lineOpen gap rest trailing tokens) :
    Lexed afterToken lineOpen gap (List.replicate count ' ' ++ rest) trailing tokens := by
  induction count with
  | zero => exact later
  | succ count ih => exact blank (by decide) (by decide) ih

end Lexed

theorem Cursor.ofSource_of_plain {source : String} (plain : source.toList.head? ≠ some '\ufeff') :
    Cursor.ofSource source = ⟨source.toList, .start, true⟩ := by
  unfold Cursor.ofSource
  split
  · rename_i marked
    exact absurd (by rw [marked]; rfl) plain
  · rfl

/-- The tokens of a source that does not start with a byte order mark. -/
theorem Token.ofSource_of_lexed {source : String} {trailing : Option String} {tokens : List Token}
    (plain : source.toList.head? ≠ some '\ufeff')
    (lexed : Lexed false true .empty source.toList trailing tokens) :
    ∃ found, Token.ofSource source = .ok found ∧ found.map Token.unplaced = tokens := by
  obtain ⟨final, reached, found, read, _, following, same⟩ := lexed .start
  refine ⟨found, ?_, same⟩
  rw [Token.ofSource, Cursor.ofSource_of_plain plain, Token.readAll, read]
  exact following

private theorem Token.readAfter_ended {gap : Gap} {cursor : Cursor} {tokens : List Token}
    (read : (Token.readAfter gap cursor).1 = .ok tokens) :
    ∃ front last, tokens = front ++ [last] ∧ last.kind = .endOfFile := by
  fun_induction Token.readAfter gap cursor generalizing tokens with
  | case1 =>
    cases read
    exact ⟨[], _, rfl, rfl⟩
  | case2 => cases read
  | case3 => cases read
  | case4 =>
    rename_i following _ same ih
    cases following with
    | error fault => cases read
    | ok behind =>
      cases read
      obtain ⟨front, last, rfl, ends⟩ := ih (congrArg Prod.fst same)
      exact ⟨_ :: front, last, rfl, ends⟩

/-- The last token of a source is its end. -/
theorem Token.ofSource_ended {source : String} {tokens : List Token}
    (read : Token.ofSource source = .ok tokens) :
    ∃ front last, tokens = front ++ [last] ∧ last.kind = .endOfFile := by
  unfold Token.ofSource Token.readAll at read
  split at read
  · cases read
  · exact readAfter_ended read

/-- A token that no comment belongs to. -/
def Token.IsQuiet (token : Token) : Prop :=
  token.leadingComments = [] ∧ token.trailingComment = none

/-- A gap in which no comment has been read yet. -/
def Gap.IsQuiet (gap : Gap) : Prop := gap.leading = [] ∧ gap.trailing = none

/-- The text spells the given tokens without any comments, wherever in a gap it starts. -/
def Spelled (text : List Char) (glyphs : List Glyph) : Prop :=
  ∀ afterToken lineOpen (gap : Gap), gap.IsQuiet → ∃ tokens,
    Lexed afterToken lineOpen gap text none tokens ∧ tokens.map Token.glyph = glyphs ∧
      ∀ token ∈ tokens, token.IsQuiet

namespace Spelled

variable {rest : List Char} {glyphs : List Glyph}

theorem nil : Spelled [] [⟨.endOfFile, false⟩] := by
  rintro afterToken lineOpen gap ⟨noLeading, noTrailing⟩
  refine ⟨_, noTrailing ▸ Lexed.nil, rfl, ?_⟩
  simp [Token.IsQuiet, noLeading]

theorem token {kind : TokenKind} {first : Char} {more : List Char}
    (reads : kind.ReadsBefore first more rest) (later : Spelled rest glyphs) :
    Spelled (first :: (more ++ rest)) (⟨kind, Token.isJoint rest⟩ :: glyphs) := by
  rintro afterToken lineOpen gap ⟨noLeading, noTrailing⟩
  obtain ⟨tokens, lexed, same, quiet⟩ := later true false .empty ⟨rfl, rfl⟩
  refine ⟨_, noTrailing ▸ lexed.token reads, by rw [List.map_cons, same]; rfl, ?_⟩
  simpa [Token.IsQuiet, noLeading] using quiet

theorem lineBreak (later : Spelled rest glyphs) : Spelled ('\n' :: rest) glyphs := by
  intro afterToken lineOpen gap quiet
  obtain ⟨tokens, lexed, same⟩ := later afterToken true (gap.add afterToken .lineBreak) quiet
  exact ⟨tokens, lexed.lineBreak, same⟩

theorem blank (c : Char) (isBlank : Text.isBlank c = true) (inLine : c ≠ '\n')
    (later : Spelled rest glyphs) : Spelled (c :: rest) glyphs := by
  intro afterToken lineOpen gap quiet
  obtain ⟨tokens, lexed, same⟩ := later afterToken lineOpen gap quiet
  exact ⟨tokens, lexed.blank isBlank inLine, same⟩

theorem space (later : Spelled rest glyphs) : Spelled (' ' :: rest) glyphs :=
  later.blank ' ' (by decide) (by decide)

theorem spaces (count : Nat) (later : Spelled rest glyphs) :
    Spelled (List.replicate count ' ' ++ rest) glyphs := by
  induction count with
  | zero => exact later
  | succ count ih => exact ih.space

end Spelled

namespace Spelled

variable {rest : List Char} {glyphs : List Glyph}

private theorem of_readsBefore {kind : TokenKind} {text : List Char}
    (spelled : kind.spelling.toList = text)
    (reads : ∃ first more, kind.ReadsBefore first more rest) (later : Spelled rest glyphs) :
    Spelled (text ++ rest) (⟨kind, Token.isJoint rest⟩ :: glyphs) := by
  obtain ⟨first, more, reads⟩ := reads
  rw [← spelled, reads.spelled]
  exact later.token reads

theorem mark (mark : Punctuator) (stops : ∀ c ∈ rest.head?, mark.growsWith c = false)
    (later : Spelled rest glyphs) :
    Spelled (mark.spelling.toList ++ rest) (⟨.punctuator mark, Token.isJoint rest⟩ :: glyphs) :=
  of_readsBefore rfl (TokenKind.readsBefore_punctuator stops) later

/-- A mark that nothing can lengthen. -/
theorem finished (mark : Punctuator) (finished : mark.isFinished = true)
    (later : Spelled rest glyphs) :
    ∃ joint, Spelled (mark.spelling.toList ++ rest) (⟨.punctuator mark, joint⟩ :: glyphs) :=
  ⟨_, later.mark mark fun _ _ => Punctuator.growsWith_of_isFinished finished⟩

/-- A mark of one character that nothing can lengthen. -/
theorem single (mark : Punctuator) (c : Char) (spelled : mark.spelling.toList = [c])
    (finished : mark.isFinished = true) (later : Spelled rest glyphs) :
    ∃ joint, Spelled (c :: rest) (⟨.punctuator mark, joint⟩ :: glyphs) := by
  obtain ⟨joint, marked⟩ := later.finished mark finished
  rw [spelled] at marked
  exact ⟨joint, marked⟩

theorem word (word : Keyword) (ends : Lexeme.NameEnds rest) (later : Spelled rest glyphs) :
    Spelled (word.spelling.toList ++ rest) (⟨.keyword word, Token.isJoint rest⟩ :: glyphs) :=
  of_readsBefore rfl (TokenKind.readsBefore_keyword word ends) later

theorem identifier {ident : String} (valid : isIdentifier ident = true)
    (ends : Lexeme.NameEnds rest) (later : Spelled rest glyphs) :
    Spelled (ident.toList ++ rest) (⟨.identifier ident, Token.isJoint rest⟩ :: glyphs) :=
  of_readsBefore rfl (TokenKind.readsBefore_identifier valid ends) later

theorem integer {text : String} (valid : isDecimal text = true) (ends : Lexeme.NumberEnds rest)
    (later : Spelled rest glyphs) :
    Spelled (text.toList ++ rest) (⟨.integer text, Token.isJoint rest⟩ :: glyphs) :=
  of_readsBefore rfl (TokenKind.readsBefore_integer valid ends) later

/-- A mark before a space. -/
theorem markThenSpace (mark : Punctuator) (later : Spelled rest glyphs) :
    Spelled (mark.spelling.toList ++ ' ' :: rest) (⟨.punctuator mark, false⟩ :: glyphs) := by
  refine Spelled.mark mark ?_ later.space
  rintro _ ⟨⟩
  cases mark <;> rfl

theorem wordThenSpace (word : Keyword) (later : Spelled rest glyphs) :
    Spelled (word.spelling.toList ++ ' ' :: rest) (⟨.keyword word, false⟩ :: glyphs) := by
  refine Spelled.word word ?_ later.space
  rintro _ ⟨⟩
  decide

end Spelled

/-- A source that spells tokens is read as these tokens. -/
theorem Token.ofSource_of_spelled {source : String} {glyphs : List Glyph}
    (spelled : Spelled source.toList glyphs) :
    ∃ found, Token.ofSource source = .ok found ∧ found.map Token.glyph = glyphs ∧
      ∀ token ∈ found, token.IsQuiet := by
  obtain ⟨tokens, lexed, same, quiet⟩ := spelled false true .empty ⟨rfl, rfl⟩
  obtain ⟨found, read, erased⟩ := Token.ofSource_of_lexed lexed.unmarked lexed
  refine ⟨found, read, ?_, fun token member => ?_⟩
  · rw [← same, ← erased, List.map_map]
    rfl
  · have unplaced : token.unplaced ∈ tokens := erased ▸ List.mem_map_of_mem member
    show token.unplaced.IsQuiet
    exact quiet _ unplaced

end CppSyntax
