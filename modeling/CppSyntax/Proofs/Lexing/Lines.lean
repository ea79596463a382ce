import CppSyntax.Proofs.Lexing.Layout
import CppSyntax.Render.Doc

/-!
Texts laid out in lines, with comments on lines of their own or at the end of a line. The comments
before a line and an empty line before them fall to its first token, the comment at its end to its last
one.
-/

namespace CppSyntax

/-- The text of one comment. A line comment neither breaks its line nor ends in a blank; a block
comment holds its closing mark only at its end. -/
inductive IsComment (text : String) : Prop where
  | line (body : List Char) (spelled : text.toList = '/' :: '/' :: body) (inLine : '\n' ∉ body)
      (solid : ∀ c ∈ body.getLast?, Text.isBlank c = false)
  | block (body : List Char) (spelled : text.toList = '/' :: '*' :: (body ++ ['*', '/']))
      (closes : ¬ ['*', '/'] <:+: body ++ ['*'])

namespace Text

theorem trimEnd_eq_self {text : List Char} (solid : ∀ c ∈ text.getLast?, isBlank c = false) :
    trimEnd text = text := by
  rw [trimEnd]
  cases reversed : text.reverse with
  | nil => simpa using reversed.symm
  | cons last front =>
    have same : text = (last :: front).reverse := by rw [← reversed, List.reverse_reverse]
    have notBlank : isBlank last = false := solid last (by simp [same])
    rw [List.dropWhile_cons_of_neg (by simp [notBlank]), same]

end Text

namespace Lexeme

/-- The rest of a block comment ends with its closing mark. -/
theorem commentRest_of_open {body rest : List Char} (closes : ¬ ['*', '/'] <:+: body ++ ['*']) :
    commentRest (body ++ '*' :: '/' :: rest) = ⟨true, body ++ ['*', '/'], rest⟩ := by
  induction body with
  | nil => rfl
  | cons c body ih =>
    have later : ¬ ['*', '/'] <:+: body ++ ['*'] := fun found =>
      closes (found.trans (List.suffix_cons c _).isInfix)
    have goesOn : ∀ tail, c = '*' → body ++ '*' :: '/' :: rest ≠ '/' :: tail := by
      rintro tail rfl same
      cases body with
      | nil => cases same
      | cons next body =>
        cases same
        exact closes ⟨[], body ++ ['*'], rfl⟩
    have step : commentRest (c :: (body ++ '*' :: '/' :: rest)) =
        (commentRest (body ++ '*' :: '/' :: rest)).after [c] := by
      conv => lhs; unfold commentRest
      split
      · rename_i empty
        cases empty
      · rename_i tail same
        obtain ⟨star, next⟩ := List.cons.inj same
        exact absurd next (goesOn tail star)
      · rename_i same
        cases same
        rfl
    rw [List.cons_append, step, ih later]
    rfl

end Lexeme

theorem IsComment.first? {comment : String} (isComment : IsComment comment) (rest : List Char) :
    GapPiece.first? (comment.toList ++ '\n' :: rest) =
      some ⟨.ok (.comment comment), comment.toList, '\n' :: rest⟩ := by
  have same := String.ofList_toList (s := comment)
  cases isComment with
  | line body spelled inLine solid =>
    have taken : Scan.takeWhile (· != '\n') (body ++ '\n' :: rest) = ⟨(), body, '\n' :: rest⟩ :=
      Lexeme.takeWhile_append (fun c member => bne_iff_ne.mpr fun same => inLine (same ▸ member))
        (by simp)
    have trimmed : Text.trimEnd ('/' :: '/' :: body) = '/' :: '/' :: body := by
      refine Text.trimEnd_eq_self fun c last => ?_
      cases body with
      | nil =>
        cases last
        decide
      | cons => exact solid c (by simpa using last)
    rw [spelled] at same ⊢
    rw [List.cons_append, List.cons_append, GapPiece.first?]
    simp [taken, Scan.map, Scan.after, trimmed, same]
  | block body spelled closes =>
    rw [spelled] at same ⊢
    rw [List.cons_append, List.cons_append, List.append_assoc]
    simp [GapPiece.first?, Lexeme.commentRest_of_open closes, Scan.map, Scan.after, same]

/-- Whether every line break comes right after a backslash. -/
def splicesBreaks : List Char → Bool
  | '\\' :: '\n' :: rest => splicesBreaks rest
  | c :: rest => c != '\n' && splicesBreaks rest
  | [] => true

/-- The text of a directive: it starts with `#`, breaks lines only after a backslash, and ends neither
in a blank nor in a backslash. -/
structure IsDirective (text : String) : Prop where
  marked : text.toList.head? = some '#'
  spliced : splicesBreaks text.toList = true
  solid : ∀ c ∈ text.toList.getLast?, Text.isBlank c = false
  finished : text.toList.getLast? ≠ some '\\'

/-- A directive ends before the first line break behind it. -/
theorem Lexeme.directiveLine_of_spliced {text rest : List Char} (spliced : splicesBreaks text = true)
    (solid : ∀ c ∈ text.getLast?, Text.isBlank c = false) (finished : text.getLast? ≠ some '\\') :
    directiveLine (text ++ '\n' :: rest) = ⟨text, text, '\n' :: rest⟩ := by
  fun_induction splicesBreaks text with
  | case1 text ih =>
    cases text with
    | nil => exact absurd (solid '\n' rfl) (by decide)
    | cons c text =>
      rw [List.cons_append, List.cons_append, directiveLine, ih spliced solid finished]
      rfl
  | case2 c text other ih =>
    simp only [Bool.and_eq_true, bne_iff_ne] at spliced
    obtain ⟨inLine, spliced⟩ := spliced
    have step : directiveLine (c :: (text ++ '\n' :: rest)) =
        ((directiveLine (text ++ '\n' :: rest)).after [c]).map (c :: ·) := by
      conv => lhs; unfold directiveLine
      split
      · rename_i empty
        cases empty
      · rename_i same
        exact absurd (List.cons.inj same).1 inLine
      · rename_i tail same
        obtain ⟨rfl, next⟩ := List.cons.inj same
        cases text with
        | nil => exact absurd rfl finished
        | cons next' text =>
          cases next
          exact (other _ rfl rfl).elim
      · rename_i tail same
        obtain ⟨rfl, next⟩ := List.cons.inj same
        cases text with
        | nil => exact absurd rfl finished
        | cons d text =>
          obtain ⟨rfl, next⟩ := List.cons.inj next
          cases text with
          | nil => exact absurd (solid '\r' rfl) (by decide)
          | cons d text =>
            cases next
            simp [splicesBreaks] at spliced
      · rename_i same
        cases same
        rfl
    rw [List.cons_append, step]
    cases text with
    | nil => rfl
    | cons d text =>
      rw [ih spliced solid finished]
      rfl
  | case3 => rfl

/-- A token that stands for itself, with no comment and no empty line. -/
def Token.plain (kind : TokenKind) (joint : Bool) : Token :=
  ⟨kind, ⟨0, 0⟩, joint, [], none, false⟩

/-- The tokens with comments, and perhaps an empty line, before the first one. -/
def Token.ledBy (comments : List String) (blankLine : Bool) : List Token → List Token
  | [] => []
  | first :: rest =>
    { first with
      leadingComments := comments ++ first.leadingComments
      blankLineBefore := blankLine || first.blankLineBefore } :: rest

namespace Token

@[simp] theorem ledBy_nothing (tokens : List Token) : ledBy [] false tokens = tokens := by
  cases tokens <;> rfl

theorem ledBy_ledBy (outer inner : List String) (first second : Bool) (tokens : List Token) :
    ledBy outer first (ledBy inner second tokens) =
      ledBy (outer ++ inner) (first || second) tokens := by
  cases tokens with
  | nil => rfl
  | cons => simp [ledBy, Bool.or_assoc]

theorem ledBy_append {tokens : List Token} (comments : List String) (blankLine : Bool)
    (nonempty : tokens ≠ []) (rest : List Token) :
    ledBy comments blankLine (tokens ++ rest) = ledBy comments blankLine tokens ++ rest := by
  cases tokens with
  | nil => exact absurd rfl nonempty
  | cons => rfl

end Token

/-- The text starts apart from a word before it. -/
def OpensApart (text : List Char) : Prop :=
  ∃ c tail, text = c :: tail ∧ (c = ' ' ∨ c = '\n')

namespace OpensApart

variable {text rest : List Char}

theorem append (opens : OpensApart text) (rest : List Char) : OpensApart (text ++ rest) := by
  obtain ⟨c, tail, rfl, blank⟩ := opens
  exact ⟨c, tail ++ rest, rfl, blank⟩

theorem nameEnds (opens : OpensApart text) : Lexeme.NameEnds text := by
  obtain ⟨c, tail, rfl, blank⟩ := opens
  rcases blank with rfl | rfl
  · exact (Lexeme.numberEnds_of_head (by decide)).1
  · exact (Lexeme.numberEnds_of_head (by decide)).1

theorem beforeBrace (layout : Layout) : OpensApart (Doc.beforeBrace layout).toList := by
  unfold Doc.beforeBrace
  cases layout.options.braceStyle with
  | sameLine => exact ⟨' ', [], by simp, .inl rfl⟩
  | nextLine => exact ⟨'\n', (Doc.margin layout).toList, by simp, .inr rfl⟩

end OpensApart

/-- From the start of a line on, the text holds the tokens. Notes of the gap before the line fall to
the first of them. -/
def LexedLines (afterToken : Bool) (text : List Char) (tokens : List Token) : Prop :=
  ∀ gap : Gap, (afterToken = true → 1 ≤ gap.lineBreaks) →
    Lexed afterToken true gap text gap.trailing (Token.ledBy gap.leading gap.blankLine tokens)

/-- Right behind a token, the text holds a comment that still belongs to it, and the tokens. -/
def LexedBehind (text : List Char) (comment : Option String) (tokens : List Token) : Prop :=
  Lexed true false .empty text comment tokens

section

variable {afterToken lineOpen : Bool} {gap : Gap} {text rest : List Char} {behind : Option String}
  {tokens : List Token} {kind : TokenKind}

theorem Lexed.spelled (reads : ∃ first more, kind.ReadsBefore first more rest)
    (following : LexedBehind rest behind tokens) :
    Lexed afterToken lineOpen gap (kind.spelling.toList ++ rest) gap.trailing
      (⟨kind, ⟨0, 0⟩, Token.isJoint rest, gap.leading, behind, gap.blankLine⟩ :: tokens) := by
  obtain ⟨first, more, reads⟩ := reads
  rw [reads.spelled]
  exact Lexed.token reads following

/-- A comment at the end of a line. -/
theorem Lexed.comment {text : String} {trailing : Option String} (isComment : IsComment text)
    (later : Lexed afterToken true ((gap.add afterToken (.comment text)).add afterToken .lineBreak)
      rest trailing tokens) :
    Lexed afterToken lineOpen gap (text.toList ++ '\n' :: rest) trailing tokens :=
  .piece (isComment.first? rest) rfl (.lineBreak later)

/-- A directive, which leaves its line open. -/
theorem Lexed.directive {text : String} {trailing : Option String} (isDirective : IsDirective text)
    (following : Lexed true true .empty ('\n' :: rest) trailing tokens) :
    Lexed afterToken true gap (text.toList ++ '\n' :: rest) gap.trailing
      (⟨.directive text, ⟨0, 0⟩, false, gap.leading, trailing, gap.blankLine⟩ :: tokens) := by
  have line := @Lexeme.directiveLine_of_spliced _ rest isDirective.spliced isDirective.solid
    isDirective.finished
  have trimmed := Text.trimEnd_eq_self isDirective.solid
  obtain ⟨more, spelled⟩ := List.head?_eq_some_iff.mp isDirective.marked
  rw [spelled] at line trimmed ⊢
  have scanned : Lexeme.directive ('#' :: (more ++ '\n' :: rest)) =
      ⟨.ok (.directive text), '#' :: more, '\n' :: rest⟩ := by
    rw [Lexeme.directive, ← List.cons_append, line, Scan.map, trimmed, ← spelled,
      String.ofList_toList]
  have separate : Token.isJoint ('\n' :: rest) = false := rfl
  rw [← separate]
  refine Lexed.ofScan ('#' :: more) rfl (fun place => ?_) (fun place => ?_) following
  · exact scanned
  · exact ⟨place.advance ('#' :: more), rfl⟩

namespace LexedLines

theorem nil : LexedLines afterToken [] [.plain .endOfFile false] := by
  intro gap _
  have ended : Lexed afterToken true gap [] gap.trailing _ := .nil
  simpa [Token.ledBy, Token.plain] using ended

/-- A comment on a line of its own. -/
theorem comment {text : String} (isComment : IsComment text)
    (later : LexedLines afterToken rest tokens) :
    LexedLines afterToken (text.toList ++ '\n' :: rest) (Token.ledBy [text] false tokens) := by
  intro gap started
  rw [Token.ledBy_ledBy]
  refine Lexed.comment isComment ?_
  have noted : gap.add afterToken (.comment text) =
      { gap with leading := gap.leading ++ [text], lineBreaks := 0 } := by
    refine if_neg ?_
    cases afterToken with
    | false => simp
    | true => simp [Nat.ne_of_gt (started rfl)]
  rw [noted]
  have next := later (Gap.add afterToken
    { gap with leading := gap.leading ++ [text], lineBreaks := 0 } .lineBreak) (by simp [Gap.add])
  simpa [Gap.add] using next

theorem spaces (count : Nat) (later : LexedLines afterToken rest tokens) :
    LexedLines afterToken (List.replicate count ' ' ++ rest) tokens :=
  fun gap started => (later gap started).spaces count

theorem margin (layout : Layout) (later : LexedLines afterToken rest tokens) :
    LexedLines afterToken ((Doc.margin layout).toList ++ rest) tokens := by
  rw [Doc.toList_margin]
  exact later.spaces _

/-- An empty line behind another one. -/
theorem blankLine (later : LexedLines true rest tokens) :
    LexedLines true ('\n' :: rest) (Token.ledBy [] true tokens) := by
  intro gap started
  have broken := started rfl
  rw [Token.ledBy_ledBy]
  refine .lineBreak ?_
  have next := later (gap.add true .lineBreak) (by simp [Gap.add])
  simpa [Gap.add, broken] using next

theorem spelled (afterToken : Bool) (reads : ∃ first more, kind.ReadsBefore first more rest)
    (following : LexedBehind rest behind tokens) :
    LexedLines afterToken (kind.spelling.toList ++ rest)
      ({ Token.plain kind (Token.isJoint rest) with trailingComment := behind } :: tokens) := by
  intro gap _
  simpa [Token.ledBy, Token.plain] using Lexed.spelled reads following

/-- A directive on a line of its own. -/
theorem directive {text : String} (isDirective : IsDirective text)
    (later : LexedLines true rest tokens) :
    LexedLines afterToken (text.toList ++ '\n' :: rest)
      (.plain (.directive text) false :: tokens) := by
  have next := later (Gap.add true .empty .lineBreak) (by simp [Gap.add])
  have behind : Lexed true true .empty ('\n' :: rest) none tokens := by
    refine Lexed.lineBreak ?_
    simpa [Gap.add, Gap.empty] using next
  intro gap _
  simpa [Token.ledBy, Token.plain] using Lexed.directive isDirective behind

/-- A line that follows the token. -/
theorem onNextLine (later : LexedLines true rest tokens) :
    LexedBehind ('\n' :: rest) none tokens := by
  refine Lexed.lineBreak ?_
  have next := later (Gap.add true .empty .lineBreak) (by simp [Gap.add])
  simpa [Gap.add, Gap.empty] using next

/-- A line that follows the token and the comment on the line of the token. -/
theorem behindComment {text : String} (isComment : IsComment text)
    (later : LexedLines true rest tokens) :
    LexedBehind (' ' :: (text.toList ++ '\n' :: rest)) (some text) tokens := by
  refine .blank (by decide) (by decide) (.comment isComment ?_)
  have next := later ((Gap.add true .empty (.comment text)).add true .lineBreak) (by simp [Gap.add])
  simpa [Gap.add, Gap.empty] using next

end LexedLines

namespace LexedBehind

theorem spelled (reads : ∃ first more, kind.ReadsBefore first more rest)
    (following : LexedBehind rest behind tokens) :
    LexedBehind (kind.spelling.toList ++ rest) none
      ({ Token.plain kind (Token.isJoint rest) with trailingComment := behind } :: tokens) :=
  Lexed.spelled reads following

theorem space (later : LexedBehind rest behind tokens) : LexedBehind (' ' :: rest) behind tokens :=
  Lexed.blank (by decide) (by decide) later

end LexedBehind

end

end CppSyntax
