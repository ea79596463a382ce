import CppSyntax.Proofs.Lexing.Layout
import CppSyntax.Proofs.Lexing.Returns

/-!
Reading over line ends of two characters. The reader of the text with carriage returns is at most one
character ahead or behind: only at the end of a line comment or of a directive it has taken the carriage
return already, and the line feed brings both readers to the same place. The main result says so of
whole sources, with their tokens and comments or with the fault that spoils them.
-/

namespace CppSyntax

open Text

/-- Whether reading from a place on meets no splice, neither between tokens nor in a literal in quotes.
Nothing is asked of what comes behind a fault. -/
def Cursor.isUnspliced (cursor : Cursor) : Bool :=
  match found : GapPiece.first? cursor.rest with
  | some scan =>
    match scan.value with
    | .error _ => true
    | .ok .splice => false
    | .ok _ => (cursor.past scan).isUnspliced
  | none =>
    match rest : cursor.rest with
    | [] => true
    | first :: next =>
      let scan := Token.scanKind cursor first next
      match scan.value with
      | .error _ => true
      | .ok kind => !kind.isSpliced && (Token.pastKind cursor first scan).isUnspliced
termination_by cursor.rest.length
decreasing_by
  · have divided := GapPiece.first?_divides found
    exact divided.1.length_lt divided.2
  · rw [Token.pastKind_rest, rest]
    exact Token.scanKind_length_lt

namespace Cursor

variable {cursor : Cursor} (unspliced : cursor.isUnspliced = true)

include unspliced

theorem isUnspliced_piece {scan : Scan (Except LexFault GapPiece)} {piece : GapPiece}
    (found : GapPiece.first? cursor.rest = some scan) (value : scan.value = .ok piece) :
    piece ≠ .splice ∧ (cursor.past scan).isUnspliced = true := by
  unfold isUnspliced at unspliced
  split at unspliced
  · rename_i other
    cases found.symm.trans other
    rw [value] at unspliced
    cases piece with
    | splice => cases unspliced
    | lineBreak => exact ⟨GapPiece.noConfusion, unspliced⟩
    | blank => exact ⟨GapPiece.noConfusion, unspliced⟩
    | comment => exact ⟨GapPiece.noConfusion, unspliced⟩
  · rename_i missing
    cases found.symm.trans missing

theorem isUnspliced_token (solid : GapPiece.first? cursor.rest = none) {first : Char} {next : List Char}
    (front : cursor.rest = first :: next) {kind : TokenKind}
    (value : (Token.scanKind cursor first next).value = .ok kind) :
    kind.isSpliced = false ∧
      (Token.pastKind cursor first (Token.scanKind cursor first next)).isUnspliced = true := by
  unfold isUnspliced at unspliced
  split at unspliced
  · rename_i other
    cases solid.symm.trans other
  · split at unspliced
    · rename_i empty
      cases front.symm.trans empty
    · rename_i other
      cases front.symm.trans other
      dsimp only at unspliced
      rw [value] at unspliced
      simpa using unspliced

end Cursor

/-- The comment with carriage returns, which only a block comment keeps. -/
def Text.returnedComment (text : String) : String :=
  if ['/', '*'] <+: text.toList then returned text else text

def GapPiece.withReturns : GapPiece → GapPiece
  | .comment text => .comment (returnedComment text)
  | piece => piece

def Gap.withReturns (gap : Gap) : Gap :=
  { gap with
    trailing := gap.trailing.map returnedComment
    leading := gap.leading.map returnedComment }

theorem Gap.add_withReturns (afterToken : Bool) (gap : Gap) (piece : GapPiece) :
    gap.withReturns.add afterToken piece.withReturns = (gap.add afterToken piece).withReturns := by
  cases piece with
  | lineBreak => rfl
  | blank => rfl
  | splice => rfl
  | comment text =>
    unfold add GapPiece.withReturns
    simp only [Gap.withReturns, List.isEmpty_map, Option.isNone_map]
    split <;> simp

/-- What leads on from a place in both texts. -/
theorem GapPiece.first?_withReturns_none {text : List Char} (solid : first? text = none) :
    first? (Text.withReturns text) = none := by
  cases text with
  | nil => rfl
  | cons c rest =>
    have notFeed : c ≠ '\n' := by
      rintro rfl
      cases solid
    have opens : ∀ mark, mark = '/' ∨ mark = '*' → ∀ tail, Text.withReturns rest = mark :: tail →
        ∃ tail, rest = mark :: tail := by
      rintro mark known tail found
      have front : [mark] <+: Text.withReturns rest := ⟨tail, found.symm⟩
      obtain ⟨tail, rfl⟩ := (respaces_withReturns.prefix_iff
        (solid_of_all (by rcases known with rfl | rfl <;> decide))).mp front
      exact ⟨tail, rfl⟩
    have notBlank := isBlank_eq_false solid
    rw [withReturns_cons notFeed]
    unfold first?
    split
    · rfl
    · rename_i same
      exact absurd (List.cons.inj same).1 notFeed
    · rename_i same
      exact absurd (List.cons.inj same).2 (withReturns_ne_lineFeed _ _)
    · rename_i same
      obtain ⟨rfl, found⟩ := List.cons.inj same
      obtain ⟨tail, rfl⟩ := opens '/' (.inl rfl) _ found
      cases solid
    · rename_i same
      obtain ⟨rfl, found⟩ := List.cons.inj same
      obtain ⟨tail, rfl⟩ := opens '*' (.inr rfl) _ found
      cases solid
    · rename_i same
      obtain ⟨rfl, rfl⟩ := List.cons.inj same
      simp [notBlank]

/-- A line goes on to its line feed, or to the end of the text. -/
private theorem Scan.line_withReturns (text : List Char) :
    takeWhile (· != '\n') (Text.withReturns text) = (takeWhile (· != '\n') text).before Text.withReturns ∨
      ∃ rest, (takeWhile (· != '\n') text).rest = '\n' :: rest ∧
        takeWhile (· != '\n') (Text.withReturns text) =
          ⟨(), (takeWhile (· != '\n') text).used ++ ['\r'], '\n' :: Text.withReturns rest⟩ := by
  induction text with
  | nil => exact .inl rfl
  | cons c rest ih =>
    by_cases feed : c = '\n'
    · subst feed
      exact .inr ⟨rest, rfl, by simp [takeWhile]⟩
    · simp only [takeWhile, before, Scan.mk.injEq, true_and] at ih ⊢
      simpa [withReturns_cons feed, feed] using ih

private theorem Text.returnedComment_line (line : List Char) :
    returnedComment (String.ofList (trimEnd ('/' :: '/' :: line))) =
      String.ofList (trimEnd ('/' :: '/' :: line)) := by
  rw [returnedComment, if_neg]
  intro opens
  have front : trimEnd ('/' :: '/' :: line) <+: '/' :: '/' :: line :=
    List.reverse_suffix.mp (by simpa [trimEnd] using List.dropWhile_suffix _)
  obtain ⟨tail, whole⟩ := (String.toList_ofList ▸ opens).trans front
  cases whole

private theorem Text.returnedComment_block (body : List Char) :
    returnedComment (String.ofList ('/' :: '*' :: body)) =
      String.ofList ('/' :: '*' :: Text.withReturns body) := by
  have opens : ['/', '*'] <+: '/' :: '*' :: body := ⟨body, rfl⟩
  rw [returnedComment, String.toList_ofList, if_pos opens, returned, String.toList_ofList,
    withReturns_cons (by decide), withReturns_cons (by decide)]

/-- The same piece is found with carriage returns, unless it is a line end or a splice. -/
theorem GapPiece.first?_returned {text : List Char} {scan : Scan (Except LexFault GapPiece)}
    (found : first? text = some scan) (inLine : text.head? ≠ some '\n')
    (unspliced : scan.value ≠ .ok .splice) :
    ∃ other, first? (Text.withReturns text) = some other ∧ scan.Returned GapPiece.withReturns other := by
  unfold first? at found
  split at found
  · cases found
  · exact absurd rfl inLine
  · cases found
    exact absurd rfl unspliced
  · rename_i rest
    cases found
    have noFeed : '\n' ∉ '/' :: '/' :: (Scan.takeWhile (· != '\n') rest).used := by
      intro member
      have inside : '\n' ∈ rest.takeWhile (· != '\n') := by simpa [Scan.takeWhile] using member
      simpa using List.all_eq_true.mp List.all_takeWhile _ inside
    rw [withReturns_cons (by decide), withReturns_cons (by decide)]
    refine ⟨_, rfl, ?_, fun _ _ => ?_⟩
    · refine Eq.trans ?_ (congrArg (fun text => Except.ok (comment text)) (returnedComment_line _)).symm
      rcases Scan.line_withReturns rest with same | ⟨more, _, same⟩
      · rw [same]
        rfl
      · rw [same]
        exact congrArg (fun text => Except.ok (comment (String.ofList text)))
          (trimEnd_concat (by decide) ('/' :: '/' :: _))
    · rcases Scan.line_withReturns rest with same | ⟨more, ends, same⟩
      · rw [same]
        exact .same (withReturns_eq_self noFeed).symm rfl
      · rw [same]
        exact .pastReturn ends (congrArg (· ++ ['\r']) (withReturns_eq_self noFeed).symm) rfl
  · rename_i rest
    cases found
    rw [withReturns_cons (by decide), withReturns_cons (by decide)]
    refine ⟨_, rfl, ?_, fun _ _ => ?_⟩
    · rw [Lexeme.commentRest_withReturns]
      cases closed : (Lexeme.commentRest rest).value with
      | true =>
        simp only [Scan.map, Scan.after, Scan.overReturns, closed]
        exact congrArg (fun text => Except.ok (comment text)) (returnedComment_block _).symm
      | false =>
        simp only [Scan.map, Scan.after, Scan.overReturns, closed]
        rfl
    · rw [Lexeme.commentRest_withReturns]
      refine .same ?_ rfl
      exact (withReturns_append ['/', '*'] _).symm
  · rename_i c rest _ _ _ _
    split at found
    · rename_i blank
      cases found
      have notFeed : c ≠ '\n' := fun same => inLine (congrArg some same)
      rw [withReturns_cons notFeed, first?_blank blank notFeed]
      exact ⟨_, rfl, rfl, fun _ _ => .same (withReturns_eq_self (by simpa using notFeed.symm)).symm rfl⟩
    · cases found

/-- The same place with carriage returns in what is still to be read. -/
def Cursor.withReturns (cursor : Cursor) : Cursor :=
  { cursor with rest := Text.withReturns cursor.rest }

/-- Reading goes on alike at both places: they are the same, or they stand before a line feed in the same
line, in front of which the other reader has taken the carriage return. -/
inductive Cursor.Resumes (cursor other : Cursor) : Prop where
  | same (place : other = cursor.withReturns)
  | pastReturn {rest : List Char} (lineEnd : cursor.rest = '\n' :: rest)
      (front : other.rest = '\n' :: Text.withReturns rest)
      (line : other.location.line = cursor.location.line)

namespace Scan.StopsAlike

variable {scan : Scan α} {other : Scan β} (stops : scan.StopsAlike other) (cursor : Cursor)

include stops

theorem past : (cursor.past scan).Resumes (cursor.withReturns.past other) := by
  cases stops with
  | same used rest =>
    refine .same ?_
    simp only [Cursor.past, Cursor.withReturns, used, rest, advance_withReturns, contains_withReturns]
  | pastReturn lineEnd used rest =>
    refine .pastReturn lineEnd rest ?_
    simp [Cursor.past, Cursor.withReturns, used, Location.advance_append, advance_withReturns,
      Location.after]

theorem pastToken : (cursor.pastToken scan).Resumes (cursor.withReturns.pastToken other) := by
  cases stops with
  | same used rest =>
    refine .same ?_
    simp only [Cursor.pastToken, Cursor.withReturns, used, rest, advance_withReturns,
      contains_withReturns]
  | pastReturn lineEnd used rest =>
    refine .pastReturn lineEnd rest ?_
    simp [Cursor.pastToken, Cursor.withReturns, used, Location.advance_append, advance_withReturns,
      Location.after]

theorem pastKind (first : Char) :
    (Token.pastKind cursor first scan).Resumes (Token.pastKind cursor.withReturns first other) := by
  have alike : Token.startsDirective cursor.withReturns first = Token.startsDirective cursor first := rfl
  unfold Token.pastKind
  rw [alike]
  split
  · exact stops.past cursor
  · exact stops.pastToken cursor

end Scan.StopsAlike

/-- A line feed leads both readers to the start of the next line. -/
theorem Cursor.Resumes.read_lineFeed {afterToken : Bool} {gap : Gap} {cursor other : Cursor}
    {rest : List Char} (resumes : cursor.Resumes other) (lineEnd : cursor.rest = '\n' :: rest) :
    Gap.read afterToken gap other = Gap.read afterToken (gap.add afterToken .lineBreak)
      ⟨Text.withReturns rest, ⟨cursor.location.line + 1, 1⟩, true⟩ := by
  have step : ∀ place : Cursor, place.rest = '\n' :: Text.withReturns rest →
      place.location.line = cursor.location.line →
      Gap.read afterToken gap place = Gap.read afterToken (gap.add afterToken .lineBreak)
        ⟨Text.withReturns rest, ⟨cursor.location.line + 1, 1⟩, true⟩ := by
    intro place front line
    have found : GapPiece.first? place.rest = some ⟨.ok .lineBreak, ['\n'], Text.withReturns rest⟩ := by
      rw [front]
      rfl
    rw [Gap.read_piece found rfl]
    simp [Cursor.past, Location.after, line]
  cases resumes with
  | same place =>
    have found : GapPiece.first? other.rest =
        some ⟨.ok .blank, ['\r'], '\n' :: Text.withReturns rest⟩ := by
      rw [place, Cursor.withReturns, lineEnd]
      exact GapPiece.first?_blank (by decide) (by decide) _
    rw [Gap.read_piece found rfl]
    refine step _ rfl ?_
    simp [Cursor.past, Cursor.withReturns, place, Location.after]
  | pastReturn otherEnd front line =>
    cases lineEnd.symm.trans otherEnd
    exact step other front line

/-- A gap with carriage returns leaves the same notes, up to those in its block comments, or fails in the
same way. -/
theorem Gap.read_resumes (afterToken : Bool) (gap : Gap) {cursor other : Cursor}
    (resumes : cursor.Resumes other) (unspliced : cursor.isUnspliced = true) :
    (Gap.read afterToken gap.withReturns other).1 =
        (Gap.read afterToken gap cursor).1.map Gap.withReturns ∧
      ∀ after, (Gap.read afterToken gap cursor).1 = .ok after →
        (Gap.read afterToken gap.withReturns other).2 = (Gap.read afterToken gap cursor).2.withReturns := by
  fun_induction Gap.read afterToken gap cursor generalizing other with
  | case1 gap cursor solid =>
    cases resumes with
    | same place =>
      subst place
      rw [Gap.read_solid (GapPiece.first?_withReturns_none solid)]
      exact ⟨rfl, fun _ _ => rfl⟩
    | pastReturn lineEnd =>
      rw [lineEnd] at solid
      cases solid
  | case2 gap cursor scan found fault value =>
    have inLine : cursor.rest.head? ≠ some '\n' := by
      intro first
      obtain ⟨rest, lineEnd⟩ := List.head?_eq_some_iff.mp first
      rw [lineEnd] at found
      cases found
      cases value
    cases resumes with
    | same place =>
      subst place
      obtain ⟨scan', found', returned⟩ := GapPiece.first?_returned found inLine (by simp [value])
      rw [Gap.read_fault found' (by rw [returned.value, value]; rfl)]
      exact ⟨rfl, fun _ value => by cases value⟩
    | pastReturn lineEnd => exact absurd (by rw [lineEnd]; rfl) inLine
  | case3 gap cursor scan found piece value ih =>
    obtain ⟨notSplice, later⟩ := Cursor.isUnspliced_piece unspliced found value
    by_cases first : cursor.rest.head? = some '\n'
    · obtain ⟨rest, lineEnd⟩ := List.head?_eq_some_iff.mp first
      have lineBreak := found
      rw [lineEnd] at lineBreak
      cases lineBreak
      cases value
      rw [resumes.read_lineFeed lineEnd]
      refine ih (.same ?_) later
      simp [Cursor.past, Cursor.withReturns, Location.after]
    · cases resumes with
      | same place =>
        subst place
        have unspliced' : scan.value ≠ .ok .splice := by
          rw [value]
          exact fun same => notSplice (Except.ok.inj same)
        obtain ⟨scan', found', returned⟩ := GapPiece.first?_returned found first unspliced'
        rw [Gap.read_piece found' (by rw [returned.value, value]; rfl), Gap.add_withReturns]
        exact ih ((returned.stops piece value).past cursor) later
      | pastReturn lineEnd => exact absurd (by rw [lineEnd]; rfl) first

theorem Cursor.isUnspliced_reached {afterToken : Bool} {gap after : Gap} {cursor reached : Cursor}
    (unspliced : cursor.isUnspliced = true)
    (found : Gap.read afterToken gap cursor = (.ok after, reached)) : reached.isUnspliced = true := by
  fun_induction Gap.read afterToken gap cursor with
  | case1 =>
    cases found
    exact unspliced
  | case2 => cases found
  | case3 gap cursor scan piece some value ih => exact ih (isUnspliced_piece unspliced piece value).2 found

/-- The token with carriage returns, which its raw string and its block comments keep. -/
def Token.withReturns (token : Token) : Token :=
  { token with
    kind := token.kind.withReturns
    leadingComments := token.leadingComments.map returnedComment
    trailingComment := token.trailingComment.map returnedComment }

theorem Scan.StopsAlike.isJoint {scan : Scan α} {other : Scan β} (stops : scan.StopsAlike other) :
    Token.isJoint other.rest = Token.isJoint scan.rest := by
  cases stops with
  | same used rest =>
    rw [rest]
    exact respaces_withReturns.any_head? (fun c blank => by simp [blank]) _
  | pastReturn lineEnd used rest =>
    rw [lineEnd, rest]
    rfl

namespace Token

theorem scanKind_returned (cursor : Cursor) {first : Char} {next : List Char}
    (solid : GapPiece.first? (first :: next) = none) (noReturns : '\r' ∉ first :: next)
    (unspliced : ∀ kind, (scanKind cursor first next).value = .ok kind → kind.isSpliced = false) :
    (scanKind cursor first next).Returned TokenKind.withReturns
      (scanKind cursor.withReturns first (Text.withReturns next)) := by
  have alike : startsDirective cursor.withReturns first = startsDirective cursor first := rfl
  have inLine : first ≠ '\n' := by
    rintro rfl
    cases solid
  unfold scanKind at unspliced ⊢
  rw [alike]
  split
  · rw [← withReturns_cons inLine]
    exact Lexeme.directive_returned noReturns
  · rename_i noDirective
    rw [if_neg noDirective] at unspliced
    exact Lexeme.scan_returned inLine (List.ne_of_not_mem_cons noReturns).symm next unspliced

private theorem front_withReturns {cursor : Cursor} {first : Char} {next : List Char}
    (solid : GapPiece.first? cursor.rest = none) (front : cursor.rest = first :: next) :
    cursor.withReturns.rest = first :: Text.withReturns next := by
  have inLine : first ≠ '\n' := by
    rintro rfl
    rw [front] at solid
    cases solid
  rw [Cursor.withReturns, front]
  exact withReturns_cons inLine next

/-- A token and the place behind it, from which both texts go on. -/
private theorem step_withReturns {cursor : Cursor} {first : Char} {next : List Char} {kind : TokenKind}
    (solid : GapPiece.first? cursor.rest = none) (noReturns : '\r' ∉ cursor.rest)
    (unspliced : cursor.isUnspliced = true) (front : cursor.rest = first :: next)
    (value : (scanKind cursor first next).value = .ok kind) :
    (scanKind cursor.withReturns first (Text.withReturns next)).value = .ok kind.withReturns ∧
      (scanKind cursor first next).StopsAlike
        (scanKind cursor.withReturns first (Text.withReturns next)) ∧
      (pastKind cursor first (scanKind cursor first next)).isUnspliced = true := by
  obtain ⟨plain, later⟩ := Cursor.isUnspliced_token unspliced solid front value
  rw [front] at solid noReturns
  have returned := scanKind_returned cursor solid noReturns fun other found => by
    cases value.symm.trans found
    exact plain
  exact ⟨returned.value.trans (by rw [value]; rfl), returned.stops kind value, later⟩

/-- Behind a gap the same tokens follow with carriage returns, or the same fault. -/
theorem readAfter_withReturns {gap : Gap} {cursor : Cursor}
    (solid : GapPiece.first? cursor.rest = none) (noReturns : '\r' ∉ cursor.rest)
    (unspliced : cursor.isUnspliced = true) :
    (readAfter gap.withReturns cursor.withReturns).1 =
      (readAfter gap cursor).1.map (·.map Token.withReturns) := by
  fun_induction readAfter gap cursor with
  | case1 gap cursor ended =>
    have other : cursor.withReturns.rest = [] := by
      rw [Cursor.withReturns, ended]
      rfl
    rw [readAfter_nil other]
    rfl
  | case2 gap cursor first next front scan past fault value =>
    have otherFront := front_withReturns solid front
    rw [front] at solid noReturns
    have returned := scanKind_returned cursor solid noReturns
      fun kind found => by cases value.symm.trans found
    rw [readAfter_fault otherFront (returned.value.trans (by rw [value]; rfl))]
    rfl
  | case3 gap cursor first next front scan past kind value error stopped found =>
    obtain ⟨otherValue, stops, later⟩ := step_withReturns solid noReturns unspliced front value
    have read := (Gap.read_resumes true .empty (stops.pastKind cursor first)
      later).1
    rw [readAfter_gapFault (front_withReturns solid front) otherValue
      (read.trans (congrArg (fun result => Except.map Gap.withReturns result.1) found))]
    rfl
  | case4 gap cursor first next front scan past kind value after reached found token following =>
    rename_i stopped same ih
    obtain ⟨otherValue, stops, later⟩ := step_withReturns solid noReturns unspliced front value
    obtain ⟨notes, place⟩ := Gap.read_resumes true .empty
      (stops.pastKind cursor first) later
    obtain ⟨ends, behind⟩ := Gap.read_reached found
    have otherFound : Gap.read true .empty (pastKind cursor.withReturns first
        (scanKind cursor.withReturns first (Text.withReturns next))) =
          (.ok after.withReturns, reached.withReturns) := by
      refine Prod.ext (notes.trans ?_) ((place after (congrArg Prod.fst found)).trans ?_)
      · exact congrArg (fun result => Except.map Gap.withReturns result.1) found
      · exact congrArg (fun result => result.2.withReturns) found
    have fewer : '\r' ∉ reached.rest := by
      intro member
      have same : past.rest = scan.rest := pastKind_rest scan
      have inRest : '\r' ∈ scan.rest := same ▸ behind.subset member
      have divided : scan.used ++ scan.rest = cursor.rest := front ▸ scanKind_divides cursor first next
      exact noReturns (divided ▸ List.mem_append_right _ inRest)
    have tail := ih ends fewer (Cursor.isUnspliced_reached later found)
    rw [readAfter_cons (front_withReturns solid front) otherValue otherFound, tail, same]
    have joint : isJoint (pastKind cursor.withReturns first
        (scanKind cursor.withReturns first (Text.withReturns next))).rest = isJoint past.rest := by
      rw [pastKind_rest, pastKind_rest]
      exact stops.isJoint
    rw [joint]
    cases following <;> rfl

/-- A byte order mark is passed over in both texts. -/
private theorem start_withReturns (source : String) :
    Cursor.ofSource (returned source) = (Cursor.ofSource source).withReturns := by
  unfold Cursor.ofSource
  rw [returned, String.toList_ofList]
  split
  · rename_i rest marked
    have opens : ['\ufeff'] <+: source.toList :=
      (respaces_withReturns.prefix_iff (solid_of_all (by decide))).mp ⟨rest, marked.symm⟩
    obtain ⟨tail, whole⟩ := opens
    rw [← whole, List.singleton_append, withReturns_cons (by decide)] at marked
    rw [← whole, ← (List.cons.inj marked).2]
    rfl
  · rename_i unmarked
    split
    · rename_i rest marked
      exact absurd (by rw [marked, withReturns_cons (by decide)]) (unmarked (Text.withReturns rest))
    · rfl

/-- **Line ends of two characters.** A source without carriage returns in which no backslash stands
before a line break, neither between tokens nor in a literal in quotes, is read alike with a carriage
return before every line feed: with the same tokens at the same places, or with the same fault. -/
theorem ofSource_withReturns {source : String} (noReturns : '\r' ∉ source.toList)
    (unspliced : (Cursor.ofSource source).isUnspliced = true) :
    ofSource (returned source) = (ofSource source).map (·.map withReturns) := by
  have fewer : '\r' ∉ (Cursor.ofSource source).rest := by
    unfold Cursor.ofSource
    split
    · rename_i rest marked
      exact fun member => noReturns (marked ▸ List.mem_cons_of_mem _ member)
    · exact noReturns
  obtain ⟨notes, place⟩ := Gap.read_resumes false .empty
    (.same (start_withReturns source)) unspliced
  unfold ofSource readAll
  cases read : Gap.read false .empty (Cursor.ofSource source) with
  | mk result reached =>
    rw [read] at notes place
    cases result with
    | error error =>
      cases other : Gap.read false .empty (Cursor.ofSource (returned source)) with
      | mk result stopped =>
        rw [show Gap.empty.withReturns = .empty from rfl, other] at notes
        obtain rfl : result = .error error := notes
        rfl
    | ok gap =>
      obtain ⟨ends, behind⟩ := Gap.read_reached read
      have otherRead : Gap.read false .empty (Cursor.ofSource (returned source)) =
          (.ok gap.withReturns, reached.withReturns) := Prod.ext notes (place gap rfl)
      rw [otherRead]
      exact readAfter_withReturns ends (fun member => fewer (behind.subset member))
        (Cursor.isUnspliced_reached unspliced read)

/-- A directive over two lines, a raw string and a block comment that keep their carriage returns, a line
comment, an empty line and a literal with an escape. -/
theorem ofSource_withReturns_rawString :
    '\r' ∉ "#if A \\\n 1\n/* x\n */ s = R\"(\n)\"; // y\n\nc = '\\'';\n".toList ∧
      (Cursor.ofSource "#if A \\\n 1\n/* x\n */ s = R\"(\n)\"; // y\n\nc = '\\'';\n").isUnspliced = true ∧
      (ofSource "#if A \\\n 1\n/* x\n */ s = R\"(\n)\"; // y\n\nc = '\\'';\n").toOption.map List.length =
        some 10 ∧
      ofSource (returned "#if A \\\n 1\n/* x\n */ s = R\"(\n)\"; // y\n\nc = '\\'';\n") =
        (ofSource "#if A \\\n 1\n/* x\n */ s = R\"(\n)\"; // y\n\nc = '\\'';\n").map
          (·.map withReturns) := by
  have noReturns : '\r' ∉ "#if A \\\n 1\n/* x\n */ s = R\"(\n)\"; // y\n\nc = '\\'';\n".toList := by
    decide
  have unspliced : (Cursor.ofSource
      "#if A \\\n 1\n/* x\n */ s = R\"(\n)\"; // y\n\nc = '\\'';\n").isUnspliced = true := by
    decide +kernel
  exact ⟨noReturns, unspliced, by decide +kernel, ofSource_withReturns noReturns unspliced⟩

end Token

end CppSyntax
