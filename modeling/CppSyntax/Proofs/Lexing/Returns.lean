import CppSyntax.Proofs.Lexing.Respacing

/-!
Line ends of two characters. A source in which a carriage return stands before every line feed is read
like the one without them: the same tokens at the same places, or the same error. Only a raw string and
a block comment keep the carriage returns. Two things are left out, in which a backslash takes the next
character with it: a splice between tokens, and a line break inside a literal in quotes.
-/

namespace CppSyntax

namespace Text

/-- The text with a carriage return before every line feed. -/
def withReturns (text : List Char) : List Char :=
  text.flatMap fun c => if c = '\n' then ['\r', '\n'] else [c]

@[simp] theorem withReturns_nil : withReturns [] = [] := rfl

@[simp] theorem withReturns_lineFeed (rest : List Char) :
    withReturns ('\n' :: rest) = '\r' :: '\n' :: withReturns rest := rfl

theorem withReturns_cons {c : Char} (inLine : c ≠ '\n') (rest : List Char) :
    withReturns (c :: rest) = c :: withReturns rest := by
  simp [withReturns, inLine]

theorem withReturns_append (front rest : List Char) :
    withReturns (front ++ rest) = withReturns front ++ withReturns rest := by
  simp [withReturns]

theorem withReturns_eq_self {text : List Char} (inLine : '\n' ∉ text) : withReturns text = text := by
  induction text with
  | nil => rfl
  | cons c rest ih =>
    have other := List.ne_of_not_mem_cons inLine
    rw [withReturns_cons other.symm, ih (List.not_mem_of_not_mem_cons inLine)]

theorem respaces_withReturns : Respaces withReturns where
  nil := rfl
  solid solid := withReturns_cons (fun feed => absurd solid (by rw [feed]; decide)) _
  blank {c} rest blank := by
    by_cases feed : c = '\n'
    · exact ⟨'\r', '\n' :: withReturns rest, by decide, by rw [feed, withReturns_lineFeed]⟩
    · exact ⟨c, withReturns rest, blank, withReturns_cons feed rest⟩

theorem contains_withReturns (text : List Char) :
    (withReturns text).contains '\n' = text.contains '\n' := by
  induction text with
  | nil => rfl
  | cons c rest ih =>
    by_cases feed : c = '\n'
    · simp [feed]
    · simp only [withReturns_cons feed, List.contains_cons, ih]

/-- A carriage return before a line feed leads to the same place. -/
theorem advance_withReturns (place : Location) (text : List Char) :
    place.advance (withReturns text) = place.advance text := by
  induction text generalizing place with
  | nil => rfl
  | cons c rest ih =>
    by_cases feed : c = '\n'
    · subst feed
      exact ih _
    · rw [withReturns_cons feed, Location.advance_cons, Location.advance_cons, ih]

theorem withReturns_ne_lineFeed (text more : List Char) : withReturns text ≠ '\n' :: more := by
  intro found
  cases text with
  | nil => cases found
  | cons c rest =>
    by_cases feed : c = '\n'
    · rw [feed, withReturns_lineFeed] at found
      exact absurd (List.cons.inj found).1 (by decide)
    · rw [withReturns_cons feed] at found
      exact feed (List.cons.inj found).1

/-- A carriage return stands only where a line feed was. -/
theorem lineFeed_of_withReturns {text more : List Char} (noReturns : '\r' ∉ text)
    (found : withReturns text = '\r' :: more) : ∃ rest, text = '\n' :: rest := by
  cases text with
  | nil => cases found
  | cons c rest =>
    by_cases feed : c = '\n'
    · exact ⟨rest, by rw [feed]⟩
    · rw [withReturns_cons feed] at found
      exact absurd (List.cons.inj found).1.symm (List.ne_of_not_mem_cons noReturns)

theorem trimEnd_concat {c : Char} (blank : isBlank c = true) (text : List Char) :
    trimEnd (text ++ [c]) = trimEnd text := by
  simp [trimEnd, blank]

end Text

open Text

namespace Lexeme

theorem suffix_withReturns (text : List Char) :
    suffix (withReturns text) = (suffix text).before withReturns := by
  cases text with
  | nil => rfl
  | cons c rest =>
    by_cases feed : c = '\n'
    · subst feed
      rfl
    · rw [withReturns_cons feed]
      unfold suffix
      dsimp only
      split
      · rw [← withReturns_cons feed]
        exact Scan.takeWhile_respaced respaces_withReturns
          (IsSolid.isAlphanumeric.or (.eq _ (by decide))) _
      · simp [Scan.before, withReturns_cons feed]

theorem quotedRest_cons {quote c : Char} (inLine : c ≠ '\n') (noEscape : c ≠ '\\')
    (rest : List Char) : quotedRest quote (c :: rest) =
      if c = quote then ⟨true, [c], rest⟩ else (quotedRest quote rest).after [c] := by
  rw [quotedRest]
  · exact inLine
  · exact fun same _ => noEscape same
  · exact fun _ _ same _ => noEscape same

/-- A character that takes nothing with it, neither the end of the text nor another character, is no
backslash. -/
theorem ne_escape {c : Char} {rest : List Char} (alone : c = '\\' → rest = [] → False)
    (escaping : ∀ next more, c = '\\' → rest = next :: more → False) : c ≠ '\\' := by
  intro escape
  cases rest with
  | nil => exact alone escape rfl
  | cons next more => exact escaping next more escape rfl

/-- A literal is closed in both texts or in neither, by the same quote, unless it takes a line break
behind a backslash. -/
theorem quotedRest_withReturns {quote : Char} (notReturn : quote ≠ '\r') (text : List Char)
    (unspliced : (quotedRest quote text).value = true →
      ¬ ['\\', '\n'] <:+: (quotedRest quote text).used) :
    (quotedRest quote (withReturns text)).value = (quotedRest quote text).value ∧
      ((quotedRest quote text).value = true →
        quotedRest quote (withReturns text) = (quotedRest quote text).before withReturns) := by
  have stopped : ∀ rest, (quotedRest quote ('\r' :: '\n' :: rest)).value = false := by
    intro rest
    rw [quotedRest_cons (by decide) (by decide), if_neg notReturn.symm]
    rfl
  fun_induction quotedRest quote text with
  | case1 => exact ⟨rfl, fun _ => rfl⟩
  | case2 rest => exact ⟨stopped _, (absurd · Bool.false_ne_true)⟩
  | case3 => exact ⟨rfl, fun _ => rfl⟩
  | case4 c rest ih =>
    by_cases feed : c = '\n'
    · subst feed
      -- The backslash takes the carriage return only, so the line feed ends the other literal.
      have open' : (quotedRest quote rest).value = false :=
        Bool.eq_false_iff.mpr fun closed => unspliced closed ⟨[], _, rfl⟩
      rw [withReturns_cons (by decide), withReturns_lineFeed, quotedRest]
      exact ⟨open'.symm, fun closed => absurd (open'.symm.trans closed) (by decide)⟩
    · have later := ih fun closed found =>
        unspliced closed (found.trans ⟨['\\', c], [], by simp [Scan.after]⟩)
      rw [withReturns_cons (by decide), withReturns_cons feed, quotedRest]
      exact ⟨later.1, fun closed => by rw [later.2 closed]; rfl⟩
  | case5 rest inLine alone escaping =>
    have noEscape := ne_escape alone escaping
    rw [withReturns_cons inLine, quotedRest_cons inLine noEscape, if_pos rfl]
    exact ⟨rfl, fun _ => rfl⟩
  | case6 c rest inLine alone escaping other ih =>
    have noEscape := ne_escape alone escaping
    have later := ih fun closed found => unspliced closed (found.trans ⟨[c], [], by simp [Scan.after]⟩)
    rw [withReturns_cons inLine, quotedRest_cons inLine noEscape, if_neg other]
    exact ⟨later.1, fun closed => by rw [later.2 closed]; rfl⟩

end Lexeme

/-- The scan of the text with carriage returns that divides it where the given one does. -/
def Scan.overReturns (scan : Scan α) : Scan α :=
  ⟨scan.value, Text.withReturns scan.used, Text.withReturns scan.rest⟩

/-- A scan within a line uses the same characters in both texts. -/
theorem Scan.Divides.withReturns_used {scan : Scan α} {text : List Char}
    (divides : scan.Divides text) (other : (scan.before withReturns).Divides (withReturns text)) :
    withReturns scan.used = scan.used := by
  have whole : scan.used ++ withReturns scan.rest = withReturns scan.used ++ withReturns scan.rest := by
    rw [← withReturns_append, show scan.used ++ scan.rest = text from divides]
    exact other
  exact (List.append_cancel_right whole).symm

namespace Lexeme

private theorem commentRest_cons (c : Char) {rest : List Char}
    (goesOn : ∀ more, c = '*' → rest ≠ '/' :: more) :
    commentRest (c :: rest) = (commentRest rest).after [c] := by
  rw [commentRest]
  exact goesOn

theorem commentRest_withReturns (text : List Char) :
    commentRest (withReturns text) = (commentRest text).overReturns := by
  fun_induction commentRest text with
  | case1 => rfl
  | case2 rest =>
    rw [withReturns_cons (by decide), withReturns_cons (by decide), commentRest]
    rfl
  | case3 c rest goesOn ih =>
    by_cases feed : c = '\n'
    · subst feed
      rw [withReturns_lineFeed, commentRest_cons '\r' fun _ star => absurd star (by decide),
        commentRest_cons '\n' fun _ star => absurd star (by decide), ih]
      rfl
    · rw [withReturns_cons feed, commentRest_cons c, ih]
      · simp [Scan.overReturns, Scan.after, withReturns_cons feed]
      · intro more star slash
        have opens : ['/'] <+: rest :=
          (respaces_withReturns.prefix_iff (solid_of_all (by decide))).mp (slash ▸ List.prefix_append ['/'] more)
        obtain ⟨tail, rfl⟩ := opens
        exact goesOn tail star rfl

/-- The delimiter of a raw string holds no blanks. -/
theorem solid_rawDelimiter {size : Nat} {text delimiter : List Char}
    (opened : (rawDelimiter size text).value = some delimiter) :
    ∀ c ∈ delimiter, isBlank c = false := by
  fun_induction rawDelimiter size text generalizing delimiter with
  | case1 => cases opened
  | case2 => cases opened; exact fun _ => (absurd · List.not_mem_nil)
  | case3 size c rest notOpen fits ih =>
    obtain ⟨more, found, rfl⟩ := Option.map_eq_some_iff.mp opened
    simp only [Bool.and_eq_true, Bool.not_eq_true'] at fits
    exact List.forall_mem_cons.mpr ⟨fits.1.1.2, ih found⟩
  | case4 => cases opened

theorem rawDelimiter_cons {size : Nat} {c : Char} (notOpen : c ≠ '(') (rest : List Char) :
    rawDelimiter size (c :: rest) =
      if size < 16 && !isBlank c && c != ')' && c != '\\' then
        ((rawDelimiter (size + c.utf8Size) rest).after [c]).map (·.map (c :: ·))
      else ⟨none, [c], rest⟩ := by
  rw [rawDelimiter]
  exact notOpen

theorem rawDelimiter_withReturns (size : Nat) (text : List Char) :
    (rawDelimiter size (withReturns text)).value = (rawDelimiter size text).value ∧
      ((rawDelimiter size text).value.isSome = true →
        rawDelimiter size (withReturns text) = (rawDelimiter size text).before withReturns) := by
  fun_induction rawDelimiter size text with
  | case1 => exact ⟨rfl, (absurd · Bool.false_ne_true)⟩
  | case2 => exact ⟨rfl, fun _ => rfl⟩
  | case3 size c rest notOpen fits ih =>
    have inLine : c ≠ '\n' := by
      rintro rfl
      simp [show isBlank '\n' = true by decide] at fits
    rw [withReturns_cons inLine, rawDelimiter_cons notOpen, if_pos fits]
    refine ⟨congrArg (Option.map _) ih.1, fun opened => ?_⟩
    rw [ih.2 (by simpa [Scan.map, Scan.after] using opened)]
    rfl
  | case4 size c rest notOpen misfit =>
    refine ⟨?_, (absurd · Bool.false_ne_true)⟩
    by_cases feed : c = '\n'
    · subst feed
      rw [withReturns_lineFeed, rawDelimiter_cons (by decide), if_neg]
      simp [show isBlank '\r' = true by decide]
    · rw [withReturns_cons feed, rawDelimiter_cons notOpen, if_neg misfit]

/-- A raw string goes on to its closing text over all line ends. -/
theorem rawRest_withReturns {closing : List Char} (solid : ∀ c ∈ closing, isBlank c = false)
    (nonempty : closing ≠ []) (text : List Char) :
    rawRest closing (withReturns text) = (rawRest closing text).overReturns := by
  have noFeed : '\n' ∉ closing := fun member => absurd (solid _ member) (by decide)
  have open' : ∀ (c : Char) (rest : List Char), ¬ closing <+: c :: rest →
      rawRest closing (c :: rest) = (rawRest closing rest).after [c] := by
    intro c rest absent
    rw [rawRest, if_neg (by simpa using absent)]
  induction text with
  | nil => rfl
  | cons c rest ih =>
    by_cases found : closing <+: c :: rest
    · obtain ⟨tail, whole⟩ := found
      have closed : ∀ more, rawRest closing (closing ++ more) = ⟨true, closing, more⟩ := by
        intro more
        cases closing with
        | nil => exact absurd rfl nonempty
        | cons d closing => simp [rawRest]
      rw [← whole, withReturns_append, withReturns_eq_self noFeed, closed, closed, Scan.overReturns,
        withReturns_eq_self noFeed]
    · by_cases feed : c = '\n'
      · subst feed
        have absent : ¬ closing <+: withReturns ('\n' :: rest) :=
          mt (respaces_withReturns.prefix_iff solid).mp found
        rw [withReturns_lineFeed] at absent
        have later : ¬ closing <+: '\n' :: withReturns rest := by
          cases closing with
          | nil => exact absurd rfl nonempty
          | cons d closing =>
            rintro ⟨tail, whole⟩
            exact noFeed (by simp [(List.cons.inj whole).1])
        rw [withReturns_lineFeed, open' _ _ absent, open' _ _ later, open' _ _ found, ih]
        rfl
      · have absent : ¬ closing <+: c :: withReturns rest := by
          rw [← withReturns_cons feed]
          exact mt (respaces_withReturns.prefix_iff solid).mp found
        rw [withReturns_cons feed, open' _ _ absent, open' _ _ found, ih]
        simp [Scan.overReturns, Scan.after, withReturns_cons feed]

end Lexeme

/-- The string with a carriage return before every line feed. -/
def Text.returned (text : String) : String := String.ofList (withReturns text.toList)

/-- Whether a backslash stands directly before a line break. -/
def Text.holdsSplice : List Char → Bool
  | [] => false
  | c :: rest => (c == '\\' && rest.head? == some '\n') || holdsSplice rest

theorem Text.holdsSplice_of_infix {text : List Char} (found : ['\\', '\n'] <:+: text) :
    holdsSplice text = true := by
  induction text with
  | nil => simp at found
  | cons c rest ih =>
    rcases List.infix_cons_iff.mp found with ⟨tail, front⟩ | later
    · obtain ⟨rfl, rfl⟩ := List.cons.inj front
      rfl
    · simp [holdsSplice, ih later]

namespace TokenKind

/-- Whether the text of a string literal is that of a raw string: its encoding mark ends in `R`. -/
def isRaw (text : List Char) : Bool :=
  (text.takeWhile (· != '"')).getLast? == some 'R'

/-- The kind with carriage returns, which only a raw string keeps. -/
def withReturns : TokenKind → TokenKind
  | .string text => if isRaw text.toList then .string (returned text) else .string text
  | kind => kind

/-- A literal in quotes that holds a backslash directly before a line break. -/
def isSpliced : TokenKind → Bool
  | .string text => !isRaw text.toList && holdsSplice text.toList
  | .character text => holdsSplice text.toList
  | _ => false

theorem isRaw_append {mark : List Char} (noQuote : '"' ∉ mark) (rest : List Char) :
    isRaw (mark ++ '"' :: rest) = (mark.getLast? == some 'R') := by
  have front : (mark ++ '"' :: rest).takeWhile (· != '"') = mark := by
    rw [List.takeWhile_append_of_pos]
    · simp
    · exact fun c member => bne_iff_ne.mpr fun same => noQuote (same ▸ member)
  rw [isRaw, front]

theorem withReturns_raw {text : List Char} (raw : isRaw text = true) :
    (string (String.ofList text)).withReturns = .string (String.ofList (Text.withReturns text)) := by
  simp [withReturns, raw, returned]

end TokenKind

/-- Both scans stop at the same place. The other one may have used the carriage return that stands there
before a line feed. -/
inductive Scan.StopsAlike (scan : Scan α) (other : Scan β) : Prop where
  | same (used : other.used = withReturns scan.used) (rest : other.rest = withReturns scan.rest)
  | pastReturn {rest : List Char} (lineEnd : scan.rest = '\n' :: rest)
      (used : other.used = withReturns scan.used ++ ['\r']) (rest : other.rest = '\n' :: withReturns rest)

/-- What is found with carriage returns is what is found without them, up to a change, or the same
fault. Behind what is found both texts go on alike. -/
structure Scan.Returned (change : α → α) (scan other : Scan (Except LexFault α)) : Prop where
  value : other.value = scan.value.map change
  stops : ∀ found, scan.value = .ok found → scan.StopsAlike other

namespace Scan.Returned

variable {change : α → α} {scan other : Scan (Except LexFault α)}

/-- What is found within a line. -/
theorem inLine (text : List Char) (divides : scan.Divides text)
    (alike : (scan.before withReturns).Divides (withReturns text))
    (same : ∀ found, scan.value = .ok found → change found = found) :
    Returned change scan (scan.before withReturns) where
  value := by
    cases value : scan.value with
    | error fault => exact value
    | ok found => exact value.trans (congrArg Except.ok (same found value).symm)
  stops _ _ := .same (divides.withReturns_used alike).symm rfl

theorem fault {fault : LexFault} (faulty : scan.value = .error fault)
    (same : other.value = .error fault) : Returned change scan other where
  value := by rw [faulty, same]; rfl
  stops found value := by cases faulty.symm.trans value

end Scan.Returned

namespace Lexeme

/-- What stands before the quote of a literal that is not raw. -/
structure IsPlainMark (mark : List Char) : Prop where
  inLine : '\n' ∉ mark
  noQuote : '"' ∉ mark
  notRaw : mark.getLast? ≠ some 'R'

private theorem quotedKind_plain {mark : List Char} (plain : IsPlainMark mark) (quote : Char)
    (text : List Char) : (quotedKind quote (mark ++ quote :: text)).withReturns =
        quotedKind quote (mark ++ quote :: text) ∧
      (quotedKind quote (mark ++ quote :: text)).isSpliced = holdsSplice (mark ++ quote :: text) := by
  unfold quotedKind
  split
  · rename_i isString
    obtain rfl : quote = '"' := by simpa using isString
    have notRaw : TokenKind.isRaw (mark ++ '"' :: text) = false := by
      rw [TokenKind.isRaw_append plain.noQuote]
      simpa using plain.notRaw
    simp [TokenKind.withReturns, TokenKind.isSpliced, notRaw]
  · simp [TokenKind.withReturns, TokenKind.isSpliced]

theorem quoted_open {quote : Char} {next : List Char}
    (isOpen : (quotedRest quote next).value = false) (front : List Char) :
    (quoted front quote next).value = .error (unterminated quote) := by
  rw [quoted, isOpen]
  rfl

theorem quoted_closed {quote : Char} {next : List Char}
    (closed : (quotedRest quote next).value = true) (front : List Char) :
    quoted front quote next =
      ((suffix (quotedRest quote next).rest).after (front ++ (quotedRest quote next).used)).map fun _ =>
        .ok (quotedKind quote (front ++ (quotedRest quote next).used ++
          (suffix (quotedRest quote next).rest).used)) := by
  rw [quoted, closed]
  rfl

theorem quoted_returned {quote : Char} (mark : List Char) (plain : IsPlainMark mark)
    (notFeed : quote ≠ '\n') (notReturn : quote ≠ '\r') (next : List Char)
    (unspliced : ∀ kind, (quoted (mark ++ [quote]) quote next).value = .ok kind → kind.isSpliced = false) :
    Scan.Returned TokenKind.withReturns (quoted (mark ++ [quote]) quote next)
      (quoted (mark ++ [quote]) quote (withReturns next)) := by
  cases closed : (quotedRest quote next).value with
  | false =>
    have same := (quotedRest_withReturns notReturn next (by simp [closed])).1
    exact Scan.Returned.fault (quoted_open closed _) (quoted_open (same.trans closed) _)
  | true =>
    obtain ⟨text, found, inside⟩ : ∃ text, (quoted (mark ++ [quote]) quote next).value =
        .ok (quotedKind quote (mark ++ quote :: text)) ∧ (quotedRest quote next).used <+: text := by
      refine ⟨(quotedRest quote next).used ++ (suffix (quotedRest quote next).rest).used, ?_,
        List.prefix_append _ _⟩
      rw [quoted_closed closed]
      simp [Scan.map]
    have apart : ¬ ['\\', '\n'] <:+: (quotedRest quote next).used := by
      intro splice
      have spliced := unspliced _ found
      rw [(quotedKind_plain plain quote text).2, holdsSplice_of_infix
        (splice.trans (inside.isInfix.trans ⟨mark ++ [quote], [], by simp⟩))] at spliced
      cases spliced
    have same := (quotedRest_withReturns notReturn next fun _ => apart).2 closed
    have before : quoted (mark ++ [quote]) quote (withReturns next) =
        (quoted (mark ++ [quote]) quote next).before withReturns := by
      rw [quoted_closed closed, quoted_closed (same ▸ closed), same, Scan.before_rest,
        suffix_withReturns]
      rfl
    have front : withReturns (mark ++ [quote]) = mark ++ [quote] :=
      withReturns_eq_self (by simp [plain.inLine, notFeed.symm])
    rw [before]
    refine Scan.Returned.inLine _ (quoted_divides ..) ?_ fun other value => ?_
    · rw [withReturns_append, front, ← before]
      exact quoted_divides ..
    · cases found.symm.trans value
      exact (quotedKind_plain plain quote text).1

section

variable {next delimiter : List Char} {opening : Scan (Option (List Char))} {body : Scan Bool}

theorem rawString_undelimited (opened : rawDelimiter 0 next = opening)
    (undelimited : opening.value = none) (front : List Char) :
    (rawString front next).value = .error .invalidRawDelimiter := by
  subst opened
  simp only [rawString, undelimited]
  rfl

theorem rawString_open (opened : rawDelimiter 0 next = opening)
    (delimited : opening.value = some delimiter)
    (read : rawRest (')' :: delimiter ++ ['"']) opening.rest = body) (isOpen : body.value = false)
    (front : List Char) : (rawString front next).value = .error .unterminatedRawString := by
  subst opened read
  simp only [rawString, delimited, isOpen]
  rfl

theorem rawString_closed (opened : rawDelimiter 0 next = opening)
    (delimited : opening.value = some delimiter)
    (read : rawRest (')' :: delimiter ++ ['"']) opening.rest = body) (closed : body.value = true)
    (front : List Char) : rawString front next =
      ((suffix body.rest).after (front ++ opening.used ++ body.used)).map fun _ =>
        .ok (.string (String.ofList (front ++ opening.used ++ body.used ++ (suffix body.rest).used))) := by
  subst opened read
  simp only [rawString, delimited, closed]
  rfl

end

theorem rawString_returned {mark : List Char} (noFeed : '\n' ∉ mark) (noQuote : '"' ∉ mark)
    (endsRaw : mark.getLast? = some 'R') (next : List Char) :
    Scan.Returned TokenKind.withReturns (rawString (mark ++ ['"']) next) (rawString (mark ++ ['"']) (withReturns next)) := by
  obtain ⟨delimiterSame, openingSame⟩ := rawDelimiter_withReturns 0 next
  cases delimited : (rawDelimiter 0 next).value with
  | none =>
    exact Scan.Returned.fault (rawString_undelimited rfl delimited _)
      (rawString_undelimited rfl (delimiterSame.trans delimited) _)
  | some delimiter =>
    have opening := openingSame (by simp [delimited])
    have solid : ∀ c ∈ ')' :: delimiter ++ ['"'], isBlank c = false := by
      have inside := solid_rawDelimiter delimited
      simp only [List.mem_append, List.mem_cons, List.not_mem_nil, or_false]
      rintro c ((rfl | member) | rfl)
      · decide
      · exact inside c member
      · decide
    have body : rawRest (')' :: delimiter ++ ['"']) ((rawDelimiter 0 next).before withReturns).rest =
        (rawRest (')' :: delimiter ++ ['"']) (rawDelimiter 0 next).rest).overReturns :=
      rawRest_withReturns solid (by simp) _
    cases closed : (rawRest (')' :: delimiter ++ ['"']) (rawDelimiter 0 next).rest).value with
    | false =>
      exact Scan.Returned.fault (rawString_open rfl delimited rfl closed _)
        (rawString_open opening delimited body closed _)
    | true =>
      generalize read : rawRest (')' :: delimiter ++ ['"']) (rawDelimiter 0 next).rest = scan at body closed
      have front : withReturns (mark ++ ['"'] ++ (rawDelimiter 0 next).used) =
          mark ++ ['"'] ++ (rawDelimiter 0 next).used := by
        rw [withReturns_append, (rawDelimiter_divides 0 next).withReturns_used]
        · rw [withReturns_eq_self (by simp [noFeed])]
        · exact opening ▸ rawDelimiter_divides ..
      have ends : withReturns (suffix scan.rest).used = (suffix scan.rest).used :=
        (suffix_divides scan.rest).withReturns_used (suffix_withReturns _ ▸ suffix_divides _)
      have whole : withReturns (mark ++ ['"'] ++ (rawDelimiter 0 next).used ++ scan.used ++
          (suffix scan.rest).used) = mark ++ ['"'] ++ (rawDelimiter 0 next).used ++
            withReturns scan.used ++ (suffix scan.rest).used := by
        rw [withReturns_append, withReturns_append, front, ends]
      have raw : TokenKind.isRaw (mark ++ ['"'] ++ (rawDelimiter 0 next).used ++ scan.used ++
          (suffix scan.rest).used) = true := by
        simp only [List.append_assoc, List.cons_append,
          TokenKind.isRaw_append noQuote, endsRaw]
        rfl
      rw [rawString_closed rfl delimited read closed, rawString_closed opening delimited body closed]
      simp only [Scan.overReturns, suffix_withReturns, Scan.before_used]
      constructor
      · exact congrArg Except.ok ((TokenKind.withReturns_raw raw).trans (by rw [whole])).symm
      · exact fun _ _ => .same whole.symm rfl

private theorem numberKind_withReturns (text : List Char) :
    (numberKind text).withReturns = numberKind text := by
  unfold numberKind
  split <;> rfl

private theorem wordKind_withReturns (text : String) : (wordKind text).withReturns = wordKind text := by
  unfold wordKind
  split <;> rfl

private theorem isPlainMark_of_mem {mark : List Char}
    (encoding : String.ofList mark ∈ ["u8", "u", "U", "L"]) : IsPlainMark mark := by
  have member := List.mem_map_of_mem (f := String.toList) encoding
  rw [String.toList_ofList] at member
  have each : ∀ mark ∈ ["u8", "u", "U", "L"].map String.toList,
      '\n' ∉ mark ∧ '"' ∉ mark ∧ mark.getLast? ≠ some 'R' := by decide
  obtain ⟨inLine, noQuote, notRaw⟩ := each mark member
  exact ⟨inLine, noQuote, notRaw⟩

private theorem rawMark_of_mem {mark : List Char}
    (encoding : String.ofList mark ∈ ["R", "u8R", "uR", "UR", "LR"]) :
    '\n' ∉ mark ∧ '"' ∉ mark ∧ mark.getLast? = some 'R' := by
  have member := List.mem_map_of_mem (f := String.toList) encoding
  rw [String.toList_ofList] at member
  have each : ∀ mark ∈ ["R", "u8R", "uR", "UR", "LR"].map String.toList,
      '\n' ∉ mark ∧ '"' ∉ mark ∧ mark.getLast? = some 'R' := by decide
  exact each mark member

theorem word_returned {first : Char} (inLine : first ≠ '\n') (next : List Char)
    (unspliced : ∀ kind, (word first next).value = .ok kind → kind.isSpliced = false) :
    Scan.Returned TokenKind.withReturns (word first next) (word first (withReturns next)) := by
  obtain ⟨name, tail, rfl, chars, ends⟩ := word_front next
  have noFeed : '\n' ∉ name := fun member => absurd (chars '\n' member) (by decide)
  have whole : withReturns (first :: name) = first :: name :=
    withReturns_eq_self (by simp [inLine.symm, noFeed])
  have plain (tail : List Char) : Scan.Returned TokenKind.withReturns
      ⟨.ok (wordKind (String.ofList (first :: name))), first :: name, tail⟩
      ⟨.ok (wordKind (String.ofList (first :: name))), first :: name, withReturns tail⟩ := by
    refine Scan.Returned.inLine (first :: name ++ tail) rfl ?_ ?_
    · rw [withReturns_append, whole]
      rfl
    · rintro kind ⟨⟩
      exact wordKind_withReturns _
  rw [withReturns_append, withReturns_eq_self noFeed]
  rcases ends with ⟨text, rfl⟩ | ⟨text, rfl⟩ | ends
  · rw [word_string chars] at unspliced
    rw [withReturns_cons (by decide), word_string chars, word_string chars]
    split
    · rename_i encoding
      rw [if_pos encoding] at unspliced
      exact quoted_returned _ (isPlainMark_of_mem encoding) (by decide) (by decide) text unspliced
    · split
      · rename_i raw
        obtain ⟨noFeed, noQuote, endsRaw⟩ := rawMark_of_mem raw
        exact rawString_returned noFeed noQuote endsRaw text
      · exact withReturns_cons (c := '"') (by decide) text ▸ plain _
  · rw [word_character chars] at unspliced
    rw [withReturns_cons (by decide), word_character chars, word_character chars]
    split
    · rename_i encoding
      rw [if_pos encoding] at unspliced
      exact quoted_returned _ (isPlainMark_of_mem encoding) (by decide) (by decide) text unspliced
    · exact withReturns_cons (c := '\'') (by decide) text ▸ plain _
  · rw [word_of_ends chars ends, word_of_ends chars (respaces_withReturns.nameEnds ends)]
    exact plain tail

theorem punctuator_returned {first : Char} (inLine : first ≠ '\n') (next : List Char) :
    Scan.Returned TokenKind.withReturns (punctuator first next) (punctuator first (withReturns next)) := by
  rw [punctuator_respaced respaces_withReturns]
  refine Scan.Returned.inLine _ (punctuator_divides first next) ?_ ?_
  · rw [withReturns_cons inLine, ← punctuator_respaced respaces_withReturns]
    exact punctuator_divides ..
  · intro kind value
    unfold punctuator at value
    split at value <;> cases value
    rfl

theorem scan_returned {first : Char} (inLine : first ≠ '\n') (notReturn : first ≠ '\r')
    (next : List Char)
    (unspliced : ∀ kind, (scan first next).value = .ok kind → kind.isSpliced = false) :
    Scan.Returned TokenKind.withReturns (scan first next) (scan first (withReturns next)) := by
  have digit : (withReturns next).head?.any Char.isDigit = next.head?.any Char.isDigit :=
    respaces_withReturns.any_head? IsSolid.isDigit next
  unfold scan at unspliced ⊢
  rw [digit]
  split
  · rename_i quote
    rw [if_pos quote] at unspliced
    exact quoted_returned [] ⟨by simp, by simp, by simp⟩ inLine notReturn next unspliced
  · rename_i noQuote
    rw [if_neg noQuote] at unspliced
    split
    · rw [number_respaced respaces_withReturns]
      refine Scan.Returned.inLine _ (Scan.divides_map.mpr (number_divides first next)) ?_ ?_
      · rw [Scan.before_map, Scan.divides_map, withReturns_cons inLine,
          ← number_respaced respaces_withReturns]
        exact number_divides ..
      · rintro kind ⟨⟩
        exact numberKind_withReturns _
    · rename_i noNumber
      rw [if_neg noNumber] at unspliced
      split
      · rename_i name
        rw [if_pos name] at unspliced
        exact word_returned inLine next unspliced
      · exact punctuator_returned inLine next

theorem directiveLine_cons {c : Char} {rest : List Char} (inLine : c ≠ '\n')
    (noFeed : ∀ more, c = '\\' → rest ≠ '\n' :: more)
    (noReturn : ∀ more, c = '\\' → rest ≠ '\r' :: '\n' :: more) :
    directiveLine (c :: rest) = ((directiveLine rest).after [c]).map (c :: ·) := by
  rw [directiveLine]
  · exact inLine
  · exact noFeed
  · exact noReturn

/-- A directive goes on over the same splices. Its line ends in a carriage return, unless it is the last
one. -/
theorem directiveLine_withReturns {text : List Char} (noReturns : '\r' ∉ text) :
    ((directiveLine text).rest = [] ∧ directiveLine (withReturns text) = (directiveLine text).overReturns) ∨
      ∃ rest, (directiveLine text).rest = '\n' :: rest ∧ directiveLine (withReturns text) =
        ⟨(directiveLine text).value ++ ['\r'], withReturns (directiveLine text).used ++ ['\r'],
          '\n' :: withReturns rest⟩ := by
  fun_induction directiveLine text with
  | case1 => exact .inl ⟨rfl, rfl⟩
  | case2 rest =>
    refine .inr ⟨rest, rfl, ?_⟩
    rw [withReturns_lineFeed, directiveLine_cons (by decide) (fun _ same => absurd same (by decide))
      fun _ same => absurd same (by decide)]
    rfl
  | case3 rest ih =>
    rw [withReturns_cons (by decide), withReturns_lineFeed, directiveLine]
    rcases ih (fun member => noReturns (by simp [member])) with ⟨last, same⟩ | ⟨more, ends, same⟩
    · exact .inl ⟨last, by rw [same]; rfl⟩
    · exact .inr ⟨more, ends, by rw [same]; rfl⟩
  | case4 rest => exact absurd (by simp) noReturns
  | case5 c rest inLine noFeed noReturn ih =>
    rw [withReturns_cons inLine, directiveLine_cons inLine]
    · rcases ih (List.not_mem_of_not_mem_cons noReturns) with ⟨last, same⟩ | ⟨more, ends, same⟩
      · exact .inl ⟨last, by
          rw [same]
          simp [Scan.overReturns, Scan.map, Scan.after, withReturns_cons inLine]⟩
      · exact .inr ⟨more, ends, by
          rw [same]
          simp [Scan.map, Scan.after, withReturns_cons inLine]⟩
    · exact fun more _ => withReturns_ne_lineFeed rest more
    · intro more splice found
      obtain ⟨tail, rfl⟩ := lineFeed_of_withReturns (List.not_mem_of_not_mem_cons noReturns) found
      exact noFeed tail splice rfl

theorem directive_returned {text : List Char} (noReturns : '\r' ∉ text) :
    Scan.Returned TokenKind.withReturns (directive text) (directive (withReturns text)) := by
  unfold directive
  rcases directiveLine_withReturns noReturns with ⟨_, same⟩ | ⟨rest, ends, same⟩
  · rw [same]
    exact ⟨rfl, fun _ _ => .same rfl rfl⟩
  · rw [same]
    refine ⟨?_, fun _ _ => .pastReturn ends rfl rfl⟩
    have trimmed := trimEnd_concat (show isBlank '\r' = true by decide) (directiveLine text).value
    simp [Scan.map, trimmed, TokenKind.withReturns, Except.map]

end Lexeme

end CppSyntax
