import CppSyntax.Text.CharRange
import CppSyntax.Text.Numeric
import CppSyntax.Token

/-!
Lexemes: how far the token at the front of a text goes, and of which kind it is. A scan says what was
found, which characters were used for it and which are left. Every scan here divides its text without
changing it, also where it ends in a fault; the used characters then say how far the reader got.
-/

namespace CppSyntax

structure Scan (α : Type) where
  value : α
  used : List Char
  rest : List Char

namespace Scan

/-- The used characters and the rest make up the text. -/
def Divides (scan : Scan α) (text : List Char) : Prop :=
  scan.used ++ scan.rest = text

def map (f : α → β) (scan : Scan α) : Scan β :=
  ⟨f scan.value, scan.used, scan.rest⟩

/-- The scan of a text that starts with some more used characters. -/
def after (front : List Char) (scan : Scan α) : Scan α :=
  ⟨scan.value, front ++ scan.used, scan.rest⟩

/-- The longest front of a text whose characters all pass. -/
def takeWhile (passes : Char → Bool) (text : List Char) : Scan Unit :=
  ⟨(), text.takeWhile passes, text.dropWhile passes⟩

@[simp] theorem divides_map {f : α → β} {scan : Scan α} {text : List Char} :
    (scan.map f).Divides text ↔ scan.Divides text := Iff.rfl

theorem Divides.after {scan : Scan α} {text : List Char} (divides : scan.Divides text)
    (front : List Char) : (scan.after front).Divides (front ++ text) := by
  simp only [Divides, Scan.after, List.append_assoc] at divides ⊢
  rw [divides]

/-- Two scans in a row, after a front that both leave alone. -/
theorem Divides.followed {first : Scan α} {second : Scan β} {text : List Char}
    (divides : first.Divides text) (continued : second.Divides first.rest) (front : List Char) :
    (second.after (front ++ first.used)).Divides (front ++ text) := by
  simp only [Divides, Scan.after, List.append_assoc] at divides continued ⊢
  rw [continued, divides]

theorem divides_takeWhile (passes : Char → Bool) (text : List Char) :
    (takeWhile passes text).Divides text :=
  List.takeWhile_append_dropWhile

theorem Divides.length_le {scan : Scan α} {text : List Char} (divides : scan.Divides text) :
    scan.rest.length ≤ text.length := by
  rw [Divides] at divides
  simp [← divides]

theorem Divides.length_lt {scan : Scan α} {text : List Char} (divides : scan.Divides text)
    (used : scan.used ≠ []) : scan.rest.length < text.length := by
  rw [Divides] at divides
  have positive := List.length_pos_iff.mpr used
  simp only [← divides, List.length_append]
  omega

end Scan

namespace Lexeme

open Text

def isNameStart (c : Char) : Bool :=
  isAlphabetic c || c == '_' || c == '$'

def isNameChar (c : Char) : Bool :=
  isAlphanumeric c || c == '_' || c == '$'

/-- The suffix of a literal: letters, numbers and underscores that do not start with a number. -/
def suffix (text : List Char) : Scan Unit :=
  match text with
  | [] => ⟨(), [], []⟩
  | c :: _ =>
    if isAlphabetic c || c == '_' then
      Scan.takeWhile (fun c => isAlphanumeric c || c == '_') text
    else
      ⟨(), [], text⟩

/-- The rest of a quoted literal with its closing quote, or what there is of it before the end of
the line. A backslash takes the next character with it, even a line break. -/
def quotedRest (quote : Char) : List Char → Scan Bool
  | [] => ⟨false, [], []⟩
  | '\n' :: rest => ⟨false, [], '\n' :: rest⟩
  | ['\\'] => ⟨false, ['\\'], []⟩
  | '\\' :: c :: rest => (quotedRest quote rest).after ['\\', c]
  | c :: rest => if c = quote then ⟨true, [c], rest⟩ else (quotedRest quote rest).after [c]

/-- The delimiter of a raw string up to its opening parenthesis. At most sixteen bytes are allowed;
`size` counts those already read. -/
def rawDelimiter (size : Nat) : List Char → Scan (Option (List Char))
  | [] => ⟨none, [], []⟩
  | '(' :: rest => ⟨some [], ['('], rest⟩
  | c :: rest =>
    if size < 16 && !isBlank c && c != ')' && c != '\\' then
      ((rawDelimiter (size + c.utf8Size) rest).after [c]).map (·.map (c :: ·))
    else
      ⟨none, [c], rest⟩

/-- The rest of a raw string up to and including its closing text. -/
def rawRest (closing : List Char) : List Char → Scan Bool
  | [] => ⟨false, [], []⟩
  | c :: rest =>
    if closing.isPrefixOf (c :: rest) then
      ⟨true, (c :: rest).take closing.length, (c :: rest).drop closing.length⟩
    else
      (rawRest closing rest).after [c]

/-- The rest of a block comment up to and including its closing mark. -/
def commentRest : List Char → Scan Bool
  | [] => ⟨false, [], []⟩
  | '*' :: '/' :: rest => ⟨true, ['*', '/'], rest⟩
  | c :: rest => (commentRest rest).after [c]

/-- A sign belongs to a number right after the letter of an exponent. -/
def isExponentSign (hex : Bool) (last c : Char) : Bool :=
  (c == '+' || c == '-') &&
    (if hex then last == 'p' || last == 'P' else last == 'e' || last == 'E')

/-- The rest of a number whose last character so far is given. -/
def numberRest (hex : Bool) (last : Char) : List Char → Scan Unit
  | [] => ⟨(), [], []⟩
  | c :: rest =>
    if c.isAlphanum || c == '_' || c == '.' || isExponentSign hex last c then
      (numberRest hex c rest).after [c]
    else if c == '\'' && rest.head?.any Char.isAlphanum then
      (numberRest hex c rest).after [c]
    else
      ⟨(), [], c :: rest⟩

/-- An exponent letter between a digit and a digit or sign. -/
def hasDecimalExponent : List Char → Bool
  | a :: b :: c :: rest =>
    (a.isDigit && (b == 'e' || b == 'E') && (c.isDigit || c == '+' || c == '-')) ||
      hasDecimalExponent (b :: c :: rest)
  | _ => false

/-- Whether the spelling of a number is that of a floating literal. -/
def isFloating (text : List Char) : Bool :=
  match text with
  | '0' :: 'x' :: _ | '0' :: 'X' :: _ => text.any fun c => c == '.' || c == 'p' || c == 'P'
  | '0' :: 'b' :: _ | '0' :: 'B' :: _ => false
  | _ => text.contains '.' || hasDecimalExponent text

def numberKind (text : List Char) : TokenKind :=
  if isFloating text then .floating (String.ofList text) else .integer (String.ofList text)

/-- A number that starts with the given character. -/
def number (first : Char) (next : List Char) : Scan TokenKind :=
  let hex := first == '0' && next.head?.any fun c => c == 'x' || c == 'X'
  let scan := (numberRest hex first next).after [first]
  scan.map fun _ => numberKind scan.used

def quotedKind (quote : Char) (text : List Char) : TokenKind :=
  if quote == '"' then .string (String.ofList text) else .character (String.ofList text)

def unterminated (quote : Char) : LexFault :=
  if quote == '"' then .unterminatedString else .unterminatedCharacter

/-- A string or character literal whose opening quote ends the given front. -/
def quoted (front : List Char) (quote : Char) (next : List Char) : Scan (Except LexFault TokenKind) :=
  let body := quotedRest quote next
  if body.value then
    let scan := (suffix body.rest).after (front ++ body.used)
    scan.map fun _ => .ok (quotedKind quote scan.used)
  else
    (body.after front).map fun _ => .error (unterminated quote)

/-- A raw string whose opening quote ends the given front. -/
def rawString (front next : List Char) : Scan (Except LexFault TokenKind) :=
  let opening := rawDelimiter 0 next
  match opening.value with
  | none => (opening.after front).map fun _ => .error .invalidRawDelimiter
  | some delimiter =>
    let body := rawRest (')' :: delimiter ++ ['"']) opening.rest
    let front := front ++ opening.used
    if body.value then
      let scan := (suffix body.rest).after (front ++ body.used)
      scan.map fun _ => .ok (.string (String.ofList scan.used))
    else
      (body.after front).map fun _ => .error .unterminatedRawString

/-- The word that a name spells, reserved or not. -/
def wordKind (text : String) : TokenKind :=
  match Keyword.ofSpelling? text with
  | some word => .keyword word
  | none => .identifier text

/-- A name, or a literal that the name is the encoding mark of. -/
def word (first : Char) (next : List Char) : Scan (Except LexFault TokenKind) :=
  let scan := (Scan.takeWhile isNameChar next).after [first]
  let text := String.ofList scan.used
  match scan.rest with
  | '"' :: rest =>
    if text ∈ ["u8", "u", "U", "L"] then quoted (scan.used ++ ['"']) '"' rest
    else if text ∈ ["R", "u8R", "uR", "UR", "LR"] then rawString (scan.used ++ ['"']) rest
    else scan.map fun _ => .ok (wordKind text)
  | '\'' :: rest =>
    if text ∈ ["u8", "u", "U", "L"] then quoted (scan.used ++ ['\'']) '\'' rest
    else scan.map fun _ => .ok (wordKind text)
  | _ => scan.map fun _ => .ok (wordKind text)

def punctuator (first : Char) (next : List Char) : Scan (Except LexFault TokenKind) :=
  match Punctuator.longest? first next with
  | some (mark, more) => ⟨.ok (.punctuator mark), first :: next.take more, next.drop more⟩
  | none => ⟨.error (.unexpectedCharacter first), [first], next⟩

/-- A preprocessor line with its continuation lines. Its spelling has no blank at the end, and a
continued line ends in a backslash and a bare line feed. -/
def directiveLine : List Char → Scan (List Char)
  | [] => ⟨[], [], []⟩
  | '\n' :: rest => ⟨[], [], '\n' :: rest⟩
  | '\\' :: '\n' :: rest =>
    ((directiveLine rest).after ['\\', '\n']).map (['\\', '\n'] ++ ·)
  | '\\' :: '\r' :: '\n' :: rest =>
    ((directiveLine rest).after ['\\', '\r', '\n']).map (['\\', '\n'] ++ ·)
  | c :: rest => ((directiveLine rest).after [c]).map (c :: ·)

def directive (text : List Char) : Scan (Except LexFault TokenKind) :=
  (directiveLine text).map fun line => .ok (.directive (String.ofList (trimEnd line)))

/-- The token, other than a directive, at the front of a text that does not start with a blank. -/
def scan (first : Char) (next : List Char) : Scan (Except LexFault TokenKind) :=
  if first == '"' || first == '\'' then quoted [first] first next
  else if first.isDigit || (first == '.' && next.head?.any Char.isDigit) then
    (number first next).map .ok
  else if isNameStart first then word first next
  else punctuator first next

theorem suffix_divides (text : List Char) : (suffix text).Divides text := by
  unfold suffix
  split
  · rfl
  · split
    · exact Scan.divides_takeWhile _ _
    · rfl

theorem quotedRest_divides (quote : Char) (text : List Char) :
    (quotedRest quote text).Divides text := by
  fun_induction quotedRest quote text with
  | case1 => rfl
  | case2 => rfl
  | case3 => rfl
  | case4 c rest ih => exact ih.after ['\\', c]
  | case5 => rfl
  | case6 c rest _ _ _ _ ih => exact ih.after [c]

theorem rawDelimiter_divides (size : Nat) (text : List Char) :
    (rawDelimiter size text).Divides text := by
  fun_induction rawDelimiter size text with
  | case1 => rfl
  | case2 => rfl
  | case3 _ c rest _ _ ih => exact ih.after [c]
  | case4 => rfl

theorem rawRest_divides (closing text : List Char) : (rawRest closing text).Divides text := by
  fun_induction rawRest closing text with
  | case1 => rfl
  | case2 => exact List.take_append_drop ..
  | case3 c rest _ ih => exact ih.after [c]

theorem commentRest_divides (text : List Char) : (commentRest text).Divides text := by
  fun_induction commentRest text with
  | case1 => rfl
  | case2 => rfl
  | case3 c rest _ ih => exact ih.after [c]

theorem numberRest_divides (hex : Bool) (last : Char) (text : List Char) :
    (numberRest hex last text).Divides text := by
  fun_induction numberRest hex last text with
  | case1 => rfl
  | case2 _ c rest _ ih => exact ih.after [c]
  | case3 _ c rest _ _ ih => exact ih.after [c]
  | case4 => rfl

theorem number_divides (first : Char) (next : List Char) :
    (number first next).Divides (first :: next) :=
  (numberRest_divides ..).after [first]

theorem quoted_divides (front : List Char) (quote : Char) (next : List Char) :
    (quoted front quote next).Divides (front ++ next) := by
  have body := quotedRest_divides quote next
  unfold quoted
  dsimp only
  split
  · exact body.followed (suffix_divides _) front
  · exact body.after front

theorem rawString_divides (front next : List Char) :
    (rawString front next).Divides (front ++ next) := by
  have opening := rawDelimiter_divides 0 next
  unfold rawString
  dsimp only
  split
  · exact opening.after front
  · rename_i delimiter _
    have body := rawRest_divides (')' :: delimiter ++ ['"']) (rawDelimiter 0 next).rest
    have whole : (front ++ (rawDelimiter 0 next).used) ++ (rawDelimiter 0 next).rest =
        front ++ next := by
      rw [List.append_assoc, show (rawDelimiter 0 next).used ++ _ = next from opening]
    split
    · exact whole ▸ body.followed (suffix_divides _) (front ++ (rawDelimiter 0 next).used)
    · exact whole ▸ body.after (front ++ (rawDelimiter 0 next).used)

theorem word_divides (first : Char) (next : List Char) :
    (word first next).Divides (first :: next) := by
  have whole := (Scan.divides_takeWhile isNameChar next).after [first]
  unfold word
  dsimp only
  split
  · rename_i rest following
    have longer := quoted_divides
      (((Scan.takeWhile isNameChar next).after [first]).used ++ ['"']) '"' rest
    have raw := rawString_divides
      (((Scan.takeWhile isNameChar next).after [first]).used ++ ['"']) rest
    rw [Scan.Divides, following] at whole
    rw [List.append_assoc, List.singleton_append, whole] at longer raw
    split
    · exact longer
    · split
      · exact raw
      · exact (Scan.divides_takeWhile isNameChar next).after [first]
  · rename_i rest following
    have longer := quoted_divides
      (((Scan.takeWhile isNameChar next).after [first]).used ++ ['\'']) '\'' rest
    rw [Scan.Divides, following] at whole
    rw [List.append_assoc, List.singleton_append, whole] at longer
    split
    · exact longer
    · exact (Scan.divides_takeWhile isNameChar next).after [first]
  · exact whole

theorem punctuator_divides (first : Char) (next : List Char) :
    (punctuator first next).Divides (first :: next) := by
  unfold punctuator
  split
  · simp [Scan.Divides]
  · rfl

theorem directiveLine_divides (text : List Char) : (directiveLine text).Divides text := by
  fun_induction directiveLine text with
  | case1 => rfl
  | case2 => rfl
  | case3 rest ih => exact ih.after ['\\', '\n']
  | case4 rest ih => exact ih.after ['\\', '\r', '\n']
  | case5 c rest _ _ _ ih => exact ih.after [c]

theorem directive_divides (text : List Char) : (directive text).Divides text :=
  directiveLine_divides text

theorem scan_divides (first : Char) (next : List Char) :
    (scan first next).Divides (first :: next) := by
  unfold scan
  split
  · exact quoted_divides [first] first next
  · split
    · exact number_divides first next
    · split
      · exact word_divides first next
      · exact punctuator_divides first next

theorem quoted_used {front : List Char} (nonempty : front ≠ []) (quote : Char) (next : List Char) :
    (quoted front quote next).used ≠ [] := by
  unfold quoted
  dsimp only
  split <;> simp [Scan.map, Scan.after, nonempty]

theorem rawString_used {front : List Char} (nonempty : front ≠ []) (next : List Char) :
    (rawString front next).used ≠ [] := by
  unfold rawString
  dsimp only
  split
  · simp [Scan.map, Scan.after, nonempty]
  · split <;> simp [Scan.map, Scan.after, nonempty]

theorem scan_used (first : Char) (next : List Char) : (scan first next).used ≠ [] := by
  unfold scan
  split
  · exact quoted_used (List.cons_ne_nil first []) _ _
  · split
    · simp [number, Scan.map, Scan.after]
    · split
      · unfold word
        dsimp only
        split
        · split
          · refine quoted_used ?_ _ _
            simp
          · split
            · refine rawString_used ?_ _
              simp
            · simp [Scan.map, Scan.after]
        · split
          · refine quoted_used ?_ _ _
            simp
          · simp [Scan.map, Scan.after]
        · simp [Scan.map, Scan.after]
      · unfold punctuator
        split <;> simp

theorem directive_used {first : Char} (inLine : first ≠ '\n') (next : List Char) :
    (directive (first :: next)).used ≠ [] := by
  unfold directive directiveLine
  split <;> simp_all [Scan.map, Scan.after]

end Lexeme

end CppSyntax
