import CppSyntax.Command.Arguments
import Mathlib.Data.List.Nodup
import Mathlib.Data.Nat.Digits.Defs

/-!
What arguments ask for, said by how they can be written. They are read from the front: every setting is
written at most once, a flag takes its value attached or from the next argument, and nothing matters
behind a request for the version or for help.
-/

namespace CppSyntax.Command

/-- A flag starts with a dash, but a dash alone is none. -/
def IsFlag (content : String) : Prop := ∃ c rest, content.toList = '-' :: c :: rest

/-- Decimal digits, behind a plus sign or not, that stand for a number of 64 bits. -/
def IsNumeral (value : String) (number : Nat) : Prop :=
  number < 2 ^ 64 ∧ ∃ digits : List Char, digits ≠ [] ∧ (∀ c ∈ digits, c.isDigit = true) ∧
    (value.toList = digits ∨ value.toList = '+' :: digits) ∧
    Nat.ofDigits 10 (digits.reverse.map fun c => c.toNat - '0'.toNat) = number

/-- What a flag with a value sets. -/
inductive Sets (flag value : String) : Setting → Prop where
  | indent {width : Nat} (called : flag = "indent") (numeral : IsNumeral value width) :
      Sets flag value (.indent width)
  | sameLine (called : flag = "brace-style") (spelled : value = "same-line") :
      Sets flag value (.braceStyle .sameLine)
  | nextLine (called : flag = "brace-style") (spelled : value = "next-line") :
      Sets flag value (.braceStyle .nextLine)

/-- What an argument by itself sets, if anything. -/
inductive Writes : String → Option Setting → Prop where
  | path {path : String} (named : path ≠ "") (plain : ¬IsFlag path) :
      Writes path (some (.path path))
  | verify : Writes "--verify" (some .verify)
  | verbose : Writes "--verbose" none
  | letters (count : Nat) : Writes ("-" ++ String.ofList (List.replicate (count + 1) 'v')) none
  | attached {flag value : String} {setting : Setting} (sets : Sets flag value setting) :
      Writes ("--" ++ flag ++ "=" ++ value) (some setting)

/-- Arguments that set one thing after another. -/
inductive WritesAll : List String → List Setting → Prop where
  | nil : WritesAll [] []
  | cons {content : String} {setting : Option Setting} {rest : List String}
      {settings : List Setting} (first : Writes content setting) (others : WritesAll rest settings) :
      WritesAll (content :: rest) (setting.toList ++ settings)
  | apart {flag value : String} {setting : Setting} {rest : List String}
      {settings : List Setting} (sets : Sets flag value setting) (plain : ¬IsFlag value)
      (others : WritesAll rest settings) :
      WritesAll (("--" ++ flag) :: value :: rest) (setting :: settings)

/-- A whole line. Behind two dashes there are only files. -/
inductive WritesLine : List String → List Setting → Prop where
  | settings {line : List String} {settings : List Setting} (writes : WritesAll line settings) :
      WritesLine line settings
  | paths {front paths : List String} {settings : List Setting} (writes : WritesAll front settings)
      (named : ∀ path ∈ paths, path ≠ "") :
      WritesLine (front ++ "--" :: paths) (settings ++ paths.map .path)

/-- No setting is written twice. -/
def Once (settings : List Setting) : Prop := (settings.map Setting.slot).Nodup

instance {settings : List Setting} : Decidable (Once settings) :=
  inferInstanceAs (Decidable (List.Nodup _))

/-- The settings name the file and say how it is to be rewritten, or leave a default. -/
structure Invocation.IsSetBy (invocation : Invocation) (settings : List Setting) : Prop where
  path : .path invocation.path ∈ settings
  indentWidth : .indent invocation.options.indentWidth ∈ settings ∨
    (∀ width, .indent width ∉ settings) ∧ invocation.options.indentWidth = 2
  braceStyle : .braceStyle invocation.options.braceStyle ∈ settings ∨
    (∀ style, .braceStyle style ∉ settings) ∧ invocation.options.braceStyle = .nextLine
  verify : invocation.verify = true ↔ .verify ∈ settings

/-- The arguments ask for a file to be rewritten. -/
def AskToRewrite (arguments : List String) (invocation : Invocation) : Prop :=
  ∃ settings, WritesLine arguments settings ∧ Once settings ∧ invocation.IsSetBy settings

/-- An argument that asks for a text. Letters in front of it change nothing, those behind it are not
read. -/
inductive Requests : RefusalKind → String → Prop where
  | version : Requests .version "--version"
  | help : Requests .help "--help"
  | versionLetter (count : Nat) (rest : List Char) :
      Requests .version ("-" ++ String.ofList (List.replicate count 'v' ++ 'V' :: rest))
  | helpLetter (count : Nat) (rest : List Char) :
      Requests .help ("-" ++ String.ofList (List.replicate count 'v' ++ 'h' :: rest))

/-- The arguments ask for a text, before anything that does not fit. -/
def AskFor (kind : RefusalKind) (arguments : List String) : Prop :=
  ∃ front mark rest settings, arguments = front ++ mark :: rest ∧ WritesAll front settings ∧
    Once settings ∧ Requests kind mark

/-- A reader of arguments that keeps to this, with texts of its own. -/
structure ArgumentParser.Documented (parser : ArgumentParser) : Prop where
  rewrites {arguments : List String} {invocation : Invocation} :
    parser arguments = .ok invocation ↔ AskToRewrite arguments invocation
  version {arguments : List String} :
    (∃ text, parser arguments = .error ⟨.version, text⟩) ↔ AskFor .version arguments
  help {arguments : List String} :
    (∃ text, parser arguments = .error ⟨.help, text⟩) ↔ AskFor .help arguments

section

variable {content flag value : String} {chars name attached letters : List Char} {c : Char}
  {setting : Setting} {number : Nat} {kind : RefusalKind} {given : Option Setting}

theorem digitsValue?_iff : digitsValue? chars = some number ↔
    chars ≠ [] ∧ (∀ c ∈ chars, c.isDigit = true) ∧
      Nat.ofDigits 10 (chars.reverse.map fun c => c.toNat - '0'.toNat) = number := by
  have folded : chars.foldl (fun value digit => 10 * value + (digit.toNat - '0'.toNat)) 0 =
      Nat.ofDigits 10 (chars.reverse.map fun c => c.toNat - '0'.toNat) := by
    rw [Nat.ofDigits_eq_foldr, List.foldr_map, List.foldr_reverse]
    simp only [Nat.add_comm, Nat.cast_id]
  rw [← folded]
  cases chars with
  | nil => simp [digitsValue?]
  | cons c rest => simp only [digitsValue?, Option.ite_none_right_eq_some, Option.some.injEq,
      List.all_eq_true, ne_eq, reduceCtorEq, not_false_eq_true, true_and]

theorem width?_iff : width? chars = some number ↔ IsNumeral (String.ofList chars) number := by
  unfold width? IsNumeral
  rw [Option.filter_eq_some_iff, String.toList_ofList, decide_eq_true_eq, and_comm]
  refine and_congr_right fun _ => ?_
  rw [digitsValue?_iff]
  constructor
  · rintro ⟨some, digits, value⟩
    refine ⟨_, some, digits, ?_, value⟩
    split
    · exact .inr rfl
    · exact .inl rfl
  · rintro ⟨digits, some, areDigits, rfl | rfl, value⟩
    · have unsigned : ∀ rest, chars ≠ '+' :: rest := by
        rintro rest rfl
        exact absurd (areDigits '+' (List.mem_cons_self ..)) (by decide)
      split
      · exact absurd rfl (unsigned _)
      · exact ⟨some, areDigits, value⟩
    · exact ⟨some, areDigits, value⟩

theorem ofList_eq_iff : String.ofList chars = content ↔ chars = content.toList := by
  rw [← String.toList_inj, String.toList_ofList]

theorem braceStyle?_iff {style : BraceStyle} : braceStyle? chars = some style ↔
    Sets "brace-style" (String.ofList chars) (.braceStyle style) := by
  unfold braceStyle?
  constructor
  · intro read
    split at read
    · rename_i same
      cases read
      exact .sameLine rfl (ofList_eq_iff.mpr (beq_iff_eq.mp same))
    · split at read
      · rename_i same
        cases read
        exact .nextLine rfl (ofList_eq_iff.mpr (beq_iff_eq.mp same))
      · cases read
  · intro sets
    cases sets with
    | sameLine _ spelled =>
      obtain rfl := ofList_eq_iff.mp spelled
      rfl
    | nextLine _ spelled =>
      obtain rfl := ofList_eq_iff.mp spelled
      rfl

/-- A flag with a value is read as it is written. -/
theorem ofFlag?_iff : Setting.ofFlag? name attached = some setting ↔
    Sets (String.ofList name) (String.ofList attached) setting := by
  unfold Setting.ofFlag?
  constructor
  · intro read
    split at read
    · rename_i called
      obtain ⟨width, numeral, rfl⟩ := Option.map_eq_some_iff.mp read
      exact .indent (ofList_eq_iff.mpr (beq_iff_eq.mp called)) (width?_iff.mp numeral)
    · split at read
      · rename_i called
        obtain ⟨style, spelled, rfl⟩ := Option.map_eq_some_iff.mp read
        rw [ofList_eq_iff.mpr (beq_iff_eq.mp called)]
        exact braceStyle?_iff.mp spelled
      · cases read
  · intro sets
    cases sets with
    | indent called numeral =>
      rw [if_pos (beq_iff_eq.mpr (ofList_eq_iff.mp called)), width?_iff.mpr numeral]
      rfl
    | sameLine called spelled | nextLine called spelled =>
      obtain rfl := ofList_eq_iff.mp called
      obtain rfl := ofList_eq_iff.mp spelled
      rfl

theorem splitFlag_attached (plain : '=' ∉ name) :
    splitFlag (name ++ '=' :: attached) = (name, some attached) := by
  induction name with
  | nil => rfl
  | cons c rest ih =>
    obtain ⟨different, plainRest⟩ := not_or.mp (mt List.mem_cons.mpr plain)
    rw [List.cons_append, splitFlag, ih plainRest]
    exact fun same => different same.symm

theorem eq_of_splitFlag {attached : Option (List Char)} (split : splitFlag chars = (name, attached)) :
    chars = name ++ (attached.map ('=' :: ·)).getD [] := by
  induction chars generalizing name with
  | nil =>
    cases split
    rfl
  | cons c rest ih =>
    unfold splitFlag at split
    split at split
    · contradiction
    · rename_i same
      cases same
      cases split
      rfl
    · rename_i same
      cases same
      cases split
      exact congrArg (c :: ·) (ih rfl)

theorem ofContent_long (longer : chars ≠ []) : Meaning.ofContent ("--" ++ String.ofList chars) =
    Meaning.ofLong (splitFlag chars).1 (splitFlag chars).2 := by
  cases chars with
  | nil => exact absurd rfl longer
  | cons c rest => simp [Meaning.ofContent, Argument.classify]

theorem ofContent_short (different : c ≠ '-') :
    Meaning.ofContent ("-" ++ String.ofList (c :: chars)) = Meaning.ofShort (c :: chars) := by
  simp [Meaning.ofContent, Argument.classify, different]

theorem classify_path (plain : ¬IsFlag content) : Argument.classify content = .value content := by
  unfold Argument.classify
  split
  · rename_i form
    exact absurd ⟨_, _, form⟩ plain
  · rename_i form
    exact absurd ⟨_, _, form⟩ plain
  · rename_i form
    exact absurd ⟨_, _, form⟩ plain
  · rfl

theorem ofContent_path (plain : ¬IsFlag content) :
    Meaning.ofContent content = Meaning.ofPath content := by
  rw [Meaning.ofContent, classify_path plain]

/-- The forms that an argument can have. -/
theorem forms (content : String) : content = "--" ∨
    (∃ chars, chars ≠ [] ∧ content = "--" ++ String.ofList chars) ∨
    (∃ c chars, c ≠ '-' ∧ content = "-" ++ String.ofList (c :: chars)) ∨ ¬IsFlag content := by
  by_cases isFlag : IsFlag content
  · obtain ⟨c, rest, form⟩ := isFlag
    by_cases dash : c = '-'
    · subst dash
      cases rest with
      | nil => exact .inl (String.toList_inj.mp form)
      | cons c rest => exact .inr (.inl ⟨c :: rest, by simp, String.toList_inj.mp (by simp [form])⟩)
    · exact .inr (.inr (.inl ⟨c, rest, dash, String.toList_inj.mp (by simp [form])⟩))
  · exact .inr (.inr (.inr isFlag))

theorem isValue_iff : isValue content = true ↔ ¬IsFlag content := by
  unfold isValue
  constructor
  · intro isValue isFlag
    obtain ⟨c, rest, form⟩ := isFlag
    unfold Argument.classify at isValue
    split at isValue
    · rename_i classified
      split at classified
      · cases classified
      · cases classified
      · cases classified
      · rename_i plain
        exact plain c rest form
    · cases isValue
  · intro plain
    rw [classify_path plain]

theorem ofShort_replicate (count : Nat) :
    Meaning.ofShort (List.replicate count 'v' ++ letters) = Meaning.ofShort letters := by
  induction count with
  | zero => rfl
  | succ count ih =>
    rw [List.replicate_succ, List.cons_append, Meaning.ofShort]
    exact ih

/-- Behind letters that change nothing, one may ask for a text. -/
theorem ofShort_cases (letters : List Char) :
    (∃ count, letters = List.replicate count 'v' ∧ Meaning.ofShort letters = .gives none) ∨
    (∃ count rest, letters = List.replicate count 'v' ++ 'V' :: rest ∧
      Meaning.ofShort letters = .refused .version) ∨
    (∃ count rest, letters = List.replicate count 'v' ++ 'h' :: rest ∧
      Meaning.ofShort letters = .refused .help) ∨
    Meaning.ofShort letters = .refused .usage := by
  induction letters with
  | nil => exact .inl ⟨0, rfl, rfl⟩
  | cons c rest ih =>
    unfold Meaning.ofShort
    split
    · contradiction
    · rename_i same
      cases same
      rcases ih with ⟨count, rfl, read⟩ | ⟨count, rest, rfl, read⟩ | ⟨count, rest, rfl, read⟩ | read
      · exact .inl ⟨count + 1, rfl, read⟩
      · exact .inr (.inl ⟨count + 1, rest, rfl, read⟩)
      · exact .inr (.inr (.inl ⟨count + 1, rest, rfl, read⟩))
      · exact .inr (.inr (.inr read))
    · rename_i same
      cases same
      exact .inr (.inl ⟨0, _, rfl, rfl⟩)
    · rename_i same
      cases same
      exact .inr (.inr (.inl ⟨0, _, rfl, rfl⟩))
    · exact .inr (.inr (.inr rfl))

/-- What an argument means, by the ways it can be written. -/
inductive Means (content : String) : Meaning → Prop where
  | gives {given : Option Setting} (writes : Writes content given) : Means content (.gives given)
  | onlyPaths (dashes : content = "--") : Means content .onlyPaths
  | awaitsValue {name : List Char} (called : content = "--" ++ String.ofList name) :
      Means content (.awaitsValue name)
  | requests {kind : RefusalKind} (requests : Requests kind content) : Means content (.refused kind)
  | unusable : Means content (.refused .usage)

theorem ofLong_means {attached : Option (List Char)}
    (written : content = "--" ++ String.ofList (name ++ (attached.map ('=' :: ·)).getD [])) :
    Means content (Meaning.ofLong name attached) := by
  cases attached with
  | some value =>
    have spelled : content = "--" ++ String.ofList name ++ "=" ++ String.ofList value := by
      rw [written, ← String.toList_inj]
      simp
    rw [Meaning.ofLong]
    cases read : Setting.ofFlag? name value with
    | some setting => exact spelled ▸ .gives (.attached (ofFlag?_iff.mp read))
    | none => exact .unusable
  | none =>
    have spelled : content = "--" ++ String.ofList name := by
      rw [written]
      simp
    have called {long : String} (same : (name == long.toList) = true) : content = "--" ++ long := by
      rw [spelled, beq_iff_eq.mp same, String.ofList_toList]
    rw [Meaning.ofLong]
    split
    · rename_i same
      exact called same ▸ .gives .verify
    split
    · rename_i same
      exact called same ▸ .gives .verbose
    split
    · rename_i same
      exact called same ▸ .requests .version
    split
    · rename_i same
      exact called same ▸ .requests .help
    split
    · exact .awaitsValue spelled
    · exact .unusable

theorem ofContent_means (content : String) : Means content (Meaning.ofContent content) := by
  rcases forms content with rfl | ⟨chars, longer, rfl⟩ | ⟨c, chars, different, rfl⟩ | plain
  · exact .onlyPaths rfl
  · rw [ofContent_long longer]
    refine ofLong_means ?_
    rw [← eq_of_splitFlag rfl]
  · rw [ofContent_short different]
    rcases ofShort_cases (c :: chars) with ⟨count, letters, read⟩ | ⟨count, rest, letters, read⟩ |
      ⟨count, rest, letters, read⟩ | read
    · rw [read, letters]
      cases count with
      | zero => cases letters
      | succ count => exact .gives (.letters count)
    · rw [read, letters]
      exact .requests (.versionLetter count rest)
    · rw [read, letters]
      exact .requests (.helpLetter count rest)
    · rw [read]
      exact .unusable
  · rw [ofContent_path plain]
    rw [Meaning.ofPath]
    split
    · exact .unusable
    · rename_i named
      exact .gives (.path (fun none => named (none ▸ rfl)) plain)

theorem ofContent_letters (different : c ≠ '-') (count : Nat) :
    Meaning.ofContent ("-" ++ String.ofList (List.replicate count 'v' ++ c :: chars)) =
      Meaning.ofShort (c :: chars) := by
  cases count with
  | zero => exact ofContent_short different
  | succ count =>
    rw [List.replicate_succ, List.cons_append, ofContent_short (by decide), ← List.cons_append,
      ← List.replicate_succ, ofShort_replicate]

/-- An argument means what it is written for. -/
theorem Writes.ofContent (writes : Writes content given) :
    Meaning.ofContent content = .gives given := by
  cases writes with
  | path named plain =>
    rw [ofContent_path plain, Meaning.ofPath, if_neg (by simpa using named)]
    rfl
  | verify | verbose => rfl
  | letters count =>
    rw [List.replicate_succ', ofContent_letters (by decide)]
    rfl
  | @attached flag value setting sets =>
    have written : "--" ++ flag ++ "=" ++ value =
        "--" ++ String.ofList (flag.toList ++ '=' :: value.toList) := by
      rw [← String.toList_inj]
      simp
    have plain : '=' ∉ flag.toList := by
      cases sets with
      | indent called | sameLine called | nextLine called =>
        subst called
        decide
    rw [written, ofContent_long (by simp), splitFlag_attached plain, Meaning.ofLong,
      ofFlag?_iff.mpr (by rwa [String.ofList_toList, String.ofList_toList])]
    rfl

theorem Requests.ofContent (requests : Requests kind content) :
    Meaning.ofContent content = .refused kind := by
  cases requests with
  | version | help => rfl
  | versionLetter count rest | helpLetter count rest =>
    rw [ofContent_letters (by decide)]
    rfl

theorem Sets.ofContent (sets : Sets flag value setting) :
    Meaning.ofContent ("--" ++ flag) = .awaitsValue flag.toList := by
  cases sets with
  | indent called | sameLine called | nextLine called =>
    subst called
    rfl

end

section

variable {said all settings more : List Setting} {given : Option Setting} {kind : RefusalKind}
  {paths front rest arguments : List String}

theorem once_append : Once (said ++ settings) ↔ Once said ∧ Once settings ∧
    ∀ setting ∈ settings, ∀ other ∈ said, other.slot ≠ setting.slot := by
  simp only [Once, List.map_append, List.nodup_append, List.mem_map, forall_exists_index, and_imp,
    forall_apply_eq_imp_iff₂]
  grind

/-- A setting joins those that have not written it. -/
theorem joins_eq (once : Once said) : Setting.joins said given =
    if Once (said ++ given.toList) then .ok (said ++ given.toList) else .error .usage := by
  cases given with
  | none => rw [Option.toList_none, List.append_nil, if_pos once, Setting.joins]
  | some setting =>
    have alone : Once [setting] := by simp [Once]
    have fresh : Once (said ++ [setting]) ↔ (said.any (·.slot == setting.slot)) = false := by
      rw [once_append]
      simp [once, alone]
    rw [Setting.joins, Option.toList_some]
    split
    · rename_i written
      rw [if_neg fun both => Bool.eq_false_iff.mp (fresh.mp both) written]
    · rename_i unwritten
      rw [if_pos (fresh.mpr (Bool.eq_false_iff.mpr unwritten))]

theorem joinPaths_eq (once : Once said) : joinPaths said paths =
    if (∀ path ∈ paths, path ≠ "") ∧ Once (said ++ paths.map .path) then
      .ok (said ++ paths.map .path)
    else .error .usage := by
  induction paths generalizing said with
  | nil => simp [joinPaths, once]
  | cons path rest ih =>
    have longer : said ++ [.path path] ++ rest.map .path = said ++ (path :: rest).map .path := by simp
    rw [joinPaths, joins_eq once, Option.toList_some]
    split
    · rename_i nameless
      rw [if_neg fun both => both.1 path (List.mem_cons_self ..) (String.isEmpty_iff.mp nameless)]
    · rename_i named
      split
      · rename_i joined
        show joinPaths (said ++ [.path path]) rest = _
        rw [ih joined, longer]
        simp only [List.forall_mem_cons, mt String.isEmpty_iff.mpr named, ne_eq, not_false_eq_true,
          true_and]
      · rename_i twice
        rw [if_neg fun both => twice (once_append.mp (longer ▸ both.2)).1]
        rfl

/-- Arguments that set one thing after another are read as they are written. -/
theorem WritesAll.read_append (said : List Setting) (rest : List String)
    (writes : WritesAll front settings) (once : Once (said ++ settings)) :
    readSettings said (front ++ rest) = readSettings (said ++ settings) rest := by
  induction writes generalizing said with
  | nil => rw [List.nil_append, List.append_nil]
  | @cons content given front settings first others ih =>
    rw [← List.append_assoc] at once ⊢
    rw [List.cons_append, readSettings, first.ofContent]
    have joined := (once_append.mp once).1
    show (do readSettings (← Setting.joins said given) (front ++ rest)) = _
    rw [joins_eq (once_append.mp joined).1, if_pos joined]
    exact ih _ once
  | @apart flag value setting front settings sets plain others ih =>
    rw [List.append_cons] at once ⊢
    have joined := (once_append.mp once).1
    have meaning : Meaning.ofContent ("--" ++ flag) = .awaitsValue flag.toList := sets.ofContent
    have read : (Setting.ofFlag? flag.toList value.toList).filter (fun _ => isValue value) =
        some setting := by
      rw [ofFlag?_iff.mpr (by rwa [String.ofList_toList, String.ofList_toList]),
        Option.filter_some, isValue_iff.mpr plain]
      rfl
    rw [List.cons_append, List.cons_append, readSettings, meaning]
    dsimp only
    rw [read]
    show (do readSettings (← Setting.joins said (some setting)) (front ++ rest)) = _
    rw [joins_eq (once_append.mp joined).1, Option.toList_some, if_pos joined]
    exact ih _ once

/-- The settings of a line behind others, or why there are none. -/
def Reads (said : List Setting) (arguments : List String) : Except RefusalKind (List Setting) → Prop
  | .ok all => ∃ settings, WritesLine arguments settings ∧ all = said ++ settings ∧ Once all
  | .error kind => kind = .usage ∨ ∃ front mark rest settings, arguments = front ++ mark :: rest ∧
      WritesAll front settings ∧ Once (said ++ settings) ∧ Requests kind mark

theorem WritesAll.append {front rest : List String} {settings more : List Setting}
    (writes : WritesAll front settings) (others : WritesAll rest more) :
    WritesAll (front ++ rest) (settings ++ more) := by
  induction writes with
  | nil => exact others
  | cons first _ ih =>
    rw [List.append_assoc]
    exact .cons first ih
  | apart sets plain _ ih => exact .apart sets plain ih

theorem WritesLine.behind (writes : WritesAll front settings) (line : WritesLine rest more) :
    WritesLine (front ++ rest) (settings ++ more) := by
  cases line with
  | settings others => exact .settings (writes.append others)
  | paths others named =>
    rw [← List.append_assoc, ← List.append_assoc]
    exact .paths (writes.append others) named

theorem Reads.behind {answer : Except RefusalKind (List Setting)} (writes : WritesAll front settings)
    (reads : Reads (said ++ settings) rest answer) : Reads said (front ++ rest) answer := by
  cases answer with
  | ok all =>
    obtain ⟨more, line, rfl, once⟩ := reads
    exact ⟨settings ++ more, line.behind writes, List.append_assoc .., once⟩
  | error kind =>
    refine reads.imp_right ?_
    rintro ⟨between, mark, rest, more, rfl, others, once, requests⟩
    exact ⟨front ++ between, mark, rest, settings ++ more, (List.append_assoc ..).symm,
      writes.append others, List.append_assoc said .. ▸ once, requests⟩

theorem readSettings_reads (once : Once said) : Reads said arguments (readSettings said arguments) := by
  fun_induction readSettings said arguments with
  | case1 said => exact ⟨[], .settings .nil, (List.append_nil _).symm, once⟩
  | case2 said content rest given meaning ih =>
    have means := ofContent_means content
    rw [meaning] at means
    cases means with
    | gives writes =>
      rw [joins_eq once]
      split
      · rename_i joined
        have one : WritesAll [content] given.toList := by simpa using WritesAll.cons writes .nil
        have reads := Reads.behind one (ih _ joined)
        exact reads
      · exact .inl rfl
  | case3 said content rest meaning =>
    have means := ofContent_means content
    rw [meaning] at means
    cases means with
    | onlyPaths dashes =>
      rw [joinPaths_eq once]
      split
      · rename_i both
        exact ⟨rest.map .path, dashes ▸ .paths .nil both.1, rfl, both.2⟩
      · exact .inl rfl
  | case4 said content rest kind meaning =>
    have means := ofContent_means content
    rw [meaning] at means
    cases means with
    | requests requests =>
      exact .inr ⟨[], content, rest, [], rfl, .nil, (List.append_nil said).symm ▸ once, requests⟩
    | unusable => exact .inl rfl
  | case5 => exact .inl rfl
  | case6 said content name meaning value rest setting read ih =>
    have means := ofContent_means content
    rw [meaning] at means
    cases means with
    | awaitsValue called =>
      obtain ⟨read, plain⟩ := Option.filter_eq_some_iff.mp read
      have sets := ofFlag?_iff.mp read
      rw [String.ofList_toList] at sets
      rw [joins_eq once]
      split
      · rename_i joined
        have two : WritesAll [content, value] [setting] :=
          called ▸ .apart sets (isValue_iff.mp plain) .nil
        have reads := Reads.behind two (ih _ joined)
        exact reads
      · exact .inl rfl
  | case7 => exact .inl rfl

theorem readSettings_ok : readSettings [] arguments = .ok settings ↔
    WritesLine arguments settings ∧ Once settings := by
  have reads := @readSettings_reads [] arguments .nil
  constructor
  · intro read
    rw [read] at reads
    obtain ⟨_, line, rfl, once⟩ := reads
    exact ⟨line, once⟩
  · rintro ⟨line, once⟩
    cases line with
    | settings writes =>
      have read := writes.read_append [] [] once
      rwa [List.append_nil] at read
    | @paths front paths settings writes named =>
      have early := (once_append.mp once).1
      have dashes : Meaning.ofContent "--" = .onlyPaths := rfl
      rw [writes.read_append [] ("--" :: paths) early, List.nil_append, readSettings, dashes]
      show joinPaths settings paths = _
      rw [joinPaths_eq early, if_pos ⟨named, once⟩]

theorem readSettings_error (text : kind ≠ .usage) :
    readSettings [] arguments = .error kind ↔ AskFor kind arguments := by
  have reads := @readSettings_reads [] arguments .nil
  constructor
  · intro failed
    rw [failed] at reads
    obtain ⟨front, mark, rest, settings, rfl, writes, once, requests⟩ := reads.resolve_left text
    exact ⟨front, mark, rest, settings, rfl, writes, once, requests⟩
  · rintro ⟨front, mark, rest, settings, rfl, writes, once, requests⟩
    rw [writes.read_append [] (mark :: rest) once, readSettings, requests.ofContent]

section

variable {α : Type} {read : Setting → Option α} {write : α → Setting} {slot : Slot} {value fallback : α}

/-- What is written once is found. -/
theorem findSome?_iff (once : Once settings)
    (reads : ∀ setting value, read setting = some value ↔ setting = write value)
    (fits : ∀ value, (write value).slot = slot) :
    settings.findSome? read = some value ↔ write value ∈ settings := by
  have written {value : α} (found : settings.findSome? read = some value) :
      write value ∈ settings := by
    obtain ⟨setting, member, found⟩ := List.exists_of_findSome?_eq_some found
    exact (reads setting value).mp found ▸ member
  refine ⟨written, fun member => ?_⟩
  cases found : settings.findSome? read with
  | none =>
    have missed := List.findSome?_eq_none_iff.mp found _ member
    rw [(reads _ value).mpr rfl] at missed
    cases missed
  | some other =>
    have same := List.inj_on_of_nodup_map once (written found) member
      ((fits other).trans (fits value).symm)
    rw [← (reads _ other).mpr rfl, same, (reads _ value).mpr rfl]

theorem getD_iff (once : Once settings)
    (reads : ∀ setting value, read setting = some value ↔ setting = write value)
    (fits : ∀ value, (write value).slot = slot) :
    (settings.findSome? read).getD fallback = value ↔
      write value ∈ settings ∨ (∀ other, write other ∉ settings) ∧ value = fallback := by
  have found (other : α) := @findSome?_iff settings α read write slot other once reads fits
  simp only [← found]
  cases settings.findSome? read with
  | none => simp [eq_comm]
  | some other => simp

end

theorem ofSettings?_iff (once : Once settings) {invocation : Invocation} :
    Invocation.ofSettings? settings = some invocation ↔ invocation.IsSetBy settings := by
  have path (file : String) : settings.findSome? Setting.path? = some file ↔ .path file ∈ settings :=
    findSome?_iff once (fun setting _ => by cases setting <;> simp [Setting.path?]) fun _ => rfl
  have width (width : Nat) : (settings.findSome? Setting.width?).getD 2 = width ↔
      .indent width ∈ settings ∨ (∀ other, .indent other ∉ settings) ∧ width = 2 :=
    getD_iff once (fun setting _ => by cases setting <;> simp [Setting.width?]) fun _ => rfl
  have style (style : BraceStyle) : (settings.findSome? Setting.style?).getD .nextLine = style ↔
      .braceStyle style ∈ settings ∨ (∀ other, .braceStyle other ∉ settings) ∧ style = .nextLine :=
    getD_iff once (fun setting _ => by cases setting <;> simp [Setting.style?]) fun _ => rfl
  constructor
  · intro found
    obtain ⟨file, named, rfl⟩ := Option.map_eq_some_iff.mp found
    exact ⟨(path file).mp named, (width _).mp rfl, (style _).mp rfl, List.contains_iff_mem⟩
  · intro isSet
    obtain ⟨file, options, verify⟩ := invocation
    have checks : settings.contains .verify = verify :=
      Bool.eq_iff_iff.mpr (List.contains_iff_mem.trans isSet.verify.symm)
    refine Option.map_eq_some_iff.mpr ⟨file, (path file).mpr isSet.path, ?_⟩
    rw [checks, RenderOptions.standard, (width _).mpr isSet.indentWidth,
      (style _).mpr isSet.braceStyle]

theorem parseArguments_ok {invocation : Invocation} :
    parseArguments arguments = .ok invocation ↔ AskToRewrite arguments invocation := by
  unfold parseArguments
  constructor
  · intro parsed
    cases read : readSettings [] arguments with
    | error kind =>
      rw [read] at parsed
      cases parsed
    | ok settings =>
      rw [read] at parsed
      obtain ⟨line, once⟩ := readSettings_ok.mp read
      cases found : Invocation.ofSettings? settings with
      | none => simp [found] at parsed
      | some asked =>
        simp only [found, Except.ok.injEq] at parsed
        exact ⟨settings, line, once, (ofSettings?_iff once).mp (parsed ▸ found)⟩
  · rintro ⟨settings, line, once, isSet⟩
    rw [readSettings_ok.mpr ⟨line, once⟩]
    simp only [(ofSettings?_iff once).mpr isSet]

theorem parseArguments_refuses (text : kind ≠ .usage) :
    (∃ said, parseArguments arguments = .error ⟨kind, said⟩) ↔ AskFor kind arguments := by
  rw [← readSettings_error text]
  unfold parseArguments Refusal.ofKind
  cases readSettings [] arguments with
  | error other => cases other <;> simp [eq_comm]
  | ok settings => cases found : Invocation.ofSettings? settings <;> simp [found, text.symm]

/-- The arguments are read as they can be written. -/
theorem parseArguments_documented : ArgumentParser.Documented parseArguments where
  rewrites := parseArguments_ok
  version := parseArguments_refuses (by decide)
  help := parseArguments_refuses (by decide)

end

end CppSyntax.Command
