import CppSyntax.Render.Doc

/-!
The arguments of the program. They say settings one after another, each at most once; the first one that
does not fit makes the whole line unusable, and a request for the version ends it.
-/

namespace CppSyntax.Command

/-- A file to be rewritten, and how. -/
structure Invocation where
  path : String
  options : RenderOptions
  verify : Bool

/-- Why arguments do not lead to a file. -/
inductive RefusalKind where
  | version | help | usage
deriving DecidableEq, Repr

/-- What is said instead of rewriting a file. -/
structure Refusal where
  kind : RefusalKind
  text : String

/-- A reader of arguments. -/
abbrev ArgumentParser := List String → Except Refusal Invocation

/-- What can be said once. -/
inductive Slot where
  | path | indent | braceStyle | verify
deriving DecidableEq, Repr

inductive Setting where
  | path (path : String)
  | indent (width : Nat)
  | braceStyle (style : BraceStyle)
  | verify
deriving DecidableEq, Repr

def Setting.slot : Setting → Slot
  | .path _ => .path
  | .indent _ => .indent
  | .braceStyle _ => .braceStyle
  | .verify => .verify

/-- An argument by its form. -/
inductive Argument where
  /-- The mark behind which there are no flags. -/
  | terminator
  | long (flag : List Char) (value : Option (List Char))
  | short (letters : List Char)
  | value (content : String)

/-- A long flag with the value attached to it. -/
def splitFlag : List Char → List Char × Option (List Char)
  | [] => ([], none)
  | '=' :: attached => ([], some attached)
  | c :: rest =>
    let (flag, attached) := splitFlag rest
    (c :: flag, attached)

def Argument.classify (content : String) : Argument :=
  match content.toList with
  | ['-', '-'] => .terminator
  | '-' :: '-' :: rest =>
    let (flag, attached) := splitFlag rest
    .long flag attached
  | '-' :: c :: rest => .short (c :: rest)
  | _ => .value content

/-- The number that digits stand for. -/
def digitsValue? : List Char → Option Nat
  | [] => none
  | digits =>
    if digits.all (·.isDigit) then
      some (digits.foldl (fun value digit => 10 * value + (digit.toNat - '0'.toNat)) 0)
    else none

/-- An unsigned number of 64 bits. A plus sign may precede it. -/
def width? (content : List Char) : Option Nat :=
  let digits := match content with
    | '+' :: rest => rest
    | _ => content
  (digitsValue? digits).filter (· < UInt64.size)

def braceStyle? (content : List Char) : Option BraceStyle :=
  if content == "same-line".toList then some .sameLine
  else if content == "next-line".toList then some .nextLine
  else none

/-- What a flag says with a value, if it takes one. -/
def Setting.ofFlag? (flag value : List Char) : Option Setting :=
  if flag == "indent".toList then (width? value).map .indent
  else if flag == "brace-style".toList then (braceStyle? value).map .braceStyle
  else none

/-- What an argument means where no value is awaited. -/
inductive Meaning where
  | gives (setting : Option Setting)
  | awaitsValue (flag : List Char)
  | onlyPaths
  | refused (kind : RefusalKind)

namespace Meaning

def ofSetting? : Option Setting → Meaning
  | some setting => .gives setting
  | none => .refused .usage

/-- A file has a name. -/
def ofPath (path : String) : Meaning :=
  ofSetting? (if path.isEmpty then none else some (.path path))

def ofLong (flag : List Char) : Option (List Char) → Meaning
  | some value => ofSetting? (Setting.ofFlag? flag value)
  | none =>
    if flag == "verify".toList then .gives (some .verify)
    else if flag == "verbose".toList then .gives none
    else if flag == "version".toList then .refused .version
    else if flag == "help".toList then .refused .help
    else if flag == "indent".toList || flag == "brace-style".toList then .awaitsValue flag
    else .refused .usage

/-- Flags of one letter. Those for more messages change nothing here. -/
def ofShort : List Char → Meaning
  | [] => .gives none
  | 'v' :: rest => ofShort rest
  | 'V' :: _ => .refused .version
  | 'h' :: _ => .refused .help
  | _ => .refused .usage

def ofContent (content : String) : Meaning :=
  match Argument.classify content with
  | .terminator => .onlyPaths
  | .long flag attached => ofLong flag attached
  | .short letters => ofShort letters
  | .value path => ofPath path

end Meaning

/-- A value does not look like a flag. -/
def isValue (content : String) : Bool :=
  match Argument.classify content with
  | .value _ => true
  | _ => false

/-- The settings together with another one, which none of them may have said. -/
def Setting.joins (said : List Setting) : Option Setting → Except RefusalKind (List Setting)
  | none => .ok said
  | some setting =>
    if said.any (·.slot == setting.slot) then .error .usage else .ok (said ++ [setting])

/-- The settings together with files, which must have names. -/
def joinPaths (said : List Setting) : List String → Except RefusalKind (List Setting)
  | [] => .ok said
  | path :: rest => do
    if path.isEmpty then .error .usage
    else joinPaths (← Setting.joins said (some (.path path))) rest

/-- The settings together with those that arguments say. A flag that awaits a value takes the next
argument. -/
def readSettings (said : List Setting) : List String → Except RefusalKind (List Setting)
  | [] => .ok said
  | content :: rest =>
    match Meaning.ofContent content with
    | .gives setting => do readSettings (← Setting.joins said setting) rest
    | .onlyPaths => joinPaths said rest
    | .refused kind => .error kind
    | .awaitsValue flag =>
      match rest with
      | [] => .error .usage
      | value :: rest =>
        match (Setting.ofFlag? flag value.toList).filter fun _ => isValue value with
        | some setting => do readSettings (← Setting.joins said (some setting)) rest
        | none => .error .usage

namespace Setting

def path? : Setting → Option String
  | .path file => some file
  | _ => none

def width? : Setting → Option Nat
  | .indent width => some width
  | _ => none

def style? : Setting → Option BraceStyle
  | .braceStyle style => some style
  | _ => none

end Setting

/-- The file that settings name, and how it is to be rewritten. What they do not say has a default. -/
def Invocation.ofSettings? (said : List Setting) : Option Invocation :=
  (said.findSome? Setting.path?).map fun path =>
    ⟨path, ⟨(said.findSome? Setting.width?).getD RenderOptions.standard.indentWidth,
      (said.findSome? Setting.style?).getD RenderOptions.standard.braceStyle⟩,
      said.contains .verify⟩

def versionText : String := "cpprecon 0.1.0\n"

def usageLine : String := "Usage: cpprecon [OPTIONS] <FILE>\n"

def helpText : String :=
  "Parse a C++ translation unit and write an equivalent reconstruction to " ++
    "`<file>.reconstructed`\n\n" ++ usageLine ++
    "\nArguments:\n" ++
    "  <FILE>  C++ source file\n" ++
    "\nOptions:\n" ++
    "  -v, --verbose...           Verbosity level\n" ++
    "      --indent <N>           Spaces per indentation level [default: 2]\n" ++
    "      --brace-style <STYLE>  Placement of opening braces [default: next-line] " ++
    "[possible values: same-line, next-line]\n" ++
    "      --verify               Re-parse the output and check that it matches the input\n" ++
    "  -h, --help                 Print help\n" ++
    "  -V, --version              Print version\n"

def Refusal.ofKind (kind : RefusalKind) : Refusal :=
  match kind with
  | .version => ⟨kind, versionText⟩
  | .help => ⟨kind, helpText⟩
  | .usage => ⟨kind, usageLine⟩

/-- What arguments ask for. -/
def parseArguments : ArgumentParser := fun arguments =>
  match readSettings [] arguments with
  | .error kind => .error (.ofKind kind)
  | .ok said =>
    match Invocation.ofSettings? said with
    | some invocation => .ok invocation
    | none => .error (.ofKind .usage)

end CppSyntax.Command
