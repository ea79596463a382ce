import CppSyntax.Command.Arguments
import CppSyntax.Files
import CppSyntax.Render.Indentation
import CppSyntax.Roundtrip

/-!
A run of the program: it reads a file, writes its reconstruction beside it, and may check that the
reconstruction reads like the file. Nothing is written unless the file could be read and parsed. The
output is created before its text is built, and a text that is too long ends the run there.
-/

namespace CppSyntax.Command

inductive ExitCode where
  | success | usage | syntaxError | fileError | mismatch
  /-- The run was broken off. -/
  | panicked
deriving DecidableEq, Repr

def ExitCode.number : ExitCode → UInt8
  | .success => 0
  | .usage => 1
  | .syntaxError => 2
  | .fileError => 3
  | .mismatch => 4
  | .panicked => 101

structure Outcome where
  exit : ExitCode
  output : String

/-- Why a file has no syntax tree. -/
inductive ReadError where
  | cannotOpen (path : String)
  | cannotParse (path : String) (error : SyntaxError)

namespace ReadError

def message : ReadError → String
  | .cannotOpen path => "Cannot open: " ++ path
  | .cannotParse path _ => "Cannot parse: " ++ path

def outcome (failure : ReadError) : Outcome :=
  match failure with
  | .cannotOpen _ => ⟨.fileError, failure.message ++ "\n"⟩
  | .cannotParse _ error => ⟨.syntaxError, failure.message ++ "\n" ++ error.message ++ "\n"⟩

end ReadError

/-- The syntax tree of bytes that were read from a file, if there were any. They must be UTF-8. -/
def unitOfContent (path : String) (content : Option ByteArray) :
    Except ReadError TranslationUnit :=
  match content.bind String.fromUTF8? with
  | none => .error (.cannotOpen path)
  | some source => (parse source).mapError (.cannotParse path)

variable {m : Type → Type} [Monad m]

def readUnit (files : FileAccess m) (path : String) : m (Except ReadError TranslationUnit) := do
  return unitOfContent path (← files.read path)

/-- The file beside the given one that the reconstruction goes to. -/
def outputPath (path : String) : String := path ++ ".reconstructed"

/-- Writes a reconstruction and checks it if that is wanted. It stays even if it does not pass. -/
def writeUnit (files : FileAccess m) (invocation : Invocation) (unit : TranslationUnit) :
    m Outcome := do
  let path := outputPath invocation.path
  match ← files.create path with
  | none => return (ReadError.cannotOpen path).outcome
  | some handle =>
    match render? invocation.options unit with
    | none => return ⟨.panicked, ""⟩
    | some text =>
      if ← files.write handle text.toUTF8 then
        if invocation.verify && !survives invocation.options unit then
          return ⟨.mismatch, "Verification failed: " ++ path ++ "\n"⟩
        else return ⟨.success, ""⟩
      else return (ReadError.cannotOpen path).outcome

def rewrite (files : FileAccess m) (invocation : Invocation) : m Outcome := do
  match ← readUnit files invocation.path with
  | .ok unit => writeUnit files invocation unit
  | .error failure => return failure.outcome

def Refusal.outcome (refusal : Refusal) : Outcome :=
  match refusal.kind with
  | .version | .help => ⟨.success, refusal.text⟩
  | .usage => ⟨.usage, refusal.text⟩

/-- What the program does with its arguments, however they are read. -/
def runWith (parser : ArgumentParser) (files : FileAccess m) (arguments : List String) :
    m Outcome :=
  match parser arguments with
  | .ok invocation => rewrite files invocation
  | .error refusal => return refusal.outcome

def run (files : FileAccess m) (arguments : List String) : m Outcome :=
  runWith parseArguments files arguments

end CppSyntax.Command
