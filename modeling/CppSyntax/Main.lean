import CppSyntax.Command.Run

/-!
The program itself, on the files of the system.
-/

namespace CppSyntax.Command

/-- The files of the system. What cannot be read, created or written counts as failed, whatever the
cause. -/
def systemFiles : FileAccess BaseIO where
  Handle := IO.FS.Handle
  read path := do
    match ← (IO.FS.readBinFile path).toBaseIO with
    | .ok content => return some content
    | .error _ => return none
  create path := do
    match ← (IO.FS.Handle.mk path .write).toBaseIO with
    | .ok handle => return some handle
    | .error _ => return none
  write handle content := do
    match ← (do handle.write content; handle.flush : IO Unit).toBaseIO with
    | .ok _ => return true
    | .error _ => return false

end CppSyntax.Command

def main (arguments : List String) : IO UInt32 := do
  let outcome ← (CppSyntax.Command.run CppSyntax.Command.systemFiles arguments : BaseIO _)
  (← IO.getStdout).putStr outcome.output
  return outcome.exit.number.toUInt32
