import RegisterMachine.Command.Perform

/-!
# The command line

The commands on the files of the system.  What they come to is printed when they
are done.
-/

namespace RegisterMachine

/-- Whether a code is the given error number, which some system calls negate. -/
def isErrorNumber (number code : UInt32) : Bool := code = number || code = -number

/-- The fault that the system reports for a file. -/
def FileFault.ofSystem (fault : IO.Error) : FileFault :=
  match fault with
  | .noFileOrDirectory .. => .notFound
  | .inappropriateType _ code _ => if isErrorNumber 20 code then .notDirectory else .isDirectory
  | .invalidArgument _ code _ =>
    if isErrorNumber 36 code then .nameTooLong else .other (toString fault)
  | _ => .other (toString fault)

/-- An action on files, with its fault as a value. -/
def attemptFile {α : Type} (action : IO α) : IO (Except FileFault α) := do
  match ← action.toBaseIO with
  | .ok value => return .ok value
  | .error fault => return .error (.ofSystem fault)

/-- Commands run on the files of the system. -/
instance : FileAccess IO where
  read path := attemptFile (IO.FS.readBinFile path)
  write path contents := attemptFile (IO.FS.writeBinFile path contents)

end RegisterMachine

/-- Carries out the command line and prints what comes of it. -/
def main (arguments : List String) : IO UInt32 := do
  let exit : RegisterMachine.Exit ← RegisterMachine.Command.performLine arguments
  let stdout ← IO.getStdout
  stdout.write exit.output
  stdout.flush
  IO.eprint exit.errors
  return exit.code
