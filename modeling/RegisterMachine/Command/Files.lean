/-!
# Files

What a command does with files goes through `FileAccess`, so that a command can
be run on the files of the system or on a directory that is kept in memory.
-/

namespace RegisterMachine

/-- Why a file cannot be read or written. -/
inductive FileFault where
  /-- There is no such file, or no directory to put it in. -/
  | notFound
  /-- A name on the way to the file is not that of a directory. -/
  | notDirectory
  | isDirectory
  /-- The path, or a name on it, has more bytes than it may have. -/
  | nameTooLong
  | notText
  | other (reason : String)
deriving DecidableEq

def FileFault.message : FileFault → String
  | .notFound => "No such file or directory (os error 2)"
  | .notDirectory => "Not a directory (os error 20)"
  | .isDirectory => "Is a directory (os error 21)"
  | .nameTooLong => "File name too long (os error 36)"
  | .notText => "stream did not contain valid UTF-8"
  | .other reason => reason

class FileAccess (m : Type → Type) where
  read : String → m (Except FileFault ByteArray)
  /-- Makes some bytes the contents of a file. -/
  write : String → ByteArray → m (Except FileFault Unit)

def FileAccess.readText {m : Type → Type} [Monad m] [FileAccess m] (path : String) :
    m (Except FileFault String) := do
  match ← FileAccess.read path with
  | .error fault => return .error fault
  | .ok bytes =>
    match String.fromUTF8? bytes with
    | some text => return .ok text
    | none => return .error .notText

end RegisterMachine
