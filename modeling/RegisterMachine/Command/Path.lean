import RegisterMachine.Text.Pieces

/-!
# Paths

A path is a way through directories, in steps that are parted by slashes.  The
step `.` stays where it is, the step `..` goes up, and every other step goes
into what has that name.  A slash at the end of a path asks for a directory.
Neither a path nor a name on it may be too long.

A program file is binary if its own name has the extension `rvm`, and a name
that is nothing but an extension has none.
-/

namespace RegisterMachine.Path

/-- A step on the way of a path. -/
inductive Step where
  | stay
  | up
  | into (name : List Char)
deriving DecidableEq

/-- The step that is written in some way. -/
def Step.ofSpelling : List Char → Step
  | ['.'] => .stay
  | ['.', '.'] => .up
  | name => .into name

def steps (path : String) : List Step :=
  (Text.words (· = '/') path.toList).map .ofSpelling

def isAbsolute (path : String) : Bool := path.toList.head? = some '/'

def asksForDirectory (path : String) : Bool := path.toList.getLast? = some '/'

def maxNameSize : Nat := 255

def maxPathSize : Nat := 4095

def nameTooLong (name : List Char) : Bool := maxNameSize < (String.ofList name).utf8ByteSize

def tooLong (path : String) : Bool := maxPathSize < path.utf8ByteSize

/-- The name that a path ends in, if it does not end above it. -/
def fileName? (path : String) : Option (List Char) :=
  match ((steps path).filter (· ≠ .stay)).getLast? with
  | some (.into name) => some name
  | _ => none

/-- The ending of the names of binary files. -/
def binaryExtension : List Char := ".rvm".toList

def isBinary (path : String) : Bool :=
  match fileName? path with
  | some name => binaryExtension.length < name.length && binaryExtension.isSuffixOf name
  | none => false

end RegisterMachine.Path
