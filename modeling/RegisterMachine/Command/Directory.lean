import RegisterMachine.Command.Files
import RegisterMachine.Command.Path

/-!
# A directory in memory

A directory in memory is a list of files and of where they are.  A place is
named by the names that lead to it from a base, which is the directory itself,
one of those above it, or the root.  The bases are directories, and so is every
place on the way to a file.  Nothing else is there at first.

A path is followed step by step (`Directory.follow`), and every step but the
last has to lead to a directory, even if the next one leaves it again.
-/

namespace RegisterMachine

/-- A directory that names start from. -/
inductive Base where
  | root
  /-- The directory that is so many levels above the one at hand. -/
  | above (levels : Nat)
deriving DecidableEq

/-- The directory above a base.  The root is above itself. -/
def Base.parent : Base → Base
  | .root => .root
  | .above levels => .above (levels + 1)

/-- Where a file or a directory may be. -/
structure Place where
  /-- The directory that the names start from. -/
  base : Base
  names : List (List Char)
deriving DecidableEq

namespace Place

/-- The place that a path starts from. -/
def start (path : String) : Place := ⟨if Path.isAbsolute path then .root else .above 0, []⟩

def parent : Place → Place
  | ⟨base, []⟩ => ⟨base.parent, []⟩
  | ⟨base, names⟩ => ⟨base, names.dropLast⟩

def child (place : Place) (name : List Char) : Place :=
  { place with names := place.names ++ [name] }

/-- Whether a place is on the way to another. -/
def isBefore (place other : Place) : Bool :=
  place.base = other.base && place.names.length < other.names.length &&
    place.names.isPrefixOf other.names

end Place

/-- Files with their places. -/
structure Directory where
  files : List (Place × ByteArray) := []

namespace Directory

/-- What has a name. -/
inductive Entry where
  | file (contents : ByteArray)
  | directory

inductive Target where
  /-- In a directory that it goes up to or stays in. -/
  | directory
  /-- At a name in a directory. -/
  | name (directory : Place) (name : List Char)

/-- The directory that holds some files, each given with its path. -/
def ofFiles (files : List (String × ByteArray)) : Directory where
  files := files.map fun (path, contents) =>
    ((Path.steps path).foldl (fun place step =>
      match step with
      | .stay => place
      | .up => place.parent
      | .into name => place.child name) (Place.start path), contents)

/-- What is at a place. -/
def entryAt? (directory : Directory) (place : Place) : Option Entry :=
  match directory.files.lookup place with
  | some contents => some (.file contents)
  | none =>
    if place.names = [] || directory.files.any fun (file, _) => place.isBefore file then
      some .directory
    else none

/-- What has a name in a directory.  A name that is too long cannot be asked for. -/
def entry? (directory : Directory) (place : Place) (name : List Char) :
    Except FileFault (Option Entry) :=
  if Path.nameTooLong name then .error .nameTooLong
  else .ok (directory.entryAt? (place.child name))

/-- Takes a step that has to lead to a directory. -/
def enter (directory : Directory) (place : Place) : Path.Step → Except FileFault Place
  | .stay => .ok place
  | .up => .ok place.parent
  | .into name =>
    match directory.entry? place name with
    | .ok (some .directory) => .ok (place.child name)
    | .ok (some (.file _)) => .error .notDirectory
    | .ok none => .error .notFound
    | .error fault => .error fault

/-- Takes steps that each have to lead to a directory. -/
def follow (directory : Directory) (place : Place) : List Path.Step → Except FileFault Place
  | [] => .ok place
  | step :: steps =>
    match directory.enter place step with
    | .ok place => directory.follow place steps
    | .error fault => .error fault

def target (directory : Directory) (path : String) : Except FileFault Target :=
  if path = "" then .error .notFound
  else if Path.tooLong path then .error .nameTooLong
  else
    let steps := Path.steps path
    match directory.follow (Place.start path) steps.dropLast, steps.getLast? with
    | .ok place, some (.into name) => .ok (.name place name)
    | .ok _, _ => .ok .directory
    | .error fault, _ => .error fault

def read (directory : Directory) (path : String) : Except FileFault ByteArray :=
  match directory.target path with
  | .error fault => .error fault
  | .ok .directory => .error .isDirectory
  | .ok (.name place name) =>
    match directory.entry? place name with
    | .error fault => .error fault
    | .ok none => .error .notFound
    | .ok (some .directory) => .error .isDirectory
    | .ok (some (.file contents)) =>
      if Path.asksForDirectory path then .error .notDirectory else .ok contents

/-- The directory with other contents for the file at a place. -/
def put (directory : Directory) (place : Place) (contents : ByteArray) : Directory :=
  ⟨(place, contents) :: directory.files.filter fun (file, _) => file ≠ place⟩

/-- Makes some bytes the contents of a file, which need not have existed.  A path that asks for
a directory is refused before its last name is looked up. -/
def write (directory : Directory) (path : String) (contents : ByteArray) :
    Except FileFault Directory :=
  match directory.target path with
  | .error fault => .error fault
  | .ok .directory => .error .isDirectory
  | .ok (.name place name) =>
    if Path.asksForDirectory path then .error .isDirectory
    else
      match directory.entry? place name with
      | .error fault => .error fault
      | .ok (some .directory) => .error .isDirectory
      | .ok _ => .ok (directory.put (place.child name) contents)

/-- Commands run on a directory in memory that they may change. -/
instance : FileAccess (StateM Directory) where
  read path := fun directory => (directory.read path, directory)
  write path contents := fun directory =>
    match directory.write path contents with
    | .ok changed => (.ok (), changed)
    | .error fault => (.error fault, directory)

end Directory

end RegisterMachine
