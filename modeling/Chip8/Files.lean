/-!
# Files

Reading and writing whole files by name, for programs that are indifferent to where files live. A
`Directory` is such a place in itself: the files that can be named from one directory, which has
no directories of its own. Around it lie the directories above it, and, from the root, those for
devices and for temporary files.
-/

namespace Chip8

/-- Why a file operation failed, in the operating system's words. What it refuses has a number;
names that cannot even be passed to it have none. -/
structure FileError where
  description : String
  code : Option Nat
  deriving DecidableEq, Repr

namespace FileError

def nulInName : FileError := ⟨"file name contained an unexpected NUL byte", none⟩
def notFound : FileError := ⟨"No such file or directory", some 2⟩
def notDirectory : FileError := ⟨"Not a directory", some 20⟩
def isDirectory : FileError := ⟨"Is a directory", some 21⟩
def nameTooLong : FileError := ⟨"File name too long", some 36⟩

def text (e : FileError) : String :=
  match e.code with
  | some code => e.description ++ " (os error " ++ code.repr ++ ")"
  | none => e.description

def message (e : FileError) : String := "io error: " ++ e.text

end FileError

/-- Access to files by their paths. -/
class FileAccess (m : Type → Type) where
  readFile : String → m (Except FileError (List UInt8))
  writeFile : String → List UInt8 → m (Except FileError Unit)

/-- The directories that a path can lead through. -/
inductive Location
  /-- The one that paths start from. -/
  | here
  /-- The one so many levels above it. -/
  | above (levels : Nat)
  | root
  | devices
  | temporary
  deriving DecidableEq, Repr

namespace Location

def parent : Location → Location
  | here => above 1
  | above levels => above (levels + 1)
  | root | devices | temporary => root

/-- The directory of a name in a directory. -/
def enter? : Location → (name : String) → Option Location
  | root, "dev" => some devices
  | root, "tmp" => some temporary
  | _, _ => none

/-- What leads to a location. -/
def path : Location → String
  | here => ""
  | above levels => "".intercalate (List.replicate levels "../")
  | root => "/"
  | devices => "/dev/"
  | temporary => "/tmp/"

end Location

/-- The names that a path leads through. Slashes part them, several as well as one. -/
def pathSteps (path : String) : List String :=
  ((path.toList.splitOn '/').filter fun letters => ¬ letters.isEmpty).map String.ofList

/-- The bytes that a path, and that a step of it, may have at most. -/
def longestPath : Nat := 4095
def longestName : Nat := 255

/-- The file that holds nothing, whatever is written to it. -/
def nullDevice : String := Location.devices.path ++ "null"

/-- The paths and contents of the files that can be named from a directory. Paths are in the form
that `Location.path` gives them. -/
structure Directory where
  files : List (String × List UInt8)
  deriving DecidableEq, Repr

/-- Where a path leads. -/
inductive Destination
  | directory
  /-- A name in a directory, which may or may not exist. After a slash it can only be a
  directory's. -/
  | name (location : Location) (name : String) (slash : Bool)
  deriving DecidableEq, Repr

namespace Directory

def empty : Directory := ⟨[]⟩

def get? (d : Directory) (name : String) : Option (List UInt8) :=
  if name = nullDevice then some [] else d.files.lookup name

/-- Puts a file in place of an earlier one of its name. -/
def insert (d : Directory) (name : String) (content : List UInt8) : Directory :=
  if name = nullDevice then d
  else ⟨(name, content) :: d.files.filter fun file => file.1 ≠ name⟩

/-- Takes a step of a path that goes on behind it. -/
def enter (d : Directory) (location : Location) (step : String) : Except FileError Location :=
  if step = "." then .ok location
  else if step = ".." then .ok location.parent
  else if longestName < step.utf8ByteSize then .error .nameTooLong
  else
    match location.enter? step with
    | some inner => .ok inner
    | none =>
      .error (if (d.get? (location.path ++ step)).isSome then .notDirectory else .notFound)

/-- Follows a path up to its last step. -/
def follow (d : Directory) (path : String) : Except FileError Destination :=
  if path.contains '\x00' then .error .nulInName
  else if path.isEmpty then .error .notFound
  else if longestPath < path.utf8ByteSize then .error .nameTooLong
  else
    let steps := pathSteps path
    let start := if path.startsWith "/" then Location.root else .here
    match steps.getLast? with
    | none => .ok .directory
    | some last => do
      let location ← steps.dropLast.foldlM d.enter start
      if last = "." ∨ last = ".." then return .directory
      else return .name location last (path.endsWith "/")

def read (d : Directory) (path : String) : Except FileError (List UInt8) := do
  match ← d.follow path with
  | .directory => throw .isDirectory
  | .name location name slash =>
    if longestName < name.utf8ByteSize then throw .nameTooLong
    else if (location.enter? name).isSome then throw .isDirectory
    else
      match d.get? (location.path ++ name) with
      | none => throw .notFound
      | some content => if slash then throw .notDirectory else return content

def write (d : Directory) (path : String) (content : List UInt8) : Except FileError Directory := do
  match ← d.follow path with
  | .directory => throw .isDirectory
  | .name location name slash =>
    if slash then throw .isDirectory
    else if longestName < name.utf8ByteSize then throw .nameTooLong
    else if (location.enter? name).isSome then throw .isDirectory
    else return d.insert (location.path ++ name) content

instance : FileAccess (StateM Directory) where
  readFile path := fun d => (d.read path, d)
  writeFile path content := fun d =>
    match d.write path content with
    | .ok d' => (.ok (), d')
    | .error e => (.error e, d)

end Directory

end Chip8
