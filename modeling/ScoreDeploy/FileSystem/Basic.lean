import ScoreDeploy.Bytes.Basic
import ScoreDeploy.FileSystem.Path

/-!
# File systems

A file system maps places to files and directories. A place is the list of component names from the
root on, the last one first. `locate` finds the place that a path names by walking along it, so that
each component on the way has to be a directory; the operations then look at or change what is
there, and say why they cannot. Making directories may change something before it fails.
-/

namespace ScoreDeploy

/-- Why an operation on files fails. -/
inductive IoError where
  /-- Nothing is there. -/
  | notFound
  /-- Something other than a directory is where a directory has to be. -/
  | notADirectory
  /-- A directory is where a file has to be. -/
  | isADirectory
  /-- Something is there already. -/
  | alreadyExists
  /-- The bytes are no text. -/
  | invalidText
  /-- A name, or the whole path, is too long. -/
  | nameTooLong
  /-- A path holds the character with code zero. -/
  | invalidPath
  /-- Something else, in the words of the machine. -/
  | other (text : String)
deriving DecidableEq, Repr

/-- The wording of an error. -/
def IoError.message : IoError → String
  | .notFound => "No such file or directory (os error 2)"
  | .notADirectory => "Not a directory (os error 20)"
  | .isADirectory => "Is a directory (os error 21)"
  | .alreadyExists => "File exists (os error 17)"
  | .invalidText => "stream did not contain valid UTF-8"
  | .nameTooLong => "File name too long (os error 36)"
  | .invalidPath => "file name contained an unexpected NUL byte"
  | .other text => text

/-- What is at a place. -/
inductive Entry where
  | file (content : Bytes)
  | directory
deriving DecidableEq

/-- The names from the root on, the last one first. How many there are tells most places apart at
once. -/
structure Place where
  depth : Nat
  names : List String
  depth_eq : depth = names.length
deriving DecidableEq

namespace Place

/-- Where all paths start. -/
def root : Place := ⟨0, [], rfl⟩

/-- The place of an entry of a directory. -/
def child (place : Place) (name : String) : Place :=
  ⟨place.depth + 1, name :: place.names, by simp [place.depth_eq]⟩

/-- The directory of a place. The root is its own. -/
def parent (place : Place) : Place :=
  ⟨place.depth - 1, place.names.tail, by simp [place.depth_eq]⟩

@[simp]
theorem parent_child (place : Place) (name : String) : (place.child name).parent = place := by
  simp [parent, child]

/-- Whether a place is that of a directory, or lies below it. -/
def isWithin (place directory : Place) : Bool :=
  directory.depth ≤ place.depth &&
    place.names.drop (place.depth - directory.depth) == directory.names

/-- The path to a place from a directory above it. -/
def pathFrom (place directory : Place) : Path :=
  String.intercalate "/" (place.names.take (place.depth - directory.depth)).reverse

end Place

/-- Files and directories, and the directory that relative paths start from. -/
structure FileSystem where
  /-- What is where. The root is always a directory. -/
  entries : List (Place × Entry)
  /-- The directory that relative paths start from. -/
  current : Place

namespace FileSystem

/-- What is at a place. -/
def entry? (fs : FileSystem) (place : Place) : Option Entry :=
  if place = .root then some .directory else fs.entries.lookup place

/-- Puts something at a place. -/
def put (fs : FileSystem) (place : Place) (entry : Entry) : FileSystem :=
  { fs with entries := (place, entry) :: fs.entries.filter fun e => e.1 != place }

/-- Takes away what is at a place, and everything below it. -/
def removeAt (fs : FileSystem) (place : Place) : FileSystem :=
  { fs with entries := fs.entries.filter fun e => !e.1.isWithin place }

/-- The greatest number of bytes of a name. -/
def maxNameLength : Nat := 255

/-- The least number of bytes that a path may not have. -/
def pathLimit : Nat := 4096

/-- Steps into a directory, or out of one. -/
def step (fs : FileSystem) (place : Place) (name : String) : Except IoError Place :=
  match fs.entry? place with
  | none => .error .notFound
  | some (.file _) => .error .notADirectory
  | some .directory =>
    if name = "" ∨ name = "." then .ok place
    else if name = ".." then .ok place.parent
    else if maxNameLength < name.utf8ByteSize then .error .nameTooLong
    else .ok (place.child name)

/-- Walks along names. -/
def walk (fs : FileSystem) (place : Place) (names : List String) : Except IoError Place :=
  names.foldlM fs.step place

/-- Where the walk along a path starts, if the path can be used at all. -/
def start (fs : FileSystem) (path : Path) : Except IoError Place :=
  if path.isEmpty then .error .notFound
  else if path.toList.contains '\x00' then .error .invalidPath
  else if pathLimit ≤ path.utf8ByteSize then .error .nameTooLong
  else .ok (if path.isAbsolute then .root else fs.current)

/-- Where a path leads, whether or not anything is there. A path that ends in a slash leads to
something only if that is a directory. -/
def locate (fs : FileSystem) (path : Path) : Except IoError Place := do
  fs.walk (← fs.start path) (Path.components path)

/-- What is where a path leads. -/
def find (fs : FileSystem) (path : Path) : Except IoError Entry := do
  match fs.entry? (← fs.locate path) with
  | some entry => return entry
  | none => throw .notFound

/-- Whether a path leads to anything. -/
def holds (fs : FileSystem) (path : Path) : Bool :=
  (fs.find path).toOption.isSome

/-- The content of a file. -/
def read (fs : FileSystem) (path : Path) : Except IoError Bytes := do
  match ← fs.find path with
  | .file content => return content
  | .directory => throw .isADirectory

/-! ### Making directories -/

/-- Makes the directories that are missing along names, from a directory on. A file on the way is in
the way. -/
def makeWay (fs : FileSystem) (place : Place) : List String → Except IoError Unit × FileSystem
  | [] => (.ok (), fs)
  | name :: rest =>
    match fs.step place name with
    | .error e => (.error e, fs)
    | .ok next =>
      match fs.entry? next with
      | some .directory => makeWay fs next rest
      | some (.file _) => (.error .alreadyExists, fs)
      | none => makeWay (fs.put next .directory) next rest

/-- Makes a directory and those above it that are missing. Those that were made stay, even if not
all can be. Where a path ends in a point, the directory before it has to be there at the end. -/
def makeDirectories (fs : FileSystem) (path : Path) : Except IoError Unit × FileSystem :=
  if path.isEmpty then (.ok (), fs)
  else
    match fs.find path.withoutSlashes, fs.start path with
    | .ok .directory, _ => (.ok (), fs)
    | .ok (.file _), _ => (.error .alreadyExists, fs)
    | .error .notFound, .ok place =>
      let names := (Path.components path).filter fun name => name != "" && name != "."
      if path.endsInPoint then
        match fs.makeWay place names.dropLast with
        | (.error e, fs) => (.error e, fs)
        | (.ok (), fs) => ((fs.find path).map fun _ => (), fs)
      else fs.makeWay place names
    | .error e, _ => (.error e, fs)

/-! ### Files -/

/-- Writes a file, which need not be there but whose directory does. A slash at the end of a path
names no file, whatever is there. -/
def write (fs : FileSystem) (path : Path) (content : Bytes) : Except IoError FileSystem := do
  let file := path.withoutSlashes
  if file.length < path.length then
    let names := Path.components file
    let directory ← fs.walk (← fs.start path) names.dropLast
    discard (fs.step directory "")
    throw .isADirectory
  let place ← fs.locate path
  match fs.entry? place with
  | some .directory => throw .isADirectory
  | _ => return fs.put place (.file content)

/-- Gives a file another place, whose file it replaces. -/
def rename (fs : FileSystem) (old new : Path) : Except IoError FileSystem := do
  let source ← fs.locate old
  let target ← fs.locate new
  match fs.entry? source, fs.entry? target with
  | none, _ => throw .notFound
  | some (.file _), some .directory => throw .isADirectory
  | some (.file content), _ => return (fs.removeAt source).put target (.file content)
  | some .directory, some (.file _) => throw .notADirectory
  | some .directory, _ => throw .alreadyExists

/-- The paths of all files below a directory, seen from there. -/
def filesBelow (fs : FileSystem) (directory : Place) : List Path :=
  fs.entries.filterMap fun e =>
    match e.2 with
    | .file _ => if e.1.isWithin directory then some (e.1.pathFrom directory) else none
    | .directory => none

end FileSystem

end ScoreDeploy
