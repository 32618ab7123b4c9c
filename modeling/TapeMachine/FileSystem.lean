import TapeMachine.FileTree

/-!
# File systems

A file system is a tree of files with a working directory.  A path is followed
one name at a time, from the root if it starts with a slash and from the working
directory if not: `.` stays, and `..` goes up, which it does not at the root.
Looking up a path and deciding whether a file can be written fail as on a disk.
A path may hold bytes that are not UTF-8; no file has such a name, but one can be
written.  `makeDirectories` makes a directory with those above it that are missing.
-/

namespace TapeMachine

/-- All files, and the names that lead to the working directory. -/
structure FileSystem where
  root : FileTree
  here : List String

namespace FileSystem

open FileTree (Fault)
open TapeMachine.Text

/-- Whether a path holds a NUL character. -/
def hasNul (path : RawText) : Bool := path.points.contains (.char '\x00')

/-- What is said of a path that holds a NUL character. -/
def nulInPath : String := "embedded null byte"

/-- The names on a path. -/
def splitPath (path : String) : List String := (path.splitOn "/").filter (· ≠ "")

/-- What separates the names on a path. -/
def slash : CodePoint := .char '/'

/-- The names on a path, of any bytes. -/
def namesOf : RawText → List RawText
  | .sound s => (splitPath s).map .sound
  | .broken ps =>
    ((ps.splitBy fun p q => p ≠ slash && q ≠ slash).filter (· ≠ [slash])).map .ofPoints

/-- Whether a path starts at the root. -/
def isAbsolute (path : RawText) : Bool := path.points.head? = some slash

/-- Whether a path leads to directories only, since a slash ends it. -/
def endsInSlash (path : RawText) : Bool := path.points.getLast? = some slash

/-- The slashes with which a path is shown: two if it starts with exactly two, else at most one. -/
def leadingSlashes (path : String) : String :=
  match (path.toList.takeWhile (· = '/')).length with
  | 0 => ""
  | 2 => "//"
  | _ => "/"

/-- A path without empty names and `.`: the slashes before it, and its names. -/
structure Path where
  slashes : String
  names : List String
  deriving DecidableEq, Repr

namespace Path

/-- The path that a text gives. -/
def ofText (text : String) : Path :=
  ⟨leadingSlashes text, (splitPath text).filter (· ≠ ".")⟩

/-- A path as it is shown; the empty one is `.`. -/
def text (p : Path) : String :=
  let shown := p.slashes ++ "/".intercalate p.names
  if shown.isEmpty then "." else shown

/-- The path with one more name. -/
def child (p : Path) (name : String) : Path := ⟨p.slashes, p.names ++ [name]⟩

end Path

/-- The names that lead to where a name leads from the end of others. -/
def walk (names : List String) (name : String) : List String :=
  if name = "." then names else if name = ".." then names.dropLast else names ++ [name]

/-- A place: the names that lead to it, what is there, and the places above it, the nearest
first. -/
structure Place where
  names : List String
  here : FileTree
  above : List (List String × FileTree)

namespace Place

/-- The place at the root. -/
def root (t : FileTree) : Place := ⟨[], t, []⟩

/-- The place above, which for the root is the root. -/
def parent (p : Place) : Place :=
  match p.above with
  | [] => p
  | (names, t) :: above => ⟨names, t, above⟩

/-- Follow a name. -/
def enter (p : Place) (name : RawText) : Except Fault Place :=
  if name = "." ∨ name = ".." then
    if !p.here.isDirectory then .error .notADirectory
    else .ok (if name = "." then p else p.parent)
  else (p.here.lookUp name).map fun t =>
    ⟨p.names ++ [name.printed], t, (p.names, p.here) :: p.above⟩

/-- Follow names. -/
def follow (p : Place) (names : List RawText) : Except Fault Place := names.foldlM enter p

end Place

/-- Where a path starts. -/
def startOf (fs : FileSystem) (path : RawText) : Except Fault Place :=
  (Place.root fs.root).follow (if isAbsolute path then [] else fs.here.map .sound)

/-- The number of bytes from which on a path is too long. -/
def maxPathBytes : Nat := 4096

/-- Refuse a path that no lookup takes: one that is empty or too long. -/
def checkPath (path : RawText) : Except Fault Unit :=
  if path.isEmpty then .error .missing
  else if maxPathBytes ≤ path.nameLength then .error .nameTooLong
  else .ok ()

/-- What a path leads to. -/
def locate (fs : FileSystem) (path : RawText) : Except Fault Place :=
  match checkPath path with
  | .error f => .error f
  | .ok () => do
    let p ← (← fs.startOf path).follow (namesOf path)
    if endsInSlash path && !p.here.isDirectory then .error .notADirectory else return p

/-- Whether a path leads anywhere. -/
def has (fs : FileSystem) (path : RawText) : Bool := (fs.locate path).isOk

/-- The bytes of the file that a path leads to. -/
def read (fs : FileSystem) (path : RawText) : Except Fault (List UInt8) := do
  match (← fs.locate path).here with
  | .file bytes => return bytes
  | .directory _ => .error .isADirectory

/-- The file that would be written at a path: the names that lead to its directory, its own name,
and whether there is none yet. -/
structure Target where
  directory : List String
  name : RawText
  isNew : Bool

/-- The file of a name that would be written at a place.  A name with a slash behind it asks for a
directory, whether or not there is one. -/
def Place.writeTarget (p : Place) (name : RawText) (asDirectory : Bool) : Except Fault Target :=
  if name = "." ∨ name = ".." ∨ asDirectory then
    .error (if p.here.isDirectory then .isADirectory else .notADirectory)
  else match p.here.lookUp name with
    | .ok (.directory _) => .error .isADirectory
    | .ok (.file _) => .ok ⟨p.names, name, false⟩
    | .error .missing => .ok ⟨p.names, name, true⟩
    | .error f => .error f

/-- The file that would be written at a path. -/
def writeTarget (fs : FileSystem) (path : RawText) : Except Fault Target :=
  match checkPath path with
  | .error f => .error f
  | .ok () =>
    match (namesOf path).getLast? with
    | none => .error .isADirectory
    | some name => do
      let p ← (← fs.startOf path).follow (namesOf path).dropLast
      p.writeTarget name (endsInSlash path)

/-- The path of a file that would be written, as it is seen from the working directory. -/
def Target.path (t : Target) (fs : FileSystem) : RawText :=
  let seen := fs.here.isPrefixOf t.directory
  let directory := if seen then t.directory.drop fs.here.length else t.directory
  .sound (String.join ((if seen then [] else ["/"]) ++ directory.map (· ++ "/"))) ++ t.name

/-- What is at the end of a path, if it is a directory. -/
def directory? (fs : FileSystem) (path : RawText) : Option Place :=
  match fs.locate path with
  | .ok p => if p.here.isDirectory then some p else none
  | .error _ => none

/-- The names that lead to the directory of a name that would be made at a place. -/
def Place.newDirectory (p : Place) (name : String) : Except Fault (List String) :=
  if name = ".." then .error (if p.here.isDirectory then .exists else .notADirectory)
  else match p.here.lookUp name with
    | .ok _ => .error .exists
    | .error .missing => .ok (p.names ++ [name])
    | .error f => .error f

/-- Make one directory, all those above which are there. -/
def makeDirectory (fs : FileSystem) (path : Path) : Except Fault FileSystem :=
  match checkPath path.text with
  | .error f => .error f
  | .ok () =>
    match path.names.getLast? with
    | none => .error .exists
    | some name => do
      let p ← (← fs.startOf path.text).follow (path.names.dropLast.map .sound)
      let names ← p.newDirectory name
      return { fs with root := fs.root.put names FileTree.empty }

/-- Make one directory; one that is there already will do. -/
def ensureDirectory (fs : FileSystem) (path : Path) : Except (Fault × Path) FileSystem :=
  match fs.makeDirectory path with
  | .ok fs => .ok fs
  | .error f => if (fs.directory? path.text).isSome then .ok fs else .error (f, path)

/-- Make a directory, given by its names in reverse, and those above it that are missing; one that
is there already will do.  A fault comes with the path that it is about. -/
def ensureAll (fs : FileSystem) (slashes : String) :
    (names : List String) → Except (Fault × Path) FileSystem
  | [] => fs.ensureDirectory ⟨slashes, []⟩
  | name :: above =>
    let path : Path := ⟨slashes, (name :: above).reverse⟩
    match fs.makeDirectory path with
    | .error .missing => do (← fs.ensureAll slashes above).ensureDirectory path
    | _ => fs.ensureDirectory path

/-- Make a directory and those above it that are missing; one that is there already will do. -/
def makeDirectories (fs : FileSystem) (path : Path) : Except (Fault × Path) FileSystem :=
  fs.ensureAll path.slashes path.names.reverse

end FileSystem

end TapeMachine
