import TapeMachine.Text.NameBytes
import TapeMachine.Text.Numeral

/-!
# Trees of files

A tree of files is a file with its bytes, or a directory with named entries in
the order in which they came.  `put` places something at the end of a row of
names, and `entry?` finds what a directory has under a name.  All names in a tree
are strings, but a name that is looked up may have other bytes.
-/

namespace TapeMachine

open TapeMachine.Text

/-- A file with its bytes, or a directory with named entries in the order in which they came. -/
inductive FileTree
  | file (bytes : List UInt8)
  | directory (entries : List (String × FileTree))

namespace FileTree

/-- Why a file operation fails. -/
inductive Fault
  | missing
  | exists
  | notADirectory
  | isADirectory
  | nameTooLong
  deriving DecidableEq, Repr

/-- The number of a fault. -/
def Fault.number : Fault → Nat
  | .missing => 2
  | .exists => 17
  | .notADirectory => 20
  | .isADirectory => 21
  | .nameTooLong => 36

/-- The words for a fault. -/
def Fault.words : Fault → String
  | .missing => "No such file or directory"
  | .exists => "File exists"
  | .notADirectory => "Not a directory"
  | .isADirectory => "Is a directory"
  | .nameTooLong => "File name too long"

/-- What is said of a fault with a path. -/
def Fault.message (f : Fault) (path : RawText) : String :=
  "[Errno " ++ integer f.number ++ "] " ++ f.words ++ ": " ++ String.ofList path.quoteChars

/-- The directory without entries. -/
def empty : FileTree := .directory []

/-- Whether something is a directory. -/
def isDirectory : FileTree → Bool
  | .directory _ => true
  | .file _ => false

/-- The entries of a directory. -/
def entries : FileTree → List (String × FileTree)
  | .directory es => es
  | .file _ => []

/-- The entry of a name. -/
def entry? (t : FileTree) (name : String) : Option FileTree :=
  (t.entries.find? fun e => e.1 == name).map (·.2)

/-- The entries with one changed, or added at the end. -/
def putEntry (name : String) (t : FileTree) : List (String × FileTree) → List (String × FileTree)
  | [] => [(name, t)]
  | e :: rest => if e.1 = name then (name, t) :: rest else e :: putEntry name t rest

/-- The tree with something put at the end of a row of names; directories on the way are made. -/
def put (t : FileTree) (names : List String) (new : FileTree) : FileTree :=
  match names with
  | [] => new
  | name :: rest =>
    .directory (putEntry name (put ((t.entry? name).getD empty) rest new) t.entries)

/-- The most bytes that a name may have. -/
def maxNameBytes : Nat := 255

/-- What a directory has under a name. -/
def lookUp (t : FileTree) (name : RawText) : Except Fault FileTree :=
  if !t.isDirectory then .error .notADirectory
  else if maxNameBytes < name.nameLength then .error .nameTooLong
  else match name.string?.bind t.entry? with
    | some there => .ok there
    | none => .error .missing

/-- What is at the end of a row of names. -/
def descend (t : FileTree) : List String → Except Fault FileTree
  | [] => .ok t
  | name :: rest => do (← t.lookUp name).descend rest

end FileTree

end TapeMachine
