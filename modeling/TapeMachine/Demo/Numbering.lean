import TapeMachine.FileSystem
import TapeMachine.Text.Digit

/-!
# Numbered directories

`makeNext` makes a directory below another one, named by the number after the
greatest that already names a directory there.  A name counts as a number if
all its characters are digits of some script; one with a digit that is not
decimal cannot be read, and nothing is made then.
-/

namespace TapeMachine.Demo.Numbering

open TapeMachine.Text
open TapeMachine.FileSystem (Path)

/-- Why no numbered directory is made. -/
inductive Fault
  | notANumber (name : String)
  | files (f : FileTree.Fault) (path : String)
  | nulInPath
  deriving DecidableEq, Repr

/-- The longest quotation of a name in a message. -/
def quotationLimit : Nat := 200

/-- What is said of a fault. -/
def Fault.message : Fault → String
  | .notANumber name =>
    "invalid literal for int() with base 10: " ++
      String.ofList ((quoteChars name.toList).take quotationLimit)
  | .files f path => f.message path
  | .nulInPath => FileSystem.nulInPath

/-- Whether a name consists of digits. -/
def isNumeral (name : String) : Bool := !name.isEmpty && name.toList.all isDigit

/-- The greatest number that names a directory among some entries, or zero. -/
def greatest : List (String × FileTree) → Except Fault Nat
  | [] => .ok 0
  | (name, t) :: rest =>
    if t.isDirectory && isNumeral name then
      match readNumeral? name.toList with
      | none => .error (.notANumber name)
      | some n => (greatest rest).map (max n)
    else greatest rest

/-- Make a directory, and those above it that are missing. -/
def ensure (files : FileSystem) (path : Path) : Except Fault FileSystem :=
  if FileSystem.hasNul path.text then .error .nulInPath
  else (files.makeDirectories path).mapError fun e => .files e.1 e.2.text

/-- What a directory holds. -/
def entriesAt (files : FileSystem) (path : Path) : Except Fault (List (String × FileTree)) :=
  if FileSystem.hasNul path.text then .error .nulInPath
  else match files.locate path.text with
    | .error f => .error (.files f path.text)
    | .ok p =>
      if p.here.isDirectory then .ok p.here.entries
      else .error (.files .notADirectory path.text)

/-- Make the next numbered directory below `top`: the files after it, its path, and its number. -/
def makeNext (files : FileSystem) (top : Path) : Except Fault (FileSystem × Path × Nat) := do
  let files ← ensure files top
  let n ← greatest (← entriesAt files top)
  let path := top.child (integer (n + 1 : Nat))
  let files ← ensure files path
  return (files, path, n + 1)

/-- Make so many numbered directories one after another: the files after them and what was made. -/
def makeSeveral (top : Path) :
    (times : Nat) → FileSystem → Except Fault (FileSystem × List (Path × Nat))
  | 0, files => .ok (files, [])
  | times + 1, files => do
    let (files, path, n) ← makeNext files top
    let (files, made) ← makeSeveral top times files
    return (files, (path, n) :: made)

/-- The names in a directory, in the order of their characters. -/
def listing (files : FileSystem) (path : Path) : Except Fault (List String) :=
  (entriesAt files path).map fun es =>
    (es.map (·.1)).mergeSort fun a b => decide (a ≤ b)

end TapeMachine.Demo.Numbering
