import TapeMachine.FileSystem
import TapeMachine.Settings.Basic
import TapeMachine.Text.Line
import TapeMachine.Text.Utf8
import TapeMachine.Value.Json

/-!
# Settings files

A settings file holds a JSON object whose values are put over the defaults.
Without a file the defaults hold, and nothing is checked.
-/

namespace TapeMachine.Settings

open TapeMachine.Text

/-- Why no settings are loaded. -/
inductive LoadFault
  | notFound (path : String)
  | unreadable (path : String) (f : FileTree.Fault)
  | encoding (f : Utf8Fault)
  | json (text : List Char) (f : Json.Fault)
  | notAnObject (path : String)
  | notAPath (k : Value.Kind)
  | noOpenFile (below : Bool)
  | refused (f : Fault)

/-- What is said of a fault. -/
def LoadFault.message : LoadFault → RawText
  | .notFound path => .sound ("Configuration file not found at: " ++ path)
  | .unreadable path f => .sound (f.message path)
  | .encoding f => .sound f.message
  | .json text f => .sound (f.message text)
  | .notAnObject path => .sound ("Configuration file " ++ path ++ " must hold a JSON object")
  | .notAPath k =>
    .sound ("stat: path should be string, bytes, os.PathLike or integer, not " ++ k.word)
  | .noOpenFile below =>
    .sound (if below then "fd is less than minimum" else "fd is greater than maximum")
  | .refused f => f.message

/-- The defaults with the values of an object put over them, which must pass the check. -/
def merge (path : String) : Value → Except LoadFault Fields
  | .object fields =>
    let merged := Fields.override defaults fields
    match check merged with
    | .ok _ => .ok merged
    | .error f => .error (.refused f)
  | _ => .error (.notAnObject path)

/-- The settings in the bytes of a file; so many lists and objects may lie in one another. -/
def ofBytes (levels : Nat) (path : String) (bytes : List UInt8) : Except LoadFault Fields :=
  match decodeUtf8 bytes with
  | .error f => .error (.encoding f)
  | .ok s =>
    let text := unifyBreaks s
    match Json.read levels text with
    | .error f => .error (.json text f)
    | .ok v => merge path v

/-- The settings in the file of a path. -/
def loadFile (levels : Nat) (files : FileSystem) (path : String) : Except LoadFault Fields :=
  if FileSystem.hasNul path || !files.has path then .error (.notFound path)
  else match files.read path with
    | .error f => .error (.unreadable path f)
    | .ok bytes => ofBytes levels path bytes

/-- The settings in the file of a path, or the defaults if there is no path; a word of 32 bits
stands for a file that is open already, of which there is none. -/
def load (levels : Nat) (files : FileSystem) (path : Value) : Except LoadFault Fields :=
  match path with
  | .null => .ok defaults
  | .text (.sound path) => loadFile levels files path
  | .text (.broken ps) => .error (.notFound (RawText.broken ps).printed)
  | .int n =>
    if n < -Value.wordLimit ∨ Value.wordLimit ≤ n then .error (.noOpenFile (n < 0))
    else .error (.notFound (integer n))
  | v => .error (.notAPath v.kind)

/-- What is reported when settings have been loaded from a path. -/
def loadEvents (path : String) (fields : Fields) : List Log.Event :=
  .settingsLoaded path :: fields.map fun f => .setting f.1 f.2

end TapeMachine.Settings
