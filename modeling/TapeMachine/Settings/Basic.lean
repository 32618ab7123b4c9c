import TapeMachine.Log
import TapeMachine.Value.Basic

/-!
# Settings

The settings of a run are named values.  `Settings.check` accepts exactly the
names of the schema, each with a value of one of its kinds and in its range,
and gives the checked settings; otherwise it blames the first of: names that
are not known, then name by name a missing value or one of a wrong kind, then
values out of range.
-/

namespace TapeMachine

open TapeMachine.Text

/-- Checked settings of a run. -/
structure Settings where
  maxSteps : Option Int
  trace : Bool
  logLevel : Log.Level
  diagram : Option RawText
  cellSize : Int
  caption : RawText

namespace Settings

/-- Why settings are refused. -/
inductive Fault
  | unknownKeys (names : List RawText)
  | missingKey (name : String)
  | wrongKind (name : String) (expected : List Value.Kind) (found : Value.Kind)
  | tooFewSteps
  | cellTooSmall
  | unknownLevel (name : RawText)
  deriving DecidableEq, Repr

/-- Whether a fault is about the kind of a value. -/
def Fault.isWrongKind : Fault → Bool
  | .wrongKind .. => true
  | _ => false

/-- The settings that hold where nothing else is said, in order. -/
def defaults : Fields :=
  [("max_steps", .null), ("trace", .bool true), ("log_level", .text "WARNING"),
    ("diagram", .null), ("cell_size", .int 8), ("caption", .text "")]

/-- The names of settings with the kinds that their values may have. -/
def schema : List (String × List Value.Kind) :=
  [("max_steps", [.int, .null]), ("trace", [.bool]), ("log_level", [.text]),
    ("diagram", [.text, .null]), ("cell_size", [.int]), ("caption", [.text])]

/-- The names of the levels of the log, with commas. -/
def levelNames : String := ", ".intercalate (Log.Level.all.map Log.Level.name)

/-- The kinds that a value may have, for messages. -/
def kindNames : List Value.Kind → String
  | [k] => k.name
  | ks => "(" ++ ", ".intercalate (ks.map Value.Kind.name) ++ ")"

/-- What is said of a fault. -/
def Fault.message : Fault → RawText
  | .unknownKeys names => .sound "Unknown configuration keys: " ++ RawText.join ", " names
  | .missingKey name => .sound ("Missing required configuration key: " ++ name)
  | .wrongKind name expected found =>
    .sound ("Config key '" ++ name ++ "' expected " ++ kindNames expected ++ ", got " ++
      found.name ++ ".")
  | .tooFewSteps => .sound "max_steps must be at least 1"
  | .cellTooSmall => .sound "cell_size must be at least 1"
  | .unknownLevel name =>
    .sound ("log_level must be one of " ++ levelNames ++ ", got " ++
      String.ofList name.quoteChars)

/-- The names of the schema. -/
def names : List RawText := schema.map fun s => .sound s.1

/-- The names that the schema does not know, in the order of their characters. -/
def unknownKeys (fields : Fields) : List RawText :=
  ((fields.map (·.1)).filter fun name => !names.contains name).mergeSort RawText.le

/-- Look for the first name of a schema that has no value or one of a wrong kind. -/
def checkKinds (fields : Fields) : List (String × List Value.Kind) → Except Fault Unit
  | [] => .ok ()
  | (name, kinds) :: rest =>
    match fields.get? name with
    | none => .error (.missingKey name)
    | some v =>
      if kinds.contains v.kind then checkKinds fields rest
      else .error (.wrongKind name kinds v.kind)

/-- Look at the ranges of values that have the right kinds, and give them. -/
def checkRanges (fields : Fields) : Except Fault Settings :=
  let maxSteps : Option Int := match fields.get? "max_steps" with
    | some (.int n) => some n
    | _ => none
  let cellSize : Int := match fields.get? "cell_size" with
    | some (.int n) => n
    | _ => 0
  let level := text "log_level"
  if maxSteps.any (· < 1) then .error .tooFewSteps
  else if cellSize < 1 then .error .cellTooSmall
  else match level.string?.bind Log.Level.ofName? with
    | none => .error (.unknownLevel level)
    | some l =>
      .ok
        { maxSteps := maxSteps
          trace := match fields.get? "trace" with
            | some (.bool b) => b
            | _ => false
          logLevel := l
          diagram := match fields.get? "diagram" with
            | some (.text s) => some s
            | _ => none
          cellSize := cellSize
          caption := text "caption" }
where
  /-- The text of a name. -/
  text (name : String) : RawText :=
    match fields.get? name with
    | some (.text s) => s
    | _ => .sound ""

/-- Check named values against the schema. -/
def check (fields : Fields) : Except Fault Settings :=
  match unknownKeys fields with
  | [] => do
    checkKinds fields schema
    checkRanges fields
  | names => .error (.unknownKeys names)

end Settings

end TapeMachine
