import TapeMachine.Binary64.Basic
import TapeMachine.Picture.Library
import TapeMachine.Demo.Numbering
import TapeMachine.Demo.Tour

/-!
# Frames of a growing diagram

Saves the diagram of a run as a numbered series of frames, each of which shows
the run up to a later step.
-/

namespace TapeMachine.Demo.Frames

open TapeMachine.Picture
open TapeMachine.Text

/-- The bundled program to run. -/
def programName : String := "binary_increment"

/-- The word to run it on. -/
def word : String := "1011011111"

/-- The width and the height of a frame. -/
def resolution : Int × Int := (640, 360)

/-- The most frames to save. -/
def frameCount : Nat := 10

/-- The side of a box of the diagram. -/
def cellSize : Int := 16

/-- The steps that frames show, spread evenly over so many configurations, each once. -/
def frameSteps (configurations : Nat) : List Nat :=
  ((List.range frameCount).map fun i =>
    Binary64.roundQuotient (i * (configurations - 1)) (frameCount - 1)).eraseReps

/-- A number with zeros before it up to four digits. -/
def fourDigits (n : Nat) : String :=
  let ds := decimal n
  String.ofList (List.replicate (4 - ds.length) '0' ++ ds)

/-- A list of numbers in brackets. -/
def numberList (ns : List Nat) : String :=
  (Value.list (ns.map fun (n : Nat) => Value.int n)).shown

/-- What the demonstration does: the text that it prints and the frames that it saves. -/
structure Series where
  text : String
  frames : List (String × Frame)

/-- The frame that shows a run up to a step. -/
def frameAt (lib : Library) (configurations : List Configuration) (step : Nat) : Option Frame := do
  let r ← (Diagram.draw lib.room (configurations.take (step + 1)) cellSize none).toOption
  (frame lib.room (Source.ofDiagram r) (.int resolution.1) (.int resolution.2) (.int step)
    (.text ("+1 on " ++ word)) .null lib.fonts).toOption

/-- Tenths of a second as seconds. -/
def secondsText (tenths : Nat) : String :=
  integer (tenths / 10 : Nat) ++ "." ++ integer (tenths % 10 : Nat) ++ "s"

/-- Save the series below a directory named `output` in the working directory, whose own path is
given, as is the time that it takes. -/
def series (lib : Library) (files : FileSystem) (here : String) (tenths moments : Nat) :
    Option Series := do
  let (_, path, run) ← (Numbering.makeNext files (.ofText ("output/" ++ programName))).toOption
  let dir := path.text
  let p ← program? (programName ++ ".tm")
  let r := p.machine.run word none moments
  let configurations := r.configurations
  let steps := frameSteps configurations.length
  let frames ← steps.zipIdx.mapM fun (step, index) => do
    let f ← frameAt lib configurations step
    return (dir ++ "/" ++ programName ++ "_" ++ integer run ++ "_" ++ fourDigits index ++ ".png", f)
  let progress := steps.zipIdx.map fun (step, index) =>
    "Frame " ++ fourDigits index ++ ", Step " ++ integerGrouped step ++ "\n"
  return {
    text :=
      "Output directory: " ++ dir ++ "\n" ++
      "Run ID: " ++ integer run ++ "\n" ++
      "Run halted after " ++ integerGrouped r.machine.stepCount ++ " steps\n" ++
      "Frame steps: " ++ numberList steps ++ "\n" ++
      String.join progress ++
      "\nCompleted " ++ integer steps.length ++ " frames in " ++ secondsText tenths ++ "\n" ++
      "Output saved to: " ++ here ++ "/" ++ dir ++ "\n"
    frames := frames }

end TapeMachine.Demo.Frames
