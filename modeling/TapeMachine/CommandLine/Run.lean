import TapeMachine.CommandLine.Console
import TapeMachine.Machine.Run
import TapeMachine.Picture.Library
import TapeMachine.Program.Text
import TapeMachine.Settings.File

/-!
# The command line

The command line reads the settings and the program (`prepare`), runs the
machine on the word, and draws a diagram of the run if one is wanted
(`afterRun`).  It works with a picture library on a file system and gives what it
printed, wrote and reported; it reports nothing before the settings are known to be
good, and writes nothing unless the run halts.

`run` does all of it.  The machine may never halt, so `run` also takes a bound on
the moments of the run and gives nothing if they do not suffice.
-/

namespace TapeMachine.CommandLine

open TapeMachine.Picture
open TapeMachine.Text

/-- A picture that was written: the diagram, the frame that carries its caption if it has one, and
its file. -/
structure Written where
  diagram : Raster Color
  frame? : Option Frame
  file : Saved

/-- Why a picture is not written. -/
inductive PictureFault
  | diagram (f : Diagram.Fault)
  | frame (f : FrameFault)
  | saving (r : Raised)

namespace PictureFault

/-- What is said of a fault. -/
def message : PictureFault → RawText
  | .diagram f => f.message
  | .frame f => f.message
  | .saving r => r.message

/-- Whether a fault is of a kind that is expected. -/
def isExpected : PictureFault → Bool
  | .diagram f => f.isExpected
  | .frame f => f.isExpected
  | .saving r => r.isExpected

end PictureFault

/-- A fault that nothing handles. -/
inductive Escape
  | nulInPath
  | tooDeep (f : Json.Fault)
  | picture (f : PictureFault)

/-- What is said of a fault that nothing handles. -/
def Escape.message : Escape → RawText
  | .nulInPath => FileSystem.nulInPath
  | .tooDeep f => f.message []
  | .picture f => f.message

/-- How a run of the command line ends: with an exit code, or with a fault that nothing handles. -/
inductive Ending
  | exit (code : Nat)
  | escaped (e : Escape)

/-- What a run of the command line does. -/
structure Report where
  ending : Ending
  stdout : String
  stderr : RawText
  written : List Written
  events : List Log.Event

/-- Why something is not done: for a reason that is reported, or with a fault that nothing
handles. -/
inductive Stop
  | reported (message : RawText)
  | escaped (e : Escape)

/-- The report of a command line that stops, with what was printed and reported before. -/
def Stop.report (stdout : String) (events : List Log.Event) : Stop → Report
  | .reported message => ⟨.exit 1, stdout, Console.errorLine message, [], events⟩
  | .escaped e => ⟨.escaped e, stdout, .sound "", [], events⟩

/-- Whether settings that are not loaded stop the command line with a fault that nothing handles. -/
def stopOf (f : Settings.LoadFault) : Stop :=
  match f with
  | .json _ (.tooDeep k) => .escaped (.tooDeep (.tooDeep k))
  | f => .reported f.message

/-- The settings that the options of the command line give. -/
def optionFields (o : Arguments) : Fields :=
  (o.maxSteps.map fun v => (.sound "max_steps", v)).toList ++
    (if o.quiet then [(.sound "trace", .bool false)] else []) ++
    (o.diagram.map fun v => (.sound "diagram", v)).toList ++
    (o.caption.map fun v => (.sound "caption", v)).toList ++
    (if o.verbose = 0 then []
      else [(.sound "log_level", .text (if o.verbose = 1 then "INFO" else "DEBUG"))])

/-- How many lists and objects may lie in one another in a settings file: the command line takes the
room of one of them. -/
def settingsLevels : Nat := Json.maxLevels - 1

/-- The settings of a run: the file's over the defaults and the options' over both. -/
def settings (files : FileSystem) (o : Arguments) : Except Stop Settings := do
  let fields ← (Settings.load settingsLevels files (o.config.getD .null)).mapError stopOf
  (Settings.check (fields.override (optionFields o))).mapError fun f => .reported f.message

/-- Read the program file of a path. -/
def readProgram (files : FileSystem) (path : String) : Except Stop Program :=
  if FileSystem.hasNul path then .error (.escaped .nulInPath)
  else
    let shown := (FileSystem.Path.ofText path).text
    match files.read shown with
    | .error f => .error (.reported ("Could not read " ++ path ++ ": " ++ f.message shown))
    | .ok bytes =>
      match Program.ofBytes bytes with
      | .ok p => .ok p
      | .error (.malformed f) => .error (.reported f.failure.message)
      | .error (.encoding f) => .error (.reported ("Could not read " ++ path ++ ": " ++ f.message))

/-- What comes of a picture that is wanted and not written. -/
def stopOfPicture (f : PictureFault) : Stop :=
  if f.isExpected then .reported (.sound "Could not write diagram: " ++ f.message)
  else .escaped (.picture f)

/-- The diagram of a run, with its caption if there is one. -/
def drawDiagram (lib : Library) (s : Settings) (configurations : List Configuration)
    (steps : Nat) : Except PictureFault (Raster Color × Option Frame) := do
  let r ← (Diagram.draw lib.room configurations s.cellSize none).mapError .diagram
  if s.caption.isEmpty then return (r, none)
  else
    let f ← (frame lib.room (Source.ofDiagram r) (.int r.width) (.int r.height) (.int steps)
      (.text s.caption) .null lib.fonts).mapError .frame
    return (r, some f)

/-- Draw the diagram of a run and save it at a path. -/
def writeDiagram (lib : Library) (files : FileSystem) (s : Settings) (path : RawText)
    (configurations : List Configuration) (steps : Nat) : Except PictureFault Written := do
  let (diagram, frame?) ← drawDiagram lib s configurations steps
  let file ← (lib.save files path diagram frame?).mapError .saving
  return ⟨diagram, frame?, file⟩

/-- What is done when a run has ended. -/
def afterRun (lib : Library) (files : FileSystem) (s : Settings) (p : Program) (r : Machine.Run)
    (result : Except Machine.Fault Configuration) : Report :=
  let stdout := if s.trace then r.trace else ""
  let events := p.note :: r.log
  let kept := Log.atLeast s.logLevel events
  let done : Report := ⟨.exit 0, stdout, .sound "", [], kept⟩
  match result with
  | .error f => (Stop.reported f.message).report stdout kept
  | .ok _ =>
    match s.diagram with
    | none => done
    | some path =>
      if path.isEmpty then done
      else match writeDiagram lib files s path r.configurations r.machine.stepCount with
        | .error f => (stopOfPicture f).report stdout kept
        | .ok written =>
          { done with
            written := [written]
            events := Log.atLeast s.logLevel (events ++ [.diagramWritten path]) }

/-- What the command line has come to before the first step: its end, or a run of a program. -/
inductive Prepared
  | finished (r : Report)
  | running (s : Settings) (p : Program) (r : Machine.Run)

/-- The run of a program on the word of the command line, about to begin.  The states of a program
are numbers, so its reports can be told and it makes no difference who listens
(`Program.drive_heard`). -/
def beginRun (s : Settings) (p : Program) (word : Value) : Machine.Run :=
  Machine.Run.ofStart (p.machine.startOn word) (Machine.limitValue s.maxSteps) s.trace false

/-- Read the settings and the program, and start its machine. -/
def begin (files : FileSystem) (o : Arguments) : Except Stop Prepared := do
  let s ← settings files o
  let p ← readProgram files o.file.plain
  return .running s p (beginRun s p o.word)

/-- Make sense of the arguments, and read the settings and the program. -/
def prepare (files : FileSystem) (argv : List String) : Prepared :=
  match Arguments.parse argv with
  | .error .helpWanted => .finished ⟨.exit 0, helpText, .sound "", [], []⟩
  | .error (.usage f) => .finished ⟨.exit 2, "", .sound (usageError f), [], []⟩
  | .ok o =>
    match begin files o with
    | .ok prepared => prepared
    | .error stop => .finished (stop.report "" [])

/-- Run the command line with a picture library and arguments in a file system, for at most so many
moments. -/
def run (lib : Library) (files : FileSystem) (argv : List String) (moments : Nat) : Option Report :=
  match prepare files argv with
  | .finished r => some r
  | .running s p r =>
    let r := r.drive moments
    r.ending.map (afterRun lib files s p r)

end TapeMachine.CommandLine
