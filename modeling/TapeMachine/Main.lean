import TapeMachine.CommandLine.Run
import TapeMachine.Picture.Png
import TapeMachine.Picture.StandardLibrary

/-!
# The program

Runs the command line on the files of the disk.  What a path in the arguments
leads to is read first (`survey`); the trace is printed while the machine runs.
The letters of a caption are not drawn: there is no font here.  A picture is
written as PNG data whatever format the extension of its path stands for, and the
bytes of the path that are not UTF-8 are written as escapes.
-/

namespace TapeMachine.CommandLine

/-- What the disk has at a path: a file, a directory, or nothing that can be read. -/
def probe (path : String) : IO (Option FileTree) := do
  try
    let bytes ← IO.FS.readBinFile path
    return some (.file bytes.toList)
  catch
    | .inappropriateType _ code _ =>
      return if code.toNat = FileTree.Fault.isADirectory.number then some FileTree.empty else none
    | _ => return none

/-- Take over from the disk what lies at a path and on the way to it. -/
def survey (files : FileSystem) (path : String) : IO FileSystem := do
  let names := FileSystem.splitPath path
  let root := FileSystem.leadingSlashes path
  let start := if root.isEmpty then files.here else []
  let mut files := files
  for i in List.range names.length do
    let way := names.take (i + 1)
    let target := way.foldl FileSystem.walk start
    match ← probe (root ++ "/".intercalate way) with
    | some (.file bytes) => files := { files with root := files.root.put target (.file bytes) }
    | some (.directory _) =>
      if (files.root.descend target).toOption.isNone then
        files := { files with root := files.root.put target FileTree.empty }
    | none => pure ()
  return files

/-- The texts among some values. -/
def texts (values : List Value) : List String := values.filterMap Value.string?

/-- The paths that the arguments name. -/
def namedPaths (argv : List String) : List String :=
  match Arguments.parse argv with
  | .ok o => texts (o.file :: o.config.toList ++ o.diagram.toList)
  | .error _ => []

/-- Follow a run to its end, and print the line of each configuration if a trace is wanted. -/
partial def watch (trace : Bool) (r : Machine.Run) : IO Machine.Run := do
  if r.ending.isSome then return r
  let next := r.advance
  if trace then
    match next.emitted with
    | c :: _ => IO.println c.line
    | [] => pure ()
  watch trace next

/-- Print and write what a report holds; the trace has been printed if there was a run. -/
def deliver (printed : Bool) (r : Report) : IO UInt32 := do
  unless printed do IO.print r.stdout
  for e in r.events do IO.eprintln e.line
  IO.eprint r.stderr.printed
  for w in r.written do
    IO.FS.writeBinFile w.file.path.printed ⟨(Picture.Png.encode w.diagram).toArray⟩
  match r.ending with
  | .exit code => return code.toUInt32
  | .escaped e =>
    IO.eprintln e.message.printed
    return 1

/-- The file system of the disk, as far as the arguments name it. -/
def surveyAll (argv : List String) : IO FileSystem := do
  let here := FileSystem.splitPath (← IO.currentDir).toString
  (namedPaths argv).foldlM survey ⟨FileTree.empty.put here FileTree.empty, here⟩

/-- Run the command line with the standard picture library on the disk. -/
def runOnDisk (argv : List String) : IO UInt32 := do
  let files ← surveyAll argv
  match prepare files argv with
  | .finished r => deliver false r
  | .running s p r =>
    let r ← watch s.trace r
    match r.ending with
    | none => return 1
    | some result => deliver true (afterRun .standard files s p r result)

end TapeMachine.CommandLine

/-- Run the command line. -/
def main (argv : List String) : IO UInt32 := TapeMachine.CommandLine.runOnDisk argv
