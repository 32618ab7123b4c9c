import TapeMachine.Demo.Frames
import TapeMachine.Demo.Snapshots
import TapeMachine.Live
import TapeMachine.Main
import TapeMachine.Picture.LooseDiagram
import TapeMachine.Proofs.Tape.Mirror
import TapeMachine.Proofs.Tape.Layout
import TapeMachine.Proofs.Tape.LiveCells
import TapeMachine.Proofs.Tape.Row
import TapeMachine.Proofs.Tape.Unbounded
import TapeMachine.Proofs.Tape.Simulation
import TapeMachine.Proofs.Tape.Replay
import TapeMachine.Proofs.Tape.Links
import TapeMachine.Proofs.Tape.Canonical
import TapeMachine.Proofs.Tape.Changes
import TapeMachine.Proofs.Tape.Lifetime
import TapeMachine.Proofs.Machine.Unbounded
import TapeMachine.Proofs.Machine.Run
import TapeMachine.Proofs.Live.Session
import TapeMachine.Proofs.Machine.Drivers
import TapeMachine.Proofs.Tape.Translation
import TapeMachine.Proofs.Value.Agreement
import TapeMachine.Proofs.Machine.Recurrence
import TapeMachine.Proofs.Picture.History
import TapeMachine.Proofs.Text.Lines
import TapeMachine.Proofs.Text.Words
import TapeMachine.Proofs.Text.Numeral
import TapeMachine.Proofs.Program.Grammar
import TapeMachine.Proofs.Program.Blame
import TapeMachine.Proofs.Machine.Retabled
import TapeMachine.Proofs.Program.Relaid
import TapeMachine.Proofs.Program.Expressible
import TapeMachine.Proofs.Machine.Atomic
import TapeMachine.Proofs.Machine.Padding
import TapeMachine.Proofs.Program.BinaryIncrement
import TapeMachine.Proofs.CommandLine.Arguments
import TapeMachine.Proofs.Machine.Ends
import TapeMachine.Proofs.CommandLine.Settings
import TapeMachine.Proofs.CommandLine.Outcome
import TapeMachine.Proofs.Live.Display
import TapeMachine.Proofs.Live.Clock
import TapeMachine.Proofs.Live.Interference
import TapeMachine.Proofs.Picture.PixelLaw
import TapeMachine.Proofs.Picture.Loose
import TapeMachine.Proofs.Picture.Prefix
import TapeMachine.Proofs.Machine.TraceLine
import TapeMachine.Proofs.Program.UnaryAddition
import TapeMachine.Proofs.CommandLine.Validity
import TapeMachine.Proofs.CommandLine.Layers
import TapeMachine.Proofs.Program.Bytes
import TapeMachine.Proofs.Picture.Scaling
import TapeMachine.Proofs.Picture.Caption
import TapeMachine.Proofs.FileSystem.Growth
import TapeMachine.Proofs.FileSystem.Making
import TapeMachine.Proofs.Demo.Numbering
import TapeMachine.Proofs.Picture.Raised
import TapeMachine.Proofs.Machine.Heard
