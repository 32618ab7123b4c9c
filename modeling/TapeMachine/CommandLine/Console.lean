import TapeMachine.CommandLine.Arguments
import TapeMachine.Text.CellWidth
import TapeMachine.Text.Emoji
import TapeMachine.Text.Line

/-!
# What the console shows

Usage texts, and the way a message looks on a console that reads markup: a
piece in brackets that could be markup is shown as it is, elsewhere a backslash
before an opening bracket is taken for an escape and left out, and a name
between colons gives way to its emoji.
-/

namespace TapeMachine.CommandLine

open TapeMachine.Text

/-- The summary of the command line. -/
def usageText : String :=
  joinLines
    ["usage: turing-tape [-h] [--config CONFIG] [--max-steps MAX_STEPS] [-q]",
      "                   [--diagram DIAGRAM] [--caption CAPTION] [-v]",
      "                   file word"]

/-- The help of the command line. -/
def helpText : String :=
  usageText ++ joinLines
    ["",
      "Run a deterministic single-tape Turing machine and print each configuration.",
      "",
      "positional arguments:",
      "  file                  program file (.tm)",
      "  word                  input word; use '' for the empty word",
      "",
      "options:",
      "  -h, --help            show this help message and exit",
      "  --config CONFIG       JSON configuration file",
      "  --max-steps MAX_STEPS",
      "                        give up after this many steps",
      "  -q, --quiet           do not print the configurations",
      "  --diagram DIAGRAM     write a space-time diagram PNG to this path",
      "  --caption CAPTION     caption drawn on the diagram",
      "  -v, --verbose         log more (-vv for every step)"]

/-- The text for wrong arguments. -/
def usageError (f : UsageFault) : String :=
  usageText ++ "turing-tape: error: " ++ f.message ++ "\n"

namespace Console

/-- The characters with which a piece of markup may start, after its bracket. -/
def startsMarkup (c : Char) : Bool := ('a' ≤ c && c ≤ 'z') || c = '#' || c = '/' || c = '@'

/-- The number of code points of a piece of markup at the start of a text: backslashes, an opening
bracket, a first character, and all up to the next closing bracket if no opening one comes
before. -/
def markupLength? (s : List CodePoint) : Option Nat :=
  let (slashes, rest) := s.span (· = .char '\\')
  match rest with
  | .char '[' :: p :: rest =>
    if p.isChar startsMarkup then
      match rest.span fun q => q ≠ .char ']' && q ≠ .char '[' with
      | (body, .char ']' :: _) => some (slashes.length + body.length + 3)
      | _ => none
    else none
  | _ => none

/-- The control characters that a console swallows. -/
def isSwallowed (c : Char) : Bool :=
  c = '\x07' || c = '\x08' || c = '\x0b' || c = '\x0c' || c = '\r'

/-- A message is cut into pieces of markup, with the backslashes before them, and what lies between
them. -/
inductive Piece
  | markup (s : List CodePoint)
  | plain (s : List CodePoint)
  deriving DecidableEq, Repr

/-- The pieces of a message.  `kept` more code points belong to a piece of markup; `done` is what
has been seen of the present piece, the last one first. -/
def pieces (kept : Nat) (done : List CodePoint) : List CodePoint → List Piece
  | [] => [.plain done.reverse]
  | p :: rest =>
    match kept with
    | 1 => .markup (p :: done).reverse :: pieces 0 [] rest
    | n + 2 => pieces (n + 1) (p :: done) rest
    | 0 =>
      match markupLength? (p :: rest) with
      | some n => .plain done.reverse :: pieces (n - 1) [p] rest
      | none => pieces 0 (p :: done) rest

/-- A text without the backslashes that stand before an opening bracket. -/
def dropEscapes : List CodePoint → List CodePoint
  | p :: q :: rest =>
    if p = .char '\\' ∧ q = .char '[' then q :: dropEscapes rest else p :: dropEscapes (q :: rest)
  | s => s

/-- A piece as it is shown: names of emoji give way to the emoji in both kinds. -/
def Piece.shown : Piece → List CodePoint
  | .markup s => Emoji.replaceNames s
  | .plain s => Emoji.replaceNames (dropEscapes s)

/-- The columns between two stops of the tabulator. -/
def tabSize : Nat := 8

/-- A text with its tabs widened to the next stop, at least one column each.  `column` is where the
part after the last tab starts, and `part` is what has been seen of it, the last code point
first. -/
def widenTabs (column : Nat) (part : List CodePoint) : List CodePoint → List CodePoint
  | [] => part.reverse
  | p :: rest =>
    if p = .char '\t' then
      let widened := (.char ' ' :: part).reverse
      let here := column + cellWidth widened
      let more := (tabSize - here % tabSize) % tabSize
      widened ++ List.replicate more (.char ' ') ++ widenTabs (here + more) [] rest
    else if p = .char '\n' then part.reverse ++ p :: widenTabs 0 [] rest
    else widenTabs column (p :: part) rest

/-- The text of a message as it is marked up: a lone backslash at the end is doubled. -/
def closeBackslash (s : List CodePoint) : List CodePoint :=
  let slash := CodePoint.char '\\'
  match s.reverse with
  | [p] => if p = slash then s ++ [slash] else s
  | p :: q :: _ => if p = slash ∧ q ≠ slash then s ++ [slash] else s
  | [] => s

/-- The line that reports an error. -/
def errorLine (message : RawText) : RawText :=
  let shown := (pieces 0 [.char ' '] (closeBackslash message.points)).flatMap Piece.shown
  let printed := "Error:".toList.map .char ++ shown.filter fun p => !p.isChar isSwallowed
  .ofPoints (widenTabs 0 [] printed) ++ .sound "\n"

end Console

end TapeMachine.CommandLine
