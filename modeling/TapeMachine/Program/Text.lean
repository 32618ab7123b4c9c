import TapeMachine.Program.Basic
import TapeMachine.Text.Blank
import TapeMachine.Text.Line
import TapeMachine.Text.Utf8

/-!
# The text of a program

A program is written on lines: the size of the tape alphabet, the input and
the tape alphabet, the start state, the halting state, and then one transition
a line,

    state symbol next_state next_symbol direction

with blanks between the five tokens.  Blank lines and lines that start with
`#` are skipped among the transitions.  No two transitions share a state and
symbol.

`Program.ofText` reads a text and blames the first line that breaks a rule;
`Program.toText` writes one.
-/

namespace TapeMachine

open TapeMachine.Text

namespace Program

/-- A rule that a token breaks. -/
inductive TokenFault
  | notUnsigned (token : List Char)
  | tooLong (digits : Nat)
  | notASymbol (token : List Char)
  | notADirection (token : List Char)
  deriving DecidableEq, Repr

/-- A rule that a transition line breaks. -/
inductive LineFault
  | tokenCount (found : Nat)
  | token (f : TokenFault)
  | alreadyMapped (k : Key)
  deriving DecidableEq, Repr

/-- Why a text is no program. -/
inductive Fault
  | tooFewLines (found : Nat)
  | header (number : Nat) (name : String) (f : TokenFault)
  | line (text : List Char) (f : LineFault) (number : Nat)
  deriving DecidableEq, Repr

/-- The number of lines before the transitions. -/
def headerLines : Nat := 5

/-- What is said of a token. -/
def TokenFault.message : TokenFault → String
  | .notUnsigned token => String.ofList (quoteChars token) ++ " is not an unsigned integer"
  | .tooLong digits => tooManyDigits digits
  | .notASymbol token => String.ofList (quoteChars token) ++ " is not a single character"
  | .notADirection token => Direction.unknownLetter (.text (String.ofList token))

/-- What is said of a transition line. -/
def LineFault.message : LineFault → String
  | .tokenCount found => "expected 5 tokens, found " ++ integer found
  | .token f => f.message
  | .alreadyMapped k =>
    "state " ++ integer k.state ++ " reading " ++ String.ofList (quoteChars [k.symbol]) ++
      " is already mapped"

/-- The failure that a fault is reported as. -/
def Fault.failure : Fault → Failure
  | .tooFewLines found =>
    .malformedProgram [.text ("Program needs " ++ integer headerLines ++ " header lines, found " ++
      integer found)]
  | .header number name f =>
    .malformedProgram [.text ("Line " ++ integer number ++ " (" ++ name ++ "): " ++ f.message)]
  | .line text f number =>
    .malformedLine (.text (String.ofList text)) (.text f.message) (.int number)

/-- Read a state: an unsigned number in the digits `0` to `9`. -/
def readState (token : List Char) : Except TokenFault Nat :=
  if token.isEmpty || !token.all isAsciiDigit then .error (.notUnsigned token)
  else if maxDigits < token.length then .error (.tooLong token.length)
  else .ok (ofDigits token)

/-- Read a symbol: one character. -/
def readSymbol : List Char → Except TokenFault Char
  | [c] => .ok c
  | token => .error (.notASymbol token)

/-- Read a direction: one of three letters. -/
def readDirection (token : List Char) : Except TokenFault Direction :=
  match Direction.ofToken? token with
  | some d => .ok d
  | none => .error (.notADirection token)

/-- Read the five tokens of a transition in order. -/
def readTokens (state symbol nextState nextSymbol direction : List Char) :
    Except TokenFault (Key × Move) := do
  let state ← readState state
  let symbol ← readSymbol symbol
  let nextState ← readState nextState
  let nextSymbol ← readSymbol nextSymbol
  let direction ← readDirection direction
  return (⟨state, symbol⟩, ⟨nextState, nextSymbol, direction⟩)

/-- Read a transition line. -/
def readLine (line : List Char) : Except LineFault (Key × Move) :=
  match words line with
  | [state, symbol, nextState, nextSymbol, direction] =>
    (readTokens state symbol nextState nextSymbol direction).mapError .token
  | tokens => .error (.tokenCount tokens.length)

/-- Whether a line among the transitions is skipped. -/
def isSkipped (line : List Char) : Bool :=
  match trim line with
  | [] => true
  | c :: _ => c = '#'

/-- Read the transition lines, the first of which has the given number, into a table. -/
def readTable : (number : Nat) → List (List Char) → Table Key Move → Except Fault (Table Key Move)
  | _, [], table => .ok table
  | number, line :: rest, table =>
    if isSkipped line then readTable (number + 1) rest table
    else match readLine line with
      | .error f => .error (.line line f number)
      | .ok (k, m) =>
        match table.lookup? k with
        | some _ => .error (.line line (.alreadyMapped k) number)
        | none => readTable (number + 1) rest (table.put k m)

/-- Read a number that stands on a line of the header by itself. -/
def readHeader (number : Nat) (name : String) (line : List Char) : Except Fault Nat :=
  (readState (trim line)).mapError (.header number name)

/-- Read a program from its lines. -/
def ofLines : List (List Char) → Except Fault Program
  | size :: input :: tape :: start :: halt :: rest => do
    let size ← readHeader 1 "alphabet size" size
    let start ← readHeader 4 "start state" start
    let halt ← readHeader 5 "halting state" halt
    let table ← readTable (headerLines + 1) rest []
    return ⟨size, String.ofList (trim input), String.ofList (trim tape), start, halt, table⟩
  | lines => .error (.tooFewLines lines.length)

/-- Read a program from its text. -/
def ofText (text : String) : Except Fault Program := ofLines (splitLines text.toList)

/-- Why a file is no program. -/
inductive FileFault
  | encoding (f : Utf8Fault)
  | malformed (f : Fault)

/-- Read a program from the bytes of a text file. -/
def ofBytes (bytes : List UInt8) : Except FileFault Program :=
  match decodeUtf8 bytes with
  | .error f => .error (.encoding f)
  | .ok s => (ofLines (splitLines (unifyBreaks s))).mapError .malformed

/-- The transition line of an entry. -/
def entryLine (e : Key × Move) : List Char :=
  signed e.1.state ++ [' ', e.1.symbol, ' '] ++ signed e.2.nextState ++
    [' ', e.2.nextSymbol, ' ', e.2.direction.letter]

/-- The lines of a program. -/
def lines (p : Program) : List (List Char) :=
  [signed p.alphabetSize, p.inputAlphabet.toList, p.tapeAlphabet.toList, signed p.startState,
    signed p.endState] ++ p.table.map entryLine

/-- The text of a program, every line ended. -/
def toText (p : Program) : String :=
  String.ofList (p.lines.flatMap fun line => line ++ ['\n'])

end Program

end TapeMachine
