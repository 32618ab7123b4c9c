import TapeMachine.Text.Digit
import TapeMachine.Value.Basic

/-!
# Arguments

The command line takes a program file and a word, and options anywhere before,
between and after them.  An option may be shortened as long as only one has
that beginning, its value may follow it or stand behind `=`, and short options
without a value may be joined.  After `--` nothing is an option.

`classify` tells options from other arguments, and `Arguments.parse` goes
through them once, from left to right.
-/

namespace TapeMachine.CommandLine

open TapeMachine.Text

/-- The options. -/
inductive Flag
  | help | config | maxSteps | quiet | diagram | caption | verbose
  deriving DecidableEq, Repr

namespace Flag

/-- All spellings with their options, in the order in which they are compared. -/
def spellings : List (String × Flag) :=
  [("-h", .help), ("--help", .help), ("--config", .config), ("--max-steps", .maxSteps),
    ("-q", .quiet), ("--quiet", .quiet), ("--diagram", .diagram), ("--caption", .caption),
    ("-v", .verbose), ("--verbose", .verbose)]

/-- Whether an option has a value. -/
def takesValue : Flag → Bool
  | .config | .maxSteps | .diagram | .caption => true
  | .help | .quiet | .verbose => false

/-- The spellings of an option, for messages. -/
def label (f : Flag) : String :=
  "/".intercalate ((spellings.filter fun s => s.2 = f).map (·.1))

/-- The option of a spelling. -/
def ofSpelling? (s : String) : Option Flag := (spellings.find? fun p => p.1 = s).map (·.2)

end Flag

/-- What is wrong with the arguments. -/
inductive UsageFault
  | ambiguous (argument : String) (spellings : List String)
  | valueMissing (f : Flag)
  | valueIgnored (f : Flag) (value : String)
  | notAnInteger (f : Flag) (value : String)
  | missing (names : List String)
  | unrecognized (arguments : List String)
  deriving DecidableEq, Repr

/-- What is said of a fault. -/
def UsageFault.message : UsageFault → String
  | .ambiguous argument spellings =>
    "ambiguous option: " ++ argument ++ " could match " ++ ", ".intercalate spellings
  | .valueMissing f => "argument " ++ f.label ++ ": expected one argument"
  | .valueIgnored f value =>
    "argument " ++ f.label ++ ": ignored explicit argument " ++ quote value
  | .notAnInteger f value => "argument " ++ f.label ++ ": invalid int value: " ++ quote value
  | .missing names => "the following arguments are required: " ++ ", ".intercalate names
  | .unrecognized arguments => "unrecognized arguments: " ++ " ".intercalate arguments

/-- What an argument is: an option that is known or not, with its spelling and a value joined to
it; the first `--`; or anything else. -/
inductive ArgumentKind
  | option (f : Option Flag) (spelling : String) (joined : Option (List Char))
  | separator
  | plain
  deriving DecidableEq, Repr

/-- An argument with what it is. -/
structure Argument where
  text : String
  kind : ArgumentKind
  deriving DecidableEq, Repr

/-- Whether an argument is an option. -/
def Argument.isOption (a : Argument) : Bool :=
  match a.kind with
  | .option .. => true
  | _ => false

/-- A text that looks like a negative number, with a line feed behind it or not. -/
def looksNegative (s : List Char) : Bool :=
  match s with
  | '-' :: body =>
    let body := if body.getLast? = some '\n' then body.dropLast else body
    let isDecimal (c : Char) : Bool := (decimalValue? c).isSome
    match body.span isDecimal with
    | (whole, []) => !whole.isEmpty
    | (_, '.' :: fraction) => !fraction.isEmpty && fraction.all isDecimal
    | _ => false
  | _ => false

/-- The text before the first `=`, and the text behind it if there is one. -/
def splitAtEquals (s : List Char) : List Char × Option (List Char) :=
  match s.span (· ≠ '=') with
  | (before, _ :: after) => (before, some after)
  | (before, []) => (before, none)

/-- The options that a text may be short for, with their spellings and joined values. -/
def abbreviations (s : List Char) : List (Flag × String × Option (List Char)) :=
  match s with
  | '-' :: '-' :: _ =>
    let (start, joined) := splitAtEquals s
    (Flag.spellings.filter fun p => start.isPrefixOf p.1.toList).map fun p => (p.2, p.1, joined)
  | _ =>
    Flag.spellings.filterMap fun p =>
      if p.1.toList = s.take 2 then some (p.2, p.1, some (s.drop 2))
      else if s.isPrefixOf p.1.toList then some (p.2, p.1, none)
      else none

/-- What an argument before any `--` is. -/
def classifyOne (text : String) : Except UsageFault ArgumentKind :=
  let s := text.toList
  match s with
  | '-' :: _ :: _ =>
    match Flag.ofSpelling? text with
    | some f => .ok (.option (some f) text none)
    | none =>
      let (start, joined) := splitAtEquals s
      match joined, Flag.ofSpelling? (String.ofList start) with
      | some value, some f => .ok (.option (some f) (String.ofList start) (some value))
      | _, _ =>
        match abbreviations s with
        | [(f, spelling, joined)] => .ok (.option (some f) spelling joined)
        | [] =>
          if looksNegative s || s.contains ' ' then .ok .plain else .ok (.option none text none)
        | several => .error (.ambiguous text (several.map (·.2.1)))
  | _ => .ok .plain

/-- Tell options from other arguments. -/
def classify : List String → Except UsageFault (List Argument)
  | [] => .ok []
  | text :: rest =>
    if text = "--" then .ok (⟨text, .separator⟩ :: rest.map fun t => ⟨t, .plain⟩)
    else do
      let kind ← classifyOne text
      let rest ← classify rest
      return ⟨text, kind⟩ :: rest

/-- The arguments once they are told apart.  Values are unchecked: one that was taken away as a `--`
is an empty list. -/
structure Arguments where
  file : Value
  word : Value
  config : Option Value
  maxSteps : Option Value
  quiet : Bool
  diagram : Option Value
  caption : Option Value
  verbose : Nat

/-- Why a run does not begin. -/
inductive Refusal
  | helpWanted
  | usage (f : UsageFault)
  deriving DecidableEq, Repr

/-- What has been gathered on the way. -/
structure Gathered where
  positional : List Value
  options : Arguments
  extra : List String

namespace Arguments

/-- What holds before any argument is seen. -/
def initial : Arguments := ⟨.null, .null, none, none, false, none, none, 0⟩

/-- The names of the arguments that must be given. -/
def required : List String := ["file", "word"]

/-- The value that some arguments make: the first `--` among them is taken away. -/
def valueOf (texts : List String) : Value :=
  match texts.erase "--" with
  | [s] => .text s
  | ss => .list (ss.map fun s => .text (.sound s))

/-- Take one plain argument, with the separators around it. -/
def takeOne? (args : List Argument) : Option (List String × List Argument) :=
  let isSeparator (a : Argument) : Bool := a.kind = .separator
  let (before, rest) := args.span isSeparator
  match rest with
  | a :: rest =>
    if a.kind = .plain then
      let (after, rest) := rest.span isSeparator
      some ((before ++ a :: after).map (·.text), rest)
    else none
  | [] => none

/-- Take as many plain arguments as are still missing and come next. -/
def takePositional : (wanted : Nat) → Gathered → List Argument → Gathered × List Argument
  | 0, g, args => (g, args)
  | wanted + 1, g, args =>
    match takeOne? args with
    | none => (g, args)
    | some (texts, rest) =>
      takePositional wanted { g with positional := g.positional ++ [valueOf texts] } rest

/-- Do what an option asks for, with its value if it has one. -/
def apply (o : Arguments) (f : Flag) (value : String) : Except Refusal Arguments :=
  match f with
  | .help => .error .helpWanted
  | .config => .ok { o with config := some (valueOf [value]) }
  | .diagram => .ok { o with diagram := some (valueOf [value]) }
  | .caption => .ok { o with caption := some (valueOf [value]) }
  | .quiet => .ok { o with quiet := true }
  | .verbose => .ok { o with verbose := o.verbose + 1 }
  | .maxSteps =>
    let v := valueOf [value]
    match v.string? with
    | some s =>
      match readSigned? s.toList with
      | some n => .ok { o with maxSteps := some (.int n) }
      | none => .error (.usage (.notAnInteger f s))
    | none => .ok { o with maxSteps := some v }

/-- The short options joined behind one without a value, and the last of them. -/
def joinedFlags (f : Flag) (spelling : String) : List Char → Except Refusal (List Flag × Flag)
  | [] => .error (.usage (.valueIgnored f ""))
  | c :: rest =>
    if spelling.toList.take 2 = ['-', '-'] then
      .error (.usage (.valueIgnored f (String.ofList (c :: rest))))
    else
      let next := String.ofList ['-', c]
      match Flag.ofSpelling? next with
      | none => .error (.usage (.valueIgnored f (String.ofList (c :: rest))))
      | some g =>
        if rest.isEmpty then .ok ([f], g)
        else do
          let (fs, last) ← joinedFlags g next rest
          return (f :: fs, last)

/-- Do what several options without a value ask for. -/
def applyAll (o : Arguments) : List Flag → Except Refusal Arguments
  | [] => .ok o
  | f :: fs => do applyAll (← o.apply f "") fs

/-- Take an option, and from the arguments behind it the value that it needs. -/
def takeOption (o : Arguments) (f : Flag) (spelling : String) (joined : Option (List Char))
    (rest : List Argument) : Except Refusal (Arguments × List Argument) := do
  match joined with
  | some value =>
    if f.takesValue then return (← o.apply f (String.ofList value), rest)
    else
      let (fs, last) ← joinedFlags f spelling value
      return (← o.applyAll (fs ++ [last]), rest)
  | none =>
    if f.takesValue then
      match rest with
      | a :: rest =>
        if a.kind = .plain then return (← o.apply f a.text, rest)
        else .error (.usage (.valueMissing f))
      | [] => .error (.usage (.valueMissing f))
    else return (← o.apply f "", rest)

/-- Go through the arguments.  The number of steps is bounded by twice the number of arguments. -/
def gather : (steps : Nat) → Gathered → List Argument → Except Refusal Gathered
  | 0, g, _ => .ok g
  | steps + 1, g, args =>
    let wanted := required.length - g.positional.length
    match args with
    | [] => .ok g
    | a :: rest =>
      match a.kind with
      | .option none _ _ => gather steps { g with extra := g.extra ++ [a.text] } rest
      | .option (some f) spelling joined => do
        let (options, rest) ← takeOption g.options f spelling joined rest
        gather steps { g with options := options } rest
      | _ =>
        let (g', rest') := takePositional wanted g args
        if args.any (·.isOption) then
          if rest'.length < args.length then gather steps g' rest'
          else
            let (skipped, rest) := args.span fun a => !a.isOption
            gather steps { g with extra := g.extra ++ skipped.map (·.text) } rest
        else .ok { g' with extra := g'.extra ++ rest'.map (·.text) }

/-- Make sense of the arguments of a command line. -/
def parse (argv : List String) : Except Refusal Arguments := do
  let args ← (classify argv).mapError .usage
  let g ← gather (2 * args.length + 1) ⟨[], initial, []⟩ args
  match g.positional, g.extra with
  | [file, word], [] => return { g.options with file := file, word := word }
  | [_, _], extra => .error (.usage (.unrecognized extra))
  | given, _ => .error (.usage (.missing (required.drop given.length)))

end Arguments

end TapeMachine.CommandLine
