import TapeMachine.Text.Digit
import TapeMachine.Value.Basic

/-!
# Reading JSON

`Json.read` reads one JSON value from a text.  Besides JSON itself it takes
`NaN`, `Infinity` and `-Infinity`; of a name given twice in an object the last
value counts.  A fault says what was expected and at which character.  Lists
and objects may lie in one another as deep as the caller has room for, at most
`maxLevels` of them.

Each reader takes the text that remains, with the number of characters before
it, and gives back a value with what remains then.
-/

namespace TapeMachine.Json

open TapeMachine.Text

/-- What a text may break. -/
inductive Rule
  | value
  | propertyName
  | colon
  | comma
  | extraData
  | controlCharacter
  | escape
  | hexEscape
  | unterminated
  | byteOrderMark
  deriving DecidableEq, Repr

/-- Why a text is not read: a rule broken at a place, an integer of too many digits, or too many
lists and objects in one another, the last of which is named by its kind. -/
inductive Fault
  | broken (rule : Rule) (place : Nat)
  | tooLong (digits : Nat)
  | tooDeep (kind : Value.Kind)
  deriving DecidableEq, Repr

/-- How many lists and objects may lie in one another for a caller that has all the room. -/
def maxLevels : Nat := 991

/-- What remains of a text, and how many characters came before. -/
structure Cursor where
  place : Nat
  rest : List Char

namespace Cursor

/-- Step over one character, of which `rest` is the remainder. -/
def next (c : Cursor) (rest : List Char) : Cursor := ⟨c.place + 1, rest⟩

/-- Step over characters as long as they pass a test. -/
def skipWhile (p : Char → Bool) (c : Cursor) : Cursor :=
  ⟨c.place + (c.rest.takeWhile p).length, c.rest.dropWhile p⟩

/-- Step over blanks. -/
def skipBlanks (c : Cursor) : Cursor :=
  c.skipWhile fun ch => ch = ' ' || ch = '\t' || ch = '\n' || ch = '\r'

/-- Step over a word if it comes next. -/
def skipWord? (c : Cursor) (word : String) : Option Cursor :=
  let w := word.toList
  if w.isPrefixOf c.rest then some ⟨c.place + w.length, c.rest.drop w.length⟩ else none

end Cursor

/-- Four hexadecimal digits that do not end the text, with what follows them. -/
def hexFour? : List Char → Option (Nat × List Char)
  | a :: b :: c :: d :: e :: rest => do
    let a ← hexValue? a
    let b ← hexValue? b
    let c ← hexValue? c
    let d ← hexValue? d
    return (((a * 16 + b) * 16 + c) * 16 + d, e :: rest)
  | _ => none

/-- The character that a letter after a backslash stands for. -/
def escaped? (c : Char) : Option Char :=
  if c = '"' ∨ c = '\\' ∨ c = '/' then some c
  else if c = 'b' then some '\x08'
  else if c = 'f' then some '\x0c'
  else if c = 'n' then some '\n'
  else if c = 'r' then some '\r'
  else if c = 't' then some '\t'
  else none

/-- The second half of a surrogate pair: `\u` and four digits for a low surrogate, with text after
them.  No value if something else follows, and a fault if the digits are broken. -/
def lowSurrogate? (place : Nat) : List Char → Except Fault (Option (Nat × List Char))
  | '\\' :: 'u' :: rest =>
    if rest.length < 5 then .ok none
    else match hexFour? rest with
      | none => .error (.broken .hexEscape (place + 1))
      | some (n, rest) => .ok (if 0xdc00 ≤ n ∧ n < 0xe000 then some (n, rest) else none)
  | _ => .ok none

/-- The code points of a string up to its closing mark; `start` is the place of the opening one.
The number of steps is bounded by the length of the text. -/
def readString (start : Nat) : (steps : Nat) → Cursor → Except Fault (List CodePoint × Cursor)
  | 0, _ => .error (.broken .unterminated start)
  | steps + 1, c =>
    match c.rest with
    | [] => .error (.broken .unterminated start)
    | '"' :: rest => .ok ([], c.next rest)
    | ['\\'] => .error (.broken .unterminated start)
    | '\\' :: 'u' :: rest =>
      match hexFour? rest with
      | none => .error (.broken .hexEscape (c.place + 1))
      | some (n, rest') => do
        let pair ← if 0xd800 ≤ n ∧ n < 0xdc00 then lowSurrogate? (c.place + 6) rest' else .ok none
        let (p, after) := match pair with
          | some (low, rest'') =>
            (CodePoint.ofNumber (0x10000 + (n - 0xd800) * 0x400 + (low - 0xdc00)),
              (⟨c.place + 12, rest''⟩ : Cursor))
          | none => (CodePoint.ofNumber n, ⟨c.place + 6, rest'⟩)
        let (s, c) ← readString start steps after
        return (p :: s, c)
    | '\\' :: e :: rest =>
      match escaped? e with
      | none => .error (.broken .escape c.place)
      | some ch => do
        let (s, c) ← readString start steps ⟨c.place + 2, rest⟩
        return (.char ch :: s, c)
    | ch :: rest =>
      if ch.toNat < 0x20 then .error (.broken .controlCharacter c.place)
      else do
        let (s, c) ← readString start steps (c.next rest)
        return (.char ch :: s, c)

/-- The part of a number after its integer digits: the fraction digits, the exponent if there is
one, and what follows. -/
def readFraction (c : Cursor) : List Char × Cursor :=
  match c.rest with
  | '.' :: d :: rest =>
    if isAsciiDigit d then
      let after : Cursor := ⟨c.place + 1, d :: rest⟩
      ((d :: rest).takeWhile isAsciiDigit, after.skipWhile isAsciiDigit)
    else ([], c)
  | _ => ([], c)

/-- An exponent, if a well-formed one follows. -/
def readExponent (c : Cursor) : Option Int × Cursor :=
  match c.rest with
  | e :: rest =>
    if e = 'e' ∨ e = 'E' then
      let (negative, body) : Bool × Cursor := match rest with
        | '-' :: r => (true, ⟨c.place + 2, r⟩)
        | '+' :: r => (false, ⟨c.place + 2, r⟩)
        | r => (false, ⟨c.place + 1, r⟩)
      match body.rest.takeWhile isAsciiDigit with
      | [] => (none, c)
      | ds =>
        let n : Int := ofDigits ds
        (some (if negative then -n else n), body.skipWhile isAsciiDigit)
    else (none, c)
  | [] => (none, c)

/-- A number: an integer, or a double if it has a fraction or an exponent. -/
def readNumber (c : Cursor) : Except Fault (Value × Cursor) :=
  let (negative, body) : Bool × Cursor := match c.rest with
    | '-' :: rest => (true, c.next rest)
    | _ => (false, c)
  let digits := match body.rest with
    | '0' :: _ => ['0']
    | rest => rest.takeWhile isAsciiDigit
  if digits.isEmpty then .error (.broken .value c.place)
  else
    let body : Cursor := ⟨body.place + digits.length, body.rest.drop digits.length⟩
    let (fraction, body) := readFraction body
    let (exponent, body) := readExponent body
    if fraction.isEmpty && exponent.isNone then
      if maxDigits < digits.length then .error (.tooLong digits.length)
      else
        let n : Int := ofDigits digits
        .ok (.int (if negative then -n else n), body)
    else
      .ok (.double (Binary64.ofDecimal negative (ofDigits (digits ++ fraction))
        (exponent.getD 0 - fraction.length)), body)

/-- A word that stands for a value. -/
def readWord? (c : Cursor) : Option (Value × Cursor) :=
  (c.skipWord? "null").map (Value.null, ·)
    <|> (c.skipWord? "true").map (Value.bool true, ·)
    <|> (c.skipWord? "false").map (Value.bool false, ·)
    <|> (c.skipWord? "NaN").map (Value.double .undefined, ·)
    <|> (c.skipWord? "Infinity").map (Value.double (.infinite false), ·)
    <|> (c.skipWord? "-Infinity").map (Value.double (.infinite true), ·)

mutual

/-- One value; `levels` more lists and objects may lie in one another.  The number of steps is
bounded by the length of the text. -/
def readValue : (steps levels : Nat) → Cursor → Except Fault (Value × Cursor)
  | 0, _, c => .error (.broken .value c.place)
  | steps + 1, levels, c =>
    match c.rest with
    | '"' :: rest => do
      let (s, c) ← readString c.place steps (c.next rest)
      return (.text (RawText.ofPoints s), c)
    | '\x7b' :: rest =>
      match levels with
      | 0 => .error (.tooDeep .object)
      | levels + 1 =>
        let c := (c.next rest).skipBlanks
        match c.rest with
        | '\x7d' :: rest => .ok (.object [], c.next rest)
        | _ => do
          let (fields, c) ← readFields steps levels [] c
          return (.object fields, c)
    | '[' :: rest =>
      match levels with
      | 0 => .error (.tooDeep .list)
      | levels + 1 =>
        let c := (c.next rest).skipBlanks
        match c.rest with
        | ']' :: rest => .ok (.list [], c.next rest)
        | _ => do
          let (items, c) ← readItems steps levels c
          return (.list items, c)
    | _ =>
      match readWord? c with
      | some r => .ok r
      | none => readNumber c

/-- The items of a list up to its closing bracket. -/
def readItems : (steps levels : Nat) → Cursor → Except Fault (List Value × Cursor)
  | 0, _, c => .error (.broken .value c.place)
  | steps + 1, levels, c => do
    let (v, c) ← readValue steps levels c
    let c := c.skipBlanks
    match c.rest with
    | ']' :: rest => return ([v], c.next rest)
    | ',' :: rest =>
      let (vs, c) ← readItems steps levels (c.next rest).skipBlanks
      return (v :: vs, c)
    | _ => .error (.broken .comma c.place)

/-- The fields of an object up to its closing brace, put after those read before. -/
def readFields : (steps levels : Nat) → Fields → Cursor → Except Fault (Fields × Cursor)
  | 0, _, _, c => .error (.broken .value c.place)
  | steps + 1, levels, before, c =>
    match c.rest with
    | '"' :: rest => do
      let (name, c) ← readString c.place steps (c.next rest)
      let c := c.skipBlanks
      match c.rest with
      | ':' :: rest =>
        let (v, c) ← readValue steps levels (c.next rest).skipBlanks
        let c := c.skipBlanks
        let fields := before.put (RawText.ofPoints name) v
        match c.rest with
        | '\x7d' :: rest => return (fields, c.next rest)
        | ',' :: rest => readFields steps levels fields (c.next rest).skipBlanks
        | _ => .error (.broken .comma c.place)
      | _ => .error (.broken .colon c.place)
    | _ => .error (.broken .propertyName c.place)

end

/-- Read a text that holds one value and blanks around it, of at most so many levels. -/
def read (levels : Nat) (s : List Char) : Except Fault Value :=
  match s with
  | '\ufeff' :: _ => .error (.broken .byteOrderMark 0)
  | _ => do
    let (v, c) ← readValue (2 * s.length + 2) levels (Cursor.mk 0 s).skipBlanks
    let c := c.skipBlanks
    if c.rest.isEmpty then return v else .error (.broken .extraData c.place)

/-- The words for a rule. -/
def Rule.words : Rule → String
  | .value => "Expecting value"
  | .propertyName => "Expecting property name enclosed in double quotes"
  | .colon => "Expecting ':' delimiter"
  | .comma => "Expecting ',' delimiter"
  | .extraData => "Extra data"
  | .controlCharacter => "Invalid control character at"
  | .escape => "Invalid \\escape"
  | .hexEscape => "Invalid \\uXXXX escape"
  | .unterminated => "Unterminated string starting at"
  | .byteOrderMark => "Unexpected UTF-8 BOM (decode using utf-8-sig)"

/-- What is said of a fault in a text. -/
def Fault.message (s : List Char) : Fault → String
  | .tooLong digits => tooManyDigits digits
  | .tooDeep kind =>
    "maximum recursion depth exceeded while decoding a JSON " ++
      (if kind = .list then "array" else "object") ++ " from a unicode string"
  | .broken rule place =>
    let before := s.take place
    let line := before.count '\n' + 1
    let column := (before.reverse.takeWhile (· ≠ '\n')).length + 1
    rule.words ++ ": line " ++ integer line ++ " column " ++ integer column ++
      " (char " ++ integer place ++ ")"

end TapeMachine.Json
