import TapeMachine.Value.Basic

/-!
# Operations on unchecked values

Values are compared, subtracted and taken apart without being checked before.
Whole numbers, truth values and doubles are numbers, and equal if they amount to
the same; an operation that does not take the kinds of its values is a `Misuse`.
-/

namespace TapeMachine

open TapeMachine.Text
open TapeMachine.Binary64 (Double)

namespace Value

/-- An operation on values of kinds that it does not take. -/
inductive Misuse
  | notIterable (k : Kind)
  | notComparable (sign : String) (left right : Kind)
  | noOperator (sign : String) (left right : Kind)
  | notJoinable (left right : Kind)
  | notRepeatable (times : Kind)
  | tooManyTimes
  | notGroupable (k : Kind)
  | notHashable (k : Kind)
  | notAnInteger (k : Kind)
  | noPart (k : Kind) (name : String)
  | notText (index : Nat) (k : Kind)
  | tooLargeForDouble
  | aboveWord
  | belowWord
  | beyondLongWord
  | beyondWideWord
  | notCountable (k : Kind)
  | countsForever
  | countsNothing
  deriving DecidableEq, Repr

/-- What is said of a misuse. -/
def Misuse.message : Misuse → String
  | .notIterable k => "'" ++ k.word ++ "' object is not iterable"
  | .notComparable sign left right =>
    "'" ++ sign ++ "' not supported between instances of '" ++ left.word ++ "' and '" ++
      right.word ++ "'"
  | .noOperator sign left right =>
    "unsupported operand type(s) for " ++ sign ++ ": '" ++ left.word ++ "' and '" ++
      right.word ++ "'"
  | .notJoinable left right =>
    "can only concatenate " ++ left.word ++ " (not \"" ++ right.word ++ "\") to " ++ left.word
  | .notRepeatable times => "can't multiply sequence by non-int of type '" ++ times.word ++ "'"
  | .tooManyTimes => "cannot fit 'int' into an index-sized integer"
  | .notGroupable .text => "Cannot specify ',' with 's'."
  | .notGroupable k => "unsupported format string passed to " ++ k.word ++ ".__format__"
  | .notHashable k => "unhashable type: '" ++ k.word ++ "'"
  | .notAnInteger k => "'" ++ k.word ++ "' object cannot be interpreted as an integer"
  | .noPart k name => "'" ++ k.word ++ "' object has no attribute '" ++ name ++ "'"
  | .tooLargeForDouble => "int too large to convert to float"
  | .aboveWord => "signed integer is greater than maximum"
  | .belowWord => "signed integer is less than minimum"
  | .beyondLongWord => "Python int too large to convert to C long"
  | .beyondWideWord => "int too big to convert"
  | .notCountable k => "%d format: a real number is required, not " ++ k.word
  | .countsForever => "cannot convert float infinity to integer"
  | .countsNothing => "cannot convert float NaN to integer"
  | .notText index k =>
    "sequence item " ++ integer index ++ ": expected str instance, " ++ k.word ++ " found"

/-- What a number amounts to, whatever its kind. -/
inductive Amount
  | finite (q : Rat)
  | infinite (negative : Bool)
  | undefined

namespace Amount

/-- Whether one amount is at most another; what is undefined compares with nothing. -/
def le : Amount → Amount → Bool
  | .undefined, _ | _, .undefined => false
  | .finite p, .finite q => p ≤ q
  | .infinite negative, .infinite negative' => negative || !negative'
  | .infinite negative, .finite _ => negative
  | .finite _, .infinite negative => !negative

/-- Whether two amounts are the same. -/
def same (a b : Amount) : Bool := a.le b && b.le a

end Amount

/-- The whole number that a value is; a truth value is one or zero. -/
def whole? : Value → Option Int
  | .int n => some n
  | .bool b => some (if b then 1 else 0)
  | _ => none

/-- What a value amounts to, if it is a number. -/
def amount? : Value → Option Amount
  | .int n => some (.finite n)
  | .bool b => some (.finite (if b then 1 else 0))
  | .double (.finite negative x) => some (.finite (if negative then -x else x))
  | .double (.infinite negative) => some (.infinite negative)
  | .double .undefined => some .undefined
  | _ => none

/-- Whether two numbers amount to the same. -/
def sameAmount (v w : Value) : Bool :=
  match v.amount?, w.amount? with
  | some a, some b => a.same b
  | _, _ => false

/-- Whether two values are both undefined. -/
def bothUndefined : Value → Value → Bool
  | .double .undefined, .double .undefined => true
  | _, _ => false

mutual

/-- Whether two values are equal: numbers if they amount to the same, lists item by item, objects
name by name in any order.  What is undefined equals nothing by itself, but matches in lists and
objects. -/
def same : Value → Value → Bool
  | .int m, .int n => m = n
  | .null, .null => true
  | .text s, .text t => s = t
  | .list vs, .list ws => sameItems vs ws
  | .object fs, .object gs => fs.length = gs.length && sameFields fs gs
  | v, w => v.sameAmount w

/-- Whether two lists have matching items. -/
def sameItems : List Value → List Value → Bool
  | [], [] => true
  | v :: vs, w :: ws => (v.bothUndefined w || v.same w) && sameItems vs ws
  | _, _ => false

/-- Whether every name of some fields has a matching value among others. -/
def sameFields : List (RawText × Value) → List (RawText × Value) → Bool
  | [], _ => true
  | (k, v) :: rest, others =>
    (match Fields.get? others k with
      | some w => v.bothUndefined w || v.same w
      | none => false) && sameFields rest others

end

/-- Whether two values match, as items of lists, parts of configurations and keys do: they are equal
or both undefined. -/
def agrees (v w : Value) : Bool := v.bothUndefined w || v.same w

/-- Whether a value counts as yes: numbers but zero, texts, lists and objects that are not empty. -/
def isTruthy : Value → Bool
  | .null => false
  | .bool b => b
  | .int n => n ≠ 0
  | .double (.finite _ x) => x ≠ 0
  | .double _ => true
  | .text s => !s.isEmpty
  | .list items => !items.isEmpty
  | .object fields => !fields.isEmpty

/-- Whether a number is at least another. -/
def atLeast (v w : Value) : Except Misuse Bool :=
  match v.amount?, w.amount? with
  | some a, some b => .ok (b.le a)
  | _, _ => .error (.notComparable ">=" v.kind w.kind)

mutual

/-- Whether a value is below another: a smaller number, an earlier text, or a list that is smaller
where the two first differ. -/
def lessThan : Value → Value → Except Misuse Bool
  | .text s, .text t => .ok (s.le t && !t.le s)
  | .list vs, .list ws => lessThanItems vs ws
  | v, w =>
    match v.amount?, w.amount? with
    | some a, some b => .ok (a.le b && !b.le a)
    | _, _ => .error (.notComparable "<" v.kind w.kind)

/-- Whether items are below others: the first two that do not match decide, and if there are none
the numbers of items do. -/
def lessThanItems : List Value → List Value → Except Misuse Bool
  | _, [] => .ok false
  | [], _ :: _ => .ok true
  | v :: vs, w :: ws => if v.agrees w then lessThanItems vs ws else v.lessThan w

end

/-- The double nearest to an exact number. -/
def nearestDouble (q : Rat) : Double :=
  let x := Binary64.nearest q
  if Binary64.tooLarge ≤ x.abs then .infinite (x < 0) else .finite (x < 0) x.abs

/-- A number as a double, if the value is one; a whole number may be too large. -/
def asDouble? (v : Value) : Option (Except Misuse Double) :=
  match v with
  | .double x => some (.ok x)
  | v =>
    v.whole?.map fun n =>
      match nearestDouble n with
      | .finite negative x => .ok (.finite negative x)
      | _ => .error .tooLargeForDouble

/-- The opposite of a double. -/
def negate : Double → Double
  | .undefined => .undefined
  | .infinite negative => .infinite (!negative)
  | .finite negative x => .finite (!negative) x

/-- The difference of two doubles; that of two zeros is a negative one if the first is negative and
the second is not. -/
def subtract : Double → Double → Double
  | .undefined, _ | _, .undefined => .undefined
  | .infinite a, .infinite b => if a = b then .undefined else .infinite a
  | .infinite a, .finite .. => .infinite a
  | .finite .., .infinite b => .infinite (!b)
  | .finite a x, .finite b y =>
    if x = 0 ∧ y = 0 then .finite (a && !b) 0
    else nearestDouble ((if a then -x else x) - (if b then -y else y))

/-- The product of two doubles, which is negative if just one of them is. -/
def multiply : Double → Double → Double
  | .undefined, _ | _, .undefined => .undefined
  | .infinite a, .infinite b => .infinite (a != b)
  | .infinite a, .finite b x | .finite a x, .infinite b =>
    if x = 0 then .undefined else .infinite (a != b)
  | .finite a x, .finite b y =>
    match nearestDouble (x * y) with
    | .finite _ z => .finite (a != b) z
    | z => if a = b then z else negate z

/-- The result of an operation on two numbers: a whole one if both are whole, else a double. -/
def arithmetic (sign : String) (whole : Int → Int → Int) (double : Double → Double → Double)
    (v w : Value) : Except Misuse Value :=
  match v.whole?, w.whole? with
  | some m, some n => .ok (.int (whole m n))
  | _, _ =>
    match v.asDouble?, w.asDouble? with
    | some x, some y => do return .double (double (← x) (← y))
    | _, _ => .error (.noOperator sign v.kind w.kind)

/-- The sum of two numbers; a text is put behind a text, and a list behind a list. -/
def plus (v w : Value) : Except Misuse Value :=
  match v, w with
  | .text s, .text t => .ok (.text (s ++ t))
  | .list vs, .list ws => .ok (.list (vs ++ ws))
  | .text _, _ | .list _, _ => .error (.notJoinable v.kind w.kind)
  | _, _ => arithmetic "+" (· + ·) (fun x y => subtract x (negate y)) v w

/-- The difference of two numbers. -/
def minus : Value → Value → Except Misuse Value := arithmetic "-" (· - ·) subtract

/-- The first number beyond the words of 32 bits. -/
def wordLimit : Int := 0x80000000

/-- The first number beyond the words of 64 bits. -/
def longWordLimit : Int := 0x8000000000000000

/-- The number of times that something is repeated: none if it is below zero. -/
def asRepetitions (v : Value) : Except Misuse Nat :=
  match v.whole? with
  | some n =>
    if n < -longWordLimit ∨ longWordLimit ≤ n then .error .tooManyTimes else .ok n.toNat
  | none => .error (.notRepeatable v.kind)

/-- A text so many times. -/
def repeatText (s : Text.RawText) (times : Nat) : Value :=
  .text (.join "" (List.replicate times s))

/-- A list so many times. -/
def repeatItems (vs : List Value) (times : Nat) : Value := .list (List.replicate times vs).flatten

/-- The product of two numbers; a text or a list is repeated a whole number of times. -/
def times (v w : Value) : Except Misuse Value :=
  match v, w with
  | .text s, _ => w.asRepetitions.map (repeatText s)
  | .list vs, _ => w.asRepetitions.map (repeatItems vs)
  | _, .text s => v.asRepetitions.map (repeatText s)
  | _, .list vs => v.asRepetitions.map (repeatItems vs)
  | _, _ => arithmetic "*" (· * ·) multiply v w

/-- A number with commas between groups of three digits before its point. -/
def grouped (v : Value) : Except Misuse (List Char) :=
  match v with
  | .double x =>
    let (sign, digits) := x.text.span (· = '-')
    let (whole, rest) := digits.span isAsciiDigit
    .ok (sign ++ (groupThrees whole.reverse).reverse ++ rest)
  | _ =>
    match v.whole? with
    | some n => .ok (Text.grouped n)
    | none => .error (.notGroupable v.kind)

/-- A value as a number is counted: without its fraction; what is no number stands for itself. -/
def countedChars : Value → List Char
  | .double (.finite negative x) => signed (if negative then -x.floor else x.floor)
  | v =>
    match v.whole? with
    | some n => signed n
    | none => v.plainChars

/-- A value as a number is counted, as a string. -/
def counted (v : Value) : String := String.ofList v.countedChars

/-- Why a value cannot be counted: it is no number, or not a finite one. -/
def countFault? : Value → Option Misuse
  | .double (.infinite _) => some .countsForever
  | .double .undefined => some .countsNothing
  | v => if v.amount?.isSome then none else some (.notCountable v.kind)

/-- The items of a value: those of a list, the characters of a text, the names of an object. -/
def items (v : Value) : Except Misuse (List Value) :=
  match v with
  | .list vs => .ok vs
  | .text s => .ok (s.points.map ofPoint)
  | .object fields => .ok (fields.map fun f => .text f.1)
  | _ => .error (.notIterable v.kind)

theorem items_text (s : String) : (Value.text s).items = .ok (s.toList.map ofSymbol) := by
  simp [items, RawText.points_sound, ofPoint_char]

/-- The index and the kind of the first value that is no text. -/
def firstOther? : (index : Nat) → List Value → Option (Nat × Kind)
  | _, [] => none
  | index, v :: rest =>
    match v with
    | .text _ => firstOther? (index + 1) rest
    | _ => some (index, v.kind)

theorem firstOther?_map_ofSymbol (cs : List Char) (index : Nat) :
    firstOther? index (cs.map ofSymbol) = none := by
  induction cs generalizing index with
  | nil => rfl
  | cons c cs ih => simpa [firstOther?, ofSymbol] using ih (index + 1)

/-- Why values cannot be put together as texts: the first that is no text. -/
def joinFault? (vs : List Value) : Option Misuse :=
  (firstOther? 0 vs).map fun (index, k) => .notText index k

/-- Texts put together. -/
def joinTexts (vs : List Value) : Except Misuse String :=
  match joinFault? vs with
  | some f => .error f
  | none => .ok (String.join (vs.map plain))

theorem join_plain_ofSymbol (cs : List Char) :
    String.join ((cs.map ofSymbol).map plain) = String.ofList cs := by
  induction cs with
  | nil => rfl
  | cons c cs ih =>
    rw [List.map_cons, List.map_cons, String.join_cons, ih]
    apply String.toList_inj.1
    simp [plain, plainChars, ofSymbol, RawText.printed]

theorem joinTexts_ofSymbol (cs : List Char) :
    joinTexts (cs.map ofSymbol) = .ok (String.ofList cs) := by
  simp only [joinTexts, joinFault?, firstOther?_map_ofSymbol, Option.map_none,
    join_plain_ofSymbol]

/-- Refuse a value that cannot be a key, as lists and objects cannot. -/
def asKey (v : Value) : Except Misuse Value :=
  match v with
  | .list _ | .object _ => .error (.notHashable v.kind)
  | _ => .ok v

/-- The whole number that a value is where nothing else will do. -/
def asInteger (v : Value) : Except Misuse Int :=
  match v.whole? with
  | some n => .ok n
  | none => .error (.notAnInteger v.kind)

/-- The whole number that a value is where a word of 32 bits is wanted. -/
def asWord (v : Value) : Except Misuse Int := do
  let n ← v.asInteger
  if n < -longWordLimit ∨ longWordLimit ≤ n then .error .beyondLongWord
  else if wordLimit ≤ n then .error .aboveWord
  else if n < -wordLimit then .error .belowWord
  else return n

/-- The whole number that a value is where a word of 64 bits is wanted. -/
def asLongWord (v : Value) : Except Misuse Int := do
  let n ← v.asInteger
  if n < -longWordLimit ∨ longWordLimit ≤ n then .error .beyondWideWord else return n

@[simp] theorem atLeast_int (m n : Int) :
    (Value.int m).atLeast (.int n) = .ok (decide (n ≤ m)) := by
  simp only [atLeast, amount?, Amount.le, Rat.intCast_le_intCast]

@[simp] theorem lessThan_int (m n : Int) :
    (Value.int m).lessThan (.int n) = .ok (decide (m < n)) := by
  simp only [lessThan, amount?, Amount.le, Rat.intCast_le_intCast]
  congr 1
  rw [Bool.eq_iff_iff]
  simp
  omega

@[simp] theorem plus_int (m n : Int) : (Value.int m).plus (.int n) = .ok (.int (m + n)) := by
  simp [plus, arithmetic, whole?]

@[simp] theorem minus_int (m n : Int) : (Value.int m).minus (.int n) = .ok (.int (m - n)) := by
  simp [minus, arithmetic, whole?]

@[simp] theorem times_int (m n : Int) : (Value.int m).times (.int n) = .ok (.int (m * n)) := by
  simp [times, arithmetic, whole?]

@[simp] theorem countedChars_int (n : Int) : (Value.int n).countedChars = signed n := rfl

@[simp] theorem countFault?_int (n : Int) : (Value.int n).countFault? = none := rfl

@[simp] theorem same_int (m n : Int) : (Value.int m).same (.int n) = decide (m = n) := by
  simp [same]

@[simp] theorem agrees_int (m n : Int) : (Value.int m).agrees (.int n) = decide (m = n) := by
  simp [agrees, bothUndefined]

@[simp] theorem same_ofSymbol (c d : Char) :
    (Value.ofSymbol c).same (.ofSymbol d) = decide (c = d) := by
  have h : String.singleton c = String.singleton d ↔ c = d :=
    ⟨fun h => by simpa using congrArg String.toList h, congrArg String.singleton⟩
  simp only [ofSymbol, same, RawText.sound.injEq, h]

@[simp] theorem agrees_ofSymbol (c d : Char) :
    (Value.ofSymbol c).agrees (.ofSymbol d) = decide (c = d) := by
  rw [agrees, same_ofSymbol]
  rfl

end Value

end TapeMachine
