import TapeMachine.Text.CodePoint

/-!
# UTF-8

`decodeUtf8` reads bytes as strict UTF-8.  The first byte of a character says
how many bytes follow it and in which range the first of them lies; the others
lie in `0x80` to `0xbf`.  The first byte or bytes that fit no character are
reported with their place and the rule they break.
-/

namespace TapeMachine.Text

/-- The rule of UTF-8 that some bytes break. -/
inductive Utf8Rule
  | invalidStart
  | invalidContinuation
  | endOfData
  deriving DecidableEq, Repr

/-- Bytes that are not UTF-8: the first of them, where it stands, and how many they are. -/
structure Utf8Fault where
  rule : Utf8Rule
  byte : UInt8
  start : Nat
  count : Nat
  deriving DecidableEq, Repr

/-- What the first byte of a character promises: how many bytes follow, the range of the first of
them, and the bits that the byte itself gives. -/
structure Utf8Lead where
  following : Nat
  low : Nat
  high : Nat
  bits : Nat

/-- The lead of a character of more than one byte. -/
def utf8Lead? (b : Nat) : Option Utf8Lead :=
  if 0xc2 ≤ b ∧ b ≤ 0xdf then some ⟨1, 0x80, 0xbf, b - 0xc0⟩
  else if b = 0xe0 then some ⟨2, 0xa0, 0xbf, 0⟩
  else if b = 0xed then some ⟨2, 0x80, 0x9f, 0xd⟩
  else if 0xe1 ≤ b ∧ b ≤ 0xef then some ⟨2, 0x80, 0xbf, b - 0xe0⟩
  else if b = 0xf0 then some ⟨3, 0x90, 0xbf, 0⟩
  else if 0xf1 ≤ b ∧ b ≤ 0xf3 then some ⟨3, 0x80, 0xbf, b - 0xf0⟩
  else if b = 0xf4 then some ⟨3, 0x80, 0x8f, 4⟩
  else none

/-- Read the bytes that a lead promises: the code point so far grows by six bits with each.  On
failure the rule that is broken and the number of bytes that were good. -/
def utf8Tail : (following low high bits : Nat) → List UInt8 →
    Except (Utf8Rule × Nat) (Nat × List UInt8)
  | 0, _, _, bits, bytes => .ok (bits, bytes)
  | _ + 1, _, _, _, [] => .error (.endOfData, 0)
  | n + 1, low, high, bits, b :: bytes =>
    if low ≤ b.toNat ∧ b.toNat ≤ high then
      match utf8Tail n 0x80 0xbf (64 * bits + (b.toNat - 0x80)) bytes with
      | .ok r => .ok r
      | .error (rule, good) => .error (rule, good + 1)
    else .error (.invalidContinuation, 0)

theorem length_utf8Tail {n low high bits : Nat} {bytes : List UInt8} {r : Nat × List UInt8}
    (h : utf8Tail n low high bits bytes = .ok r) : r.2.length ≤ bytes.length := by
  induction n generalizing low high bits bytes with
  | zero =>
    simp only [utf8Tail, Except.ok.injEq] at h
    subst h
    exact Nat.le_refl _
  | succ n ih =>
    cases bytes with
    | nil => simp [utf8Tail] at h
    | cons b bytes =>
      simp only [utf8Tail] at h
      split at h
      · split at h
        · next r' h' =>
          simp only [Except.ok.injEq] at h
          subst h
          exact Nat.le_succ_of_le (ih h')
        · simp at h
      · simp at h

/-- Decode bytes, the first of which stands at place `start`. -/
def decodeUtf8From (start : Nat) (bytes : List UInt8) : Except Utf8Fault (List Char) :=
  match bytes with
  | [] => .ok []
  | b :: rest =>
    if b.toNat < 0x80 then
      (decodeUtf8From (start + 1) rest).map (Char.ofNat b.toNat :: ·)
    else
      match utf8Lead? b.toNat with
      | none => .error ⟨.invalidStart, b, start, 1⟩
      | some lead =>
        match h : utf8Tail lead.following lead.low lead.high lead.bits rest with
        | .ok (n, rest') =>
          (decodeUtf8From (start + 1 + lead.following) rest').map (Char.ofNat n :: ·)
        | .error (rule, good) => .error ⟨rule, b, start, good + 1⟩
termination_by bytes.length
decreasing_by
  · simp
  · have hle : rest'.length ≤ rest.length := length_utf8Tail h
    simp only [List.length_cons]
    omega

/-- Decode bytes as strict UTF-8. -/
def decodeUtf8 (bytes : List UInt8) : Except Utf8Fault (List Char) := decodeUtf8From 0 bytes

/-- The words for a broken rule. -/
def Utf8Rule.words : Utf8Rule → String
  | .invalidStart => "invalid start byte"
  | .invalidContinuation => "invalid continuation byte"
  | .endOfData => "unexpected end of data"

/-- What is said of bytes that are not UTF-8. -/
def Utf8Fault.message (f : Utf8Fault) : String :=
  let place :=
    if f.count = 1 then
      "byte 0x" ++ String.ofList (hex 2 f.byte.toNat) ++ " in position " ++ integer f.start
    else
      "bytes in position " ++ integer f.start ++ "-" ++ integer (f.start + f.count - 1)
  "'utf-8' codec can't decode " ++ place ++ ": " ++ f.rule.words

end TapeMachine.Text
