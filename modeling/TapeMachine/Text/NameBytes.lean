import TapeMachine.Text.Unencodable
import TapeMachine.Text.Utf8

/-!
# The bytes of names

The names of files are rows of bytes, and as a rule these are UTF-8.  In a text a
byte that is not stands as half a surrogate pair of its own (`escapeByte`), so
that every row of bytes can be shown (`ofNameBytes`).  The other halves stand for
no byte (`nameBytes?`).

Two texts may stand for the same bytes, since halves that stand for the bytes of a
character do as well as the character.  `canonicalName` is the text that
`ofNameBytes` gives.
-/

namespace TapeMachine.Text

/-- The number of the half that stands for a byte, without the byte. -/
def escapeOffset : Nat := 0xdc00

/-- The least byte that is no ASCII character. -/
def leastEscaped : Nat := 0x80

/-- The half that stands for a byte beyond ASCII. -/
def escapeByte (b : UInt8) : CodePoint := .ofNumber (escapeOffset + b.toNat)

/-- The byte for which a half with a number stands. -/
def escapedByte? (n : Nat) : Option UInt8 :=
  if escapeOffset + leastEscaped ≤ n ∧ n < escapeOffset + 0x100 then
    some (UInt8.ofNat (n - escapeOffset))
  else none

namespace CodePoint

/-- The bytes of a code point in a name. -/
def nameBytes? : CodePoint → Option (List UInt8)
  | .char c => some (String.utf8EncodeChar c)
  | p@(.half _) => (escapedByte? p.number).map ([·])

end CodePoint

/-- The bytes of the code points of a name, the first of which stands at place `start`. -/
def nameBytesFrom (start : Nat) : List CodePoint → Except Unencodable (List UInt8)
  | [] => .ok []
  | p :: rest =>
    match p.nameBytes? with
    | some bytes => (nameBytesFrom (start + 1) rest).map (bytes ++ ·)
    | none => .error ⟨start, p :: rest.takeWhile fun q => q.char?.isNone⟩

/-- The code points by which bytes are shown: the characters of which they are the UTF-8, and
halves for those that are none. -/
def ofNameBytes (bytes : List UInt8) : List CodePoint :=
  match bytes with
  | [] => []
  | b :: rest =>
    if b.toNat < leastEscaped then .char (Char.ofNat b.toNat) :: ofNameBytes rest
    else
      match utf8Lead? b.toNat with
      | none => escapeByte b :: ofNameBytes rest
      | some lead =>
        match _h : utf8Tail lead.following lead.low lead.high lead.bits rest with
        | .ok (n, rest') => .char (Char.ofNat n) :: ofNameBytes rest'
        | .error _ => escapeByte b :: ofNameBytes rest
termination_by bytes.length
decreasing_by
  · simp
  · simp
  · have hle : rest'.length ≤ rest.length := length_utf8Tail _h
    simp only [List.length_cons]
    omega
  · simp

namespace RawText

/-- The bytes of a name. -/
def nameBytes (t : RawText) : Except Unencodable (List UInt8) := nameBytesFrom 0 t.points

/-- The number of bytes of a name. -/
def nameLength : RawText → Nat
  | .sound s => s.utf8ByteSize
  | t => (t.nameBytes.toOption.getD []).length

/-- The text by which the bytes of a name are shown. -/
def canonicalName : RawText → Except Unencodable RawText
  | .sound s => .ok (.sound s)
  | t => t.nameBytes.map fun bytes => ofPoints (ofNameBytes bytes)

end RawText

end TapeMachine.Text
