import TapeMachine.Program.Text
import TapeMachine.Proofs.Text.Utf8

/-!
# Programs in files

A file of a program holds bytes.  Reading them is reading the text whose UTF-8 they are
(`Program.ofBytes_reads_text`): that every line break becomes a line feed on the way makes no
difference to the lines, so the program is the same, and so is what is said of a text that is none.
-/

namespace TapeMachine.Program

open TapeMachine.Text

theorem ofBytes_utf8 (cs : List Char) :
    ofBytes (utf8 cs) = (ofLines (splitLines cs)).mapError .malformed := by
  rw [ofBytes, decodeUtf8_eq_ok_iff.2 rfl]
  dsimp only
  rw [splitLines_unifyBreaks]

theorem ofBytes_eq_encoding_iff {bytes : List UInt8} :
    (∃ f, ofBytes bytes = .error (.encoding f)) ↔ ¬ ∃ cs, bytes = utf8 cs := by
  constructor
  · rintro ⟨f, h⟩ ⟨cs, rfl⟩
    rw [ofBytes_utf8, mapError_eq_error_iff] at h
    obtain ⟨_, -, hf⟩ := h
    cases hf
  · intro h
    cases hread : decodeUtf8 bytes with
    | error f => exact ⟨f, by rw [ofBytes, hread]⟩
    | ok cs => exact absurd ⟨cs, decodeUtf8_eq_ok_iff.1 hread⟩ h

/-- **Reading the bytes of a text is reading the text**, with the line breaks that it has: the same
program comes of it, or the same fault of the same line.  Bytes that are refused for their encoding
are the bytes of no text. -/
theorem ofBytes_reads_text :
    (∀ text : String, ofBytes text.toUTF8.data.toList = (ofText text).mapError .malformed) ∧
    ∀ bytes : List UInt8, (∃ f, ofBytes bytes = .error (.encoding f)) ↔
      ¬ ∃ text : String, text.toUTF8.data.toList = bytes := by
  constructor
  · intro text
    rw [data_toUTF8, ofBytes_utf8, ofText]
  · intro bytes
    rw [ofBytes_eq_encoding_iff, not_iff_not]
    constructor
    · rintro ⟨cs, rfl⟩
      exact ⟨String.ofList cs, by rw [data_toUTF8, String.toList_ofList]⟩
    · rintro ⟨text, rfl⟩
      exact ⟨text.toList, data_toUTF8 text⟩

end TapeMachine.Program
