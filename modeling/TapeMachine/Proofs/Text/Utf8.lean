import Mathlib.Data.List.Basic
import TapeMachine.Proofs.Result
import TapeMachine.Text.Utf8

/-!
# Bytes and texts

The bytes of a text are its UTF-8, character after character.  They are read back as that text
(`decodeUtf8From_utf8`), and nothing but the bytes of a text is read (`decodeUtf8_eq_ok_iff`).

A character beyond ASCII is read by a lead and the bytes that it promises (`BeginsCharacter`), which
are the bytes of that character (`BeginsCharacter.eq_append`, `exists_beginsCharacter`).
-/

namespace TapeMachine.Text

variable {b : UInt8} {rest rest' bytes : List UInt8} {n low high bits : Nat}

/-! ### The bytes of a character -/

theorem toNat_ofNat (h : n.isValidChar) : (Char.ofNat n).val.toNat = n := by
  rw [Char.ofNat, dif_pos h]
  rfl

theorem utf8EncodeChar_two (h : n.isValidChar) (hlow : 0x80 ≤ n) (hhigh : n < 0x800) :
    String.utf8EncodeChar (Char.ofNat n)
      = [UInt8.ofNat (n / 64 + 0xc0), UInt8.ofNat (n % 64 + 0x80)] := by
  have hbits : n / 64 % 32 = n / 64 := Nat.mod_eq_of_lt (by omega)
  simp only [String.utf8EncodeChar, toNat_ofNat h]
  rw [if_neg (by omega), if_pos (by omega), hbits]

theorem utf8EncodeChar_three (h : n.isValidChar) (hlow : 0x800 ≤ n) (hhigh : n < 0x10000) :
    String.utf8EncodeChar (Char.ofNat n)
      = [UInt8.ofNat (n / 4096 + 0xe0), UInt8.ofNat (n / 64 % 64 + 0x80),
          UInt8.ofNat (n % 64 + 0x80)] := by
  have hbits : n / 4096 % 16 = n / 4096 := Nat.mod_eq_of_lt (by omega)
  simp only [String.utf8EncodeChar, toNat_ofNat h]
  rw [if_neg (by omega), if_neg (by omega), if_pos (by omega), hbits]

theorem utf8EncodeChar_four (h : n.isValidChar) (hlow : 0x10000 ≤ n) :
    String.utf8EncodeChar (Char.ofNat n)
      = [UInt8.ofNat (n / 262144 + 0xf0), UInt8.ofNat (n / 4096 % 64 + 0x80),
          UInt8.ofNat (n / 64 % 64 + 0x80), UInt8.ofNat (n % 64 + 0x80)] := by
  have hhigh : n < 0x110000 := by
    rcases h with h | ⟨-, h⟩
    · omega
    · exact h
  have hbits : n / 262144 % 8 = n / 262144 := Nat.mod_eq_of_lt (by omega)
  simp only [String.utf8EncodeChar, toNat_ofNat h]
  rw [if_neg (by omega), if_neg (by omega), if_neg (by omega), hbits]

/-! ### The first byte -/

/-- The first byte of a character beyond ASCII, and what it promises.  The range of the byte behind
it keeps out longer forms of a character, halves of surrogate pairs, and numbers beyond all
characters. -/
inductive Leads (b : Nat) : Utf8Lead → Prop
  | two (h : 0xc2 ≤ b) (h' : b < 0xe0) : Leads b ⟨1, 0x80, 0xbf, b - 0xc0⟩
  | three (h : 0xe0 ≤ b) (h' : b < 0xf0) :
    Leads b ⟨2, if b = 0xe0 then 0xa0 else 0x80, if b = 0xed then 0x9f else 0xbf, b - 0xe0⟩
  | four (h : 0xf0 ≤ b) (h' : b < 0xf5) :
    Leads b ⟨3, if b = 0xf0 then 0x90 else 0x80, if b = 0xf4 then 0x8f else 0xbf, b - 0xf0⟩

theorem utf8Lead?_eq_some_iff {b : Nat} {lead : Utf8Lead} :
    utf8Lead? b = some lead ↔ Leads b lead := by
  constructor
  · intro h
    unfold utf8Lead? at h
    split_ifs at h with h₂ he0 hed h₃ hf0 h₄ hf4 <;> obtain rfl := Option.some.inj h
    · exact .two h₂.1 (Nat.lt_succ_of_le h₂.2)
    · subst he0
      exact .three (by decide) (by decide)
    · subst hed
      exact .three (by decide) (by decide)
    · have hlead := Leads.three (b := b) (by omega) (by omega)
      rwa [if_neg he0, if_neg hed] at hlead
    · subst hf0
      exact .four (by decide) (by decide)
    · have hlead := Leads.four (b := b) (by omega) (by omega)
      rwa [if_neg hf0, if_neg (by omega)] at hlead
    · subst hf4
      exact .four (by decide) (by decide)
  · intro h
    unfold utf8Lead?
    cases h with
    | two h h' => rw [if_pos (by omega)]
    | three h h' =>
      rw [if_neg (by omega)]
      by_cases he0 : b = 0xe0
      · subst he0
        rfl
      by_cases hed : b = 0xed
      · subst hed
        rfl
      rw [if_neg he0, if_neg hed, if_pos (by omega), if_neg he0, if_neg hed]
    | four h h' =>
      rw [if_neg (by omega), if_neg (by omega), if_neg (by omega), if_neg (by omega)]
      by_cases hf0 : b = 0xf0
      · subst hf0
        rfl
      by_cases hf4 : b = 0xf4
      · subst hf4
        rfl
      rw [if_neg hf0, if_pos (by omega), if_neg hf0, if_neg hf4]

/-! ### One character -/

theorem utf8Tail_zero_eq_ok_iff {r : Nat × List UInt8} :
    utf8Tail 0 low high bits bytes = .ok r ↔ (bits, bytes) = r := by
  rw [utf8Tail, Except.ok.injEq]

theorem utf8Tail_succ_eq_ok_iff {r : Nat × List UInt8} :
    utf8Tail (n + 1) low high bits bytes = .ok r ↔
      ∃ b rest, bytes = b :: rest ∧ (low ≤ b.toNat ∧ b.toNat ≤ high) ∧
        utf8Tail n 0x80 0xbf (64 * bits + (b.toNat - 0x80)) rest = .ok r := by
  cases bytes with
  | nil => simp [utf8Tail]
  | cons b rest =>
    rw [utf8Tail]
    by_cases h : low ≤ b.toNat ∧ b.toNat ≤ high
    · rw [if_pos h]
      constructor
      · intro hr
        refine ⟨b, rest, rfl, h, ?_⟩
        split at hr
        · next r' htail => rw [htail, hr]
        · cases hr
      · rintro ⟨b', rest', heq, -, htail⟩
        obtain ⟨rfl, rfl⟩ := List.cons.inj heq
        rw [htail]
    · rw [if_neg h]
      constructor
      · intro he
        cases he
      · rintro ⟨b', rest', heq, h', -⟩
        obtain ⟨rfl, -⟩ := List.cons.inj heq
        exact absurd h' h

/-- Bytes hold what the first of them promises, the number of a character, and then others. -/
def BeginsCharacter (b : UInt8) (rest : List UInt8) (n : Nat) (rest' : List UInt8) : Prop :=
  ∃ lead, Leads b.toNat lead ∧
    utf8Tail lead.following lead.low lead.high lead.bits rest = .ok (n, rest')

theorem eq_byte_of_toNat (h : b.toNat = n) : b = UInt8.ofNat n := by
  rw [← h, UInt8.ofNat_toNat]

theorem toNat_byte (h : n < 0x100) : (UInt8.ofNat n).toNat = n := by
  rw [UInt8.toNat_ofNat']
  exact Nat.mod_eq_of_lt h

/-- **What a first byte promises is a character**, and the bytes are those of the character. -/
theorem BeginsCharacter.eq_append (h : BeginsCharacter b rest n rest') :
    n.isValidChar ∧ 0x80 ≤ n ∧ b :: rest = String.utf8EncodeChar (Char.ofNat n) ++ rest' := by
  obtain ⟨lead, hlead, htail⟩ := h
  cases hlead with
  | two h h' =>
    simp only [utf8Tail_succ_eq_ok_iff, utf8Tail_zero_eq_ok_iff, Prod.mk.injEq] at htail
    obtain ⟨c, _, rfl, hc, rfl, rfl⟩ := htail
    have hvalid : (64 * (b.toNat - 0xc0) + (c.toNat - 0x80)).isValidChar := .inl (by omega)
    refine ⟨hvalid, by omega, ?_⟩
    rw [utf8EncodeChar_two hvalid (by omega) (by omega)]
    refine congrArg₂ List.cons (eq_byte_of_toNat ?_)
      (congrArg₂ List.cons (eq_byte_of_toNat ?_) rfl) <;> omega
  | three h h' =>
    simp only [utf8Tail_succ_eq_ok_iff, utf8Tail_zero_eq_ok_iff, Prod.mk.injEq] at htail
    obtain ⟨c, _, rfl, hc, d, _, rfl, hd, rfl, rfl⟩ := htail
    have hrange : 0x80 ≤ c.toNat ∧ c.toNat ≤ 0xbf ∧ (b.toNat = 0xe0 → 0xa0 ≤ c.toNat) ∧
        (b.toNat = 0xed → c.toNat ≤ 0x9f) := by
      split_ifs at hc <;> omega
    have hvalid :
        (64 * (64 * (b.toNat - 0xe0) + (c.toNat - 0x80)) + (d.toNat - 0x80)).isValidChar := by
      unfold Nat.isValidChar
      omega
    refine ⟨hvalid, by omega, ?_⟩
    rw [utf8EncodeChar_three hvalid (by omega) (by omega)]
    refine congrArg₂ List.cons (eq_byte_of_toNat ?_) (congrArg₂ List.cons (eq_byte_of_toNat ?_)
      (congrArg₂ List.cons (eq_byte_of_toNat ?_) rfl)) <;> omega
  | four h h' =>
    simp only [utf8Tail_succ_eq_ok_iff, utf8Tail_zero_eq_ok_iff, Prod.mk.injEq] at htail
    obtain ⟨c, _, rfl, hc, d, _, rfl, hd, e, _, rfl, he, rfl, rfl⟩ := htail
    have hrange : 0x80 ≤ c.toNat ∧ c.toNat ≤ 0xbf ∧ (b.toNat = 0xf0 → 0x90 ≤ c.toNat) ∧
        (b.toNat = 0xf4 → c.toNat ≤ 0x8f) := by
      split_ifs at hc <;> omega
    have hvalid : (64 * (64 * (64 * (b.toNat - 0xf0) + (c.toNat - 0x80)) + (d.toNat - 0x80)) +
        (e.toNat - 0x80)).isValidChar := by
      unfold Nat.isValidChar
      omega
    refine ⟨hvalid, by omega, ?_⟩
    rw [utf8EncodeChar_four hvalid (by omega)]
    refine congrArg₂ List.cons (eq_byte_of_toNat ?_) (congrArg₂ List.cons (eq_byte_of_toNat ?_)
      (congrArg₂ List.cons (eq_byte_of_toNat ?_) (congrArg₂ List.cons (eq_byte_of_toNat ?_) rfl)))
      <;> omega

/-- The bytes of a character beyond ASCII are what the first of them promises. -/
theorem exists_beginsCharacter (h : n.isValidChar) (hn : 0x80 ≤ n) (rest : List UInt8) :
    ∃ b tail, String.utf8EncodeChar (Char.ofNat n) = b :: tail ∧ 0x80 ≤ b.toNat ∧
      BeginsCharacter b (tail ++ rest) n rest := by
  by_cases h₂ : n < 0x800
  · refine ⟨_, _, utf8EncodeChar_two h hn h₂, ?_⟩
    have hb : (UInt8.ofNat (n / 64 + 0xc0)).toNat = n / 64 + 0xc0 := toNat_byte (by omega)
    have hc : (UInt8.ofNat (n % 64 + 0x80)).toNat = n % 64 + 0x80 := toNat_byte (by omega)
    refine ⟨by omega, _, .two (by omega) (by omega), ?_⟩
    simp only [utf8Tail_succ_eq_ok_iff, utf8Tail_zero_eq_ok_iff, Prod.mk.injEq]
    exact ⟨_, _, rfl, by omega, by omega, rfl⟩
  by_cases h₃ : n < 0x10000
  · refine ⟨_, _, utf8EncodeChar_three h (by omega) h₃, ?_⟩
    have hb : (UInt8.ofNat (n / 4096 + 0xe0)).toNat = n / 4096 + 0xe0 := toNat_byte (by omega)
    have hc : (UInt8.ofNat (n / 64 % 64 + 0x80)).toNat = n / 64 % 64 + 0x80 :=
      toNat_byte (by omega)
    have hd : (UInt8.ofNat (n % 64 + 0x80)).toNat = n % 64 + 0x80 := toNat_byte (by omega)
    refine ⟨by omega, _, .three (by omega) (by omega), ?_⟩
    simp only [utf8Tail_succ_eq_ok_iff, utf8Tail_zero_eq_ok_iff, Prod.mk.injEq]
    unfold Nat.isValidChar at h
    exact ⟨_, _, rfl, by split_ifs <;> omega, _, _, rfl, by omega, by omega, rfl⟩
  · refine ⟨_, _, utf8EncodeChar_four h (by omega), ?_⟩
    have hhigh : n < 0x110000 := by
      unfold Nat.isValidChar at h
      omega
    have hb : (UInt8.ofNat (n / 262144 + 0xf0)).toNat = n / 262144 + 0xf0 :=
      toNat_byte (by omega)
    have hc : (UInt8.ofNat (n / 4096 % 64 + 0x80)).toNat = n / 4096 % 64 + 0x80 :=
      toNat_byte (by omega)
    have hd : (UInt8.ofNat (n / 64 % 64 + 0x80)).toNat = n / 64 % 64 + 0x80 :=
      toNat_byte (by omega)
    have he : (UInt8.ofNat (n % 64 + 0x80)).toNat = n % 64 + 0x80 := toNat_byte (by omega)
    refine ⟨by omega, _, .four (by omega) (by omega), ?_⟩
    simp only [utf8Tail_succ_eq_ok_iff, utf8Tail_zero_eq_ok_iff, Prod.mk.injEq]
    exact ⟨_, _, rfl, by split_ifs <;> omega, _, _, rfl, by omega, _, _, rfl, by omega, by omega,
      rfl⟩

/-! ### Texts -/

/-- The bytes of characters. -/
def utf8 (cs : List Char) : List UInt8 := cs.flatMap String.utf8EncodeChar

@[simp] theorem utf8_nil : utf8 [] = [] := rfl

@[simp] theorem utf8_cons (c : Char) (cs : List Char) :
    utf8 (c :: cs) = String.utf8EncodeChar c ++ utf8 cs := rfl

theorem utf8EncodeChar_ascii {c : Char} (h : c.toNat < 0x80) :
    String.utf8EncodeChar c = [UInt8.ofNat c.toNat] := by
  have hval : c.val.toNat ≤ 127 := Nat.le_of_lt_succ h
  simp only [String.utf8EncodeChar]
  rw [if_pos hval]
  rfl

theorem utf8_ascii {cs : List Char} (h : cs.all fun c => c.toNat < 0x80) :
    utf8 cs = cs.map fun c => c.toNat.toUInt8 := by
  induction cs with
  | nil => rfl
  | cons c cs ih =>
    simp only [List.all_cons, Bool.and_eq_true, decide_eq_true_eq] at h
    rw [utf8_cons, utf8EncodeChar_ascii h.1, ih h.2, List.map_cons]
    rfl

theorem decodeUtf8From_of_beginsCharacter (start : Nat) (hb : 0x80 ≤ b.toNat)
    (h : BeginsCharacter b rest n rest') : ∃ start',
      decodeUtf8From start (b :: rest)
        = (decodeUtf8From start' rest').map (Char.ofNat n :: ·) := by
  obtain ⟨lead, hlead, htail⟩ := h
  refine ⟨start + 1 + lead.following, ?_⟩
  rw [decodeUtf8From, if_neg (by omega), utf8Lead?_eq_some_iff.2 hlead]
  dsimp only
  split
  · next n' rest'' heq =>
    obtain ⟨rfl, rfl⟩ := Prod.mk.inj (Except.ok.inj (htail.symm.trans heq))
    rfl
  · next heq =>
    rw [htail] at heq
    cases heq

/-- **A text is read back from its bytes.** -/
theorem decodeUtf8From_utf8 (cs : List Char) (start : Nat) :
    decodeUtf8From start (utf8 cs) = .ok cs := by
  induction cs generalizing start with
  | nil => rw [utf8_nil, decodeUtf8From]
  | cons c cs ih =>
    by_cases hc : c.toNat < 0x80
    · have hbyte : (UInt8.ofNat c.toNat).toNat = c.toNat := toNat_byte (by omega)
      rw [utf8_cons, utf8EncodeChar_ascii hc, List.singleton_append, decodeUtf8From, hbyte,
        if_pos hc, ih, Char.ofNat_toNat]
      rfl
    · obtain ⟨b, tail, hbytes, hb, hbegins⟩ :=
        exists_beginsCharacter c.valid (Nat.le_of_not_lt hc) (utf8 cs)
      obtain ⟨start', hread⟩ := decodeUtf8From_of_beginsCharacter start hb hbegins
      have hchar : Char.ofNat c.val.toNat = c := Char.ofNat_toNat c
      rw [hchar] at hbytes hread
      rw [utf8_cons, hbytes, List.cons_append, hread, ih]
      rfl

/-- What is read has the bytes that it was read from. -/
theorem eq_utf8_of_decodeUtf8From {start : Nat} {cs : List Char}
    (h : decodeUtf8From start bytes = .ok cs) : bytes = utf8 cs := by
  fun_induction decodeUtf8From start bytes generalizing cs with
  | case1 =>
    obtain rfl := Except.ok.inj h
    rfl
  | case2 start b rest hb ih =>
    obtain ⟨cs, hcs, rfl⟩ := map_eq_ok_iff.1 h
    have hvalid : b.toNat.isValidChar := .inl (by omega)
    have hchar : (Char.ofNat b.toNat).toNat = b.toNat := toNat_ofNat hvalid
    have hascii : (Char.ofNat b.toNat).toNat < 0x80 := by rwa [hchar]
    rw [utf8_cons, utf8EncodeChar_ascii hascii, hchar, UInt8.ofNat_toNat, ← ih hcs]
    rfl
  | case3 => contradiction
  | case4 start b rest hb lead hlead n rest' htail ih =>
    obtain ⟨cs, hcs, rfl⟩ := map_eq_ok_iff.1 h
    have hbegins : BeginsCharacter b rest n rest' := ⟨lead, utf8Lead?_eq_some_iff.1 hlead, htail⟩
    obtain ⟨-, -, heq⟩ := hbegins.eq_append
    rw [heq, utf8_cons, ih hcs]
  | case5 => contradiction

/-- **What is read is a text if and only if it is its bytes that are read.** -/
theorem decodeUtf8_eq_ok_iff {cs : List Char} : decodeUtf8 bytes = .ok cs ↔ bytes = utf8 cs :=
  ⟨eq_utf8_of_decodeUtf8From, fun h => h ▸ decodeUtf8From_utf8 cs 0⟩

theorem data_toUTF8 (s : String) : s.toUTF8.data.toList = utf8 s.toList := by
  have h : s.toUTF8 = s.toList.utf8Encode := String.utf8Encode_toList.symm
  rw [h, List.utf8Encode, List.toList_data_toByteArray]
  rfl

end TapeMachine.Text
