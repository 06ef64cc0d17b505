import AutomataRequest.Files

/-!
# Valid UTF-8

Bytes are a text if they fall into well-formed sequences, one for each character. The first byte of
a sequence says how many follow, and the byte behind it is bounded once more, so that no code is
written longer than it has to be, none is a surrogate and none is beyond the last. The bytes of a
file are decoded exactly if they are of that form, and then to the one text that they spell.
-/

namespace AutomataRequest

namespace Text.Utf8

/-- A byte behind the first one of a sequence. -/
def Follows (byte : UInt8) : Prop := 0x80 ≤ byte.toNat ∧ byte.toNat ≤ 0xBF

/-- The well-formed sequences, each with the code it stands for. -/
inductive Sequence (code : Nat) : List UInt8 → Prop
  | one {first : UInt8} (opens : first.toNat ≤ 0x7F) (isCode : code = first.toNat) :
      Sequence code [first]
  | two {first second : UInt8} (opens : 0xC2 ≤ first.toNat ∧ first.toNat ≤ 0xDF)
      (follows : Follows second)
      (isCode : code = (first.toNat - 0xC0) * 64 + (second.toNat - 0x80)) :
      Sequence code [first, second]
  | three {first second third : UInt8} (opens : 0xE0 ≤ first.toNat ∧ first.toNat ≤ 0xEF)
      (follows : Follows second) (notLong : first.toNat = 0xE0 → 0xA0 ≤ second.toNat)
      (noSurrogate : first.toNat = 0xED → second.toNat ≤ 0x9F) (follows' : Follows third)
      (isCode : code = (first.toNat - 0xE0) * 4096 + (second.toNat - 0x80) * 64 +
        (third.toNat - 0x80)) :
      Sequence code [first, second, third]
  | four {first second third fourth : UInt8} (opens : 0xF0 ≤ first.toNat ∧ first.toNat ≤ 0xF4)
      (follows : Follows second) (notLong : first.toNat = 0xF0 → 0x90 ≤ second.toNat)
      (notBeyond : first.toNat = 0xF4 → second.toNat ≤ 0x8F) (follows' : Follows third)
      (follows'' : Follows fourth)
      (isCode : code = (first.toNat - 0xF0) * 262144 + (second.toNat - 0x80) * 4096 +
        (third.toNat - 0x80) * 64 + (fourth.toNat - 0x80)) :
      Sequence code [first, second, third, fourth]

inductive WellFormed : List UInt8 → Prop
  | nil : WellFormed []
  | append {code : Nat} {bytes rest : List UInt8} (sequence : Sequence code bytes)
      (more : WellFormed rest) : WellFormed (bytes ++ rest)

/-- The characters of the sequences that the bytes fall into. -/
inductive Spells : List UInt8 → List Char → Prop
  | nil : Spells [] []
  | append {char : Char} {bytes rest : List UInt8} {chars : List Char}
      (sequence : Sequence char.toNat bytes) (more : Spells rest chars) :
      Spells (bytes ++ rest) (char :: chars)

/-- The bounds of the table leave out what is no character. -/
theorem valid_of_sequence {code : Nat} {bytes : List UInt8} (sequence : Sequence code bytes) :
    code.isValidChar := by
  unfold Nat.isValidChar
  cases sequence with
  | one opens isCode => omega
  | two opens follows isCode =>
      unfold Follows at follows
      omega
  | three opens follows notLong noSurrogate follows' isCode =>
      unfold Follows at follows follows'
      omega
  | four opens follows notLong notBeyond follows' follows'' isCode =>
      unfold Follows at follows follows' follows''
      omega

theorem byte_of_nat (value : Nat) (isByte : value < 256) : (UInt8.ofNat value).toNat = value := by
  rw [UInt8.toNat_ofNat', Nat.mod_eq_of_lt isByte]

theorem byte_eq_of_nat (byte : UInt8) {value : Nat} (same : byte.toNat = value) :
    UInt8.ofNat value = byte := by
  rw [← same, UInt8.ofNat_toNat]

/-- The encoder writes sequences of the table. -/
theorem sequence_of_encode (char : Char) :
    Sequence char.toNat (String.utf8EncodeChar char) := by
  have isChar : char.toNat.isValidChar := char.valid
  have sameCode : char.val.toNat = char.toNat := rfl
  unfold Nat.isValidChar at isChar
  simp only [String.utf8EncodeChar, sameCode]
  generalize char.toNat = code at isChar ⊢
  have last := byte_of_nat (code % 64 + 128) (by omega)
  have last' := byte_of_nat (code / 64 % 64 + 128) (by omega)
  have last'' := byte_of_nat (code / 4096 % 64 + 128) (by omega)
  by_cases oneByte : code ≤ 0x7F
  · rw [if_pos oneByte]
    have first := byte_of_nat code (by omega)
    exact .one (by omega) (by omega)
  by_cases twoBytes : code ≤ 0x7FF
  · rw [if_neg oneByte, if_pos twoBytes]
    have first := byte_of_nat (code / 64 % 32 + 192) (by omega)
    exact .two (by omega) ⟨by omega, by omega⟩ (by omega)
  by_cases threeBytes : code ≤ 0xFFFF
  · rw [if_neg oneByte, if_neg twoBytes, if_pos threeBytes]
    have first := byte_of_nat (code / 4096 % 16 + 224) (by omega)
    exact .three (by omega) ⟨by omega, by omega⟩ (by omega) (by omega) ⟨by omega, by omega⟩
      (by omega)
  · rw [if_neg oneByte, if_neg twoBytes, if_neg threeBytes]
    have first := byte_of_nat (code / 262144 % 8 + 240) (by omega)
    exact .four (by omega) ⟨by omega, by omega⟩ (by omega) (by omega) ⟨by omega, by omega⟩
      ⟨by omega, by omega⟩ (by omega)

/-- A sequence of the table is what the encoder writes for its character. -/
theorem encode_of_sequence {char : Char} {bytes : List UInt8}
    (sequence : Sequence char.toNat bytes) : String.utf8EncodeChar char = bytes := by
  have sameCode : char.val.toNat = char.toNat := rfl
  simp only [String.utf8EncodeChar, sameCode]
  generalize char.toNat = code at sequence ⊢
  cases sequence with
  | @one first opens isCode =>
      rw [if_pos (by omega), byte_eq_of_nat first (by omega)]
  | @two first second opens follows isCode =>
      unfold Follows at follows
      rw [if_neg (by omega), if_pos (by omega), byte_eq_of_nat first (by omega),
        byte_eq_of_nat second (by omega)]
  | @three first second third opens follows notLong noSurrogate follows' isCode =>
      unfold Follows at follows follows'
      rw [if_neg (by omega), if_neg (by omega), if_pos (by omega),
        byte_eq_of_nat first (by omega), byte_eq_of_nat second (by omega),
        byte_eq_of_nat third (by omega)]
  | @four first second third fourth opens follows notLong notBeyond follows' follows'' isCode =>
      unfold Follows at follows follows' follows''
      rw [if_neg (by omega), if_neg (by omega), if_neg (by omega),
        byte_eq_of_nat first (by omega), byte_eq_of_nat second (by omega),
        byte_eq_of_nat third (by omega), byte_eq_of_nat fourth (by omega)]

theorem spells_iff_encoded (bytes : List UInt8) (chars : List Char) :
    Spells bytes chars ↔ chars.flatMap String.utf8EncodeChar = bytes := by
  constructor
  · intro spelled
    induction spelled with
    | nil => rfl
    | append sequence more induction =>
        rw [List.flatMap_cons, encode_of_sequence sequence, induction]
  · intro encoded
    induction chars generalizing bytes with
    | nil =>
        subst encoded
        exact .nil
    | cons char chars induction =>
        subst encoded
        rw [List.flatMap_cons]
        exact .append (sequence_of_encode char) (induction _ rfl)

/-- Bytes by the table are those of some text. -/
theorem well_formed_iff_spells (bytes : List UInt8) :
    WellFormed bytes ↔ ∃ chars, Spells bytes chars := by
  constructor
  · intro wellFormed
    induction wellFormed with
    | nil => exact ⟨[], .nil⟩
    | @append code bytes rest sequence more induction =>
        obtain ⟨chars, spelled⟩ := induction
        have isChar := valid_of_sequence sequence
        exact ⟨Char.ofNatAux code isChar :: chars, .append sequence spelled⟩
  · rintro ⟨chars, spelled⟩
    induction spelled with
    | nil => exact .nil
    | append sequence more induction => exact .append sequence induction

end Text.Utf8

theorem decode_text_ok_iff_encoded (bytes : ByteArray) (text : String) :
    decodeText bytes = .ok text ↔ text.toUTF8 = bytes := by
  unfold decodeText String.fromUTF8?
  by_cases isValid : bytes.IsValidUTF8
  · rw [dif_pos isValid]
    constructor
    · intro decoded
      cases decoded
      rfl
    · rintro rfl
      rfl
  · rw [dif_neg isValid]
    constructor
    · intro decoded
      cases decoded
    · rintro rfl
      exact absurd text.isValidUTF8 isValid

theorem decode_text_of_utf8 (text : String) : decodeText text.toUTF8 = .ok text :=
  (decode_text_ok_iff_encoded _ _).mpr rfl

/-- The bytes of a text, one character after the other. -/
theorem utf8_bytes (text : String) :
    text.toUTF8.data.toList = text.toList.flatMap String.utf8EncodeChar := by
  have encoded : text.toUTF8 = text.toList.utf8Encode := String.utf8Encode_toList.symm
  rw [encoded, List.utf8Encode, List.toList_data_toByteArray]

/-- Bytes are decoded to the text that they spell. -/
theorem decode_text_ok_iff (bytes : ByteArray) (text : String) :
    decodeText bytes = .ok text ↔ Text.Utf8.Spells bytes.data.toList text.toList := by
  rw [decode_text_ok_iff_encoded, Text.Utf8.spells_iff_encoded, ← utf8_bytes]
  constructor
  · rintro rfl
    rfl
  · intro same
    exact ByteArray.ext (Array.toList_inj.mp same)

/-- Bytes are refused if they spell no text. -/
theorem decode_text_error_iff (bytes : ByteArray) (cause : ReadFault) :
    decodeText bytes = .error cause ↔
      cause = .notText ∧ ¬Text.Utf8.WellFormed bytes.data.toList := by
  cases decoded : decodeText bytes with
  | ok text =>
      have spelled := (decode_text_ok_iff bytes text).mp decoded
      have wellFormed : Text.Utf8.WellFormed bytes.data.toList :=
        (Text.Utf8.well_formed_iff_spells _).mpr ⟨_, spelled⟩
      simp [wellFormed]
  | error found =>
      have isNotText : found = .notText := by
        unfold decodeText at decoded
        split at decoded
        · cases decoded
        · cases decoded
          rfl
      have notWellFormed : ¬Text.Utf8.WellFormed bytes.data.toList := by
        intro wellFormed
        obtain ⟨chars, spelled⟩ := (Text.Utf8.well_formed_iff_spells _).mp wellFormed
        rw [← String.toList_ofList (l := chars), ← decode_text_ok_iff, decoded] at spelled
        cases spelled
      simp [isNotText, notWellFormed, eq_comm]

end AutomataRequest
