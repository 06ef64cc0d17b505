import AutomataRequest.Json.Text
import AutomataRequest.Number.Decimal
import AutomataRequest.Text.Quoted
import Mathlib.Tactic.SplitIfs

/-!
# Texts without control characters

A control character can end a line or steer a terminal. A quoted text has none, whatever was
quoted; digits have none; and a JSON string has none unless one that JSON does not escape, the
delete character, was in the text.
-/

namespace AutomataRequest.Text

/-- The ASCII characters below the space, and the delete character. -/
def IsControl (char : Char) : Prop := char.toNat < 0x20 ∨ char.toNat = 0x7F

instance (char : Char) : Decidable (IsControl char) :=
  inferInstanceAs (Decidable (char.toNat < 0x20 ∨ char.toNat = 0x7F))

def IsControlFree (chars : List Char) : Prop := ∀ char ∈ chars, ¬IsControl char

instance (chars : List Char) : Decidable (IsControlFree chars) :=
  List.decidableBAll (fun char : Char => ¬IsControl char) chars

/-- No character of the text is a control character. -/
abbrev ControlFree (text : String) : Prop := IsControlFree text.toList

theorem control_free_append_chars {first second : List Char} (firstFree : IsControlFree first)
    (secondFree : IsControlFree second) : IsControlFree (first ++ second) :=
  List.forall_mem_append.mpr ⟨firstFree, secondFree⟩

theorem control_free_flat_map {Item : Type} {items : List Item} {chars : Item → List Char}
    (free : ∀ item ∈ items, IsControlFree (chars item)) : IsControlFree (items.flatMap chars) := by
  intro char member
  obtain ⟨item, isItem, inItem⟩ := List.mem_flatMap.mp member
  exact free item isItem char inItem

theorem control_free_append {first second : String} (firstFree : ControlFree first)
    (secondFree : ControlFree second) : ControlFree (first ++ second) := by
  rw [ControlFree, String.toList_append]
  exact control_free_append_chars firstFree secondFree

/-- What is put together has nothing but what is in its items and between them. -/
theorem forall_mem_intercalate {Item : Type} {holds : Item → Prop} {separator : List Item}
    {items : List (List Item)} (between : ∀ item ∈ separator, holds item)
    (inside : ∀ part ∈ items, ∀ item ∈ part, holds item) :
    ∀ item ∈ separator.intercalate items, holds item := by
  induction items with
  | nil => exact List.forall_mem_nil _
  | cons part items induction =>
      obtain ⟨first, others⟩ := List.forall_mem_cons.mp inside
      cases items with
      | nil => simpa using first
      | cons next items =>
          rw [List.intercalate_cons_cons]
          exact List.forall_mem_append.mpr
            ⟨List.forall_mem_append.mpr ⟨first, between⟩, induction others⟩

theorem control_free_intercalate {separator : String} {texts : List String}
    (separatorFree : ControlFree separator) (free : ∀ text ∈ texts, ControlFree text) :
    ControlFree (separator.intercalate texts) := by
  rw [ControlFree, String.toList_intercalate]
  exact forall_mem_intercalate separatorFree (List.forall_mem_map.mpr free)

/-! Digits. -/

theorem hex_digit_char_shown : ∀ digit < 16, ¬IsControl (Nat.digitChar digit) := by
  decide

theorem digit_char_shown (digit : Nat) : ¬IsControl (Nat.digitChar digit) := by
  by_cases isHex : digit < 16
  · exact hex_digit_char_shown digit isHex
  · -- A value that is no digit is shown as a star.
    have isStar : Nat.digitChar digit = '*' := Nat.digitChar_eq_star.mpr (Nat.le_of_not_lt isHex)
    rw [isStar]
    decide

theorem control_free_digits_core (base fuel value : Nat) {digits : List Char}
    (free : IsControlFree digits) : IsControlFree (Nat.toDigitsCore base fuel value digits) := by
  induction fuel generalizing value digits with
  | zero => exact free
  | succ fuel ih =>
      have longer : IsControlFree (Nat.digitChar (value % base) :: digits) :=
        List.forall_mem_cons.mpr ⟨digit_char_shown _, free⟩
      rw [Nat.toDigitsCore]
      split_ifs
      · exact longer
      · exact ih _ longer

theorem control_free_digits (base value : Nat) : IsControlFree (Nat.toDigits base value) :=
  control_free_digits_core base _ value (List.forall_mem_nil _)

theorem control_free_nat_text (value : Nat) : ControlFree (Number.natText value) := by
  rw [ControlFree, Number.natText, String.toList_ofList]
  exact control_free_digits 10 value

/-! Quoted texts. -/

/-- In ASCII, control characters are the hidden ones. -/
theorem shown_of_not_hidden {char : Char} (notHidden : ¬isHidden char = true) : ¬IsControl char := by
  intro control
  apply notHidden
  have inAscii : char.toNat < 0x80 := by
    rcases control with below | delete <;> omega
  simpa [isHidden, inAscii, IsControl] using control

theorem control_free_quote_char (char : Char) : IsControlFree (quoteChar char) := by
  unfold quoteChar
  split_ifs with quote backslash newline carriageReturn tab null hidden
  · decide
  · decide
  · decide
  · decide
  · decide
  · decide
  · have start : IsControlFree "\\u\x7b".toList := by decide
    have stop : IsControlFree ['\x7d'] := by decide
    exact control_free_append_chars
      (control_free_append_chars start (control_free_digits 16 char.toNat)) stop
  · exact List.forall_mem_singleton.mpr (shown_of_not_hidden hidden)

/-- What stands in a text is no matter once it is quoted. -/
theorem control_free_quote (text : String) : ControlFree (quote text) := by
  have mark : IsControlFree ['"'] := by decide
  have inside : IsControlFree (text.toList.flatMap quoteChar) :=
    control_free_flat_map fun char _ => control_free_quote_char char
  rw [ControlFree, quote, String.toList_ofList, quoteChars]
  exact control_free_append_chars mark (control_free_append_chars inside mark)

theorem control_free_quote_list (texts : List String) : ControlFree (quoteList texts) := by
  have items : ∀ item ∈ texts.map quote, ControlFree item := by
    intro item member
    obtain ⟨text, _, rfl⟩ := List.mem_map.mp member
    exact control_free_quote text
  exact control_free_append (control_free_append (by decide)
    (control_free_intercalate (by decide) items)) (by decide)

/-! JSON. -/

/-- What is not a control character is written as it is, behind a backslash at most. -/
theorem encode_char_of_shown {char : Char} (shown : ¬IsControl char) :
    Json.encodeChar char = ['\\', char] ∨ Json.encodeChar char = [char] := by
  unfold Json.encodeChar
  split_ifs with quote backslash backspace tab newline formFeed carriageReturn control
  · exact .inl (by rw [quote])
  · exact .inl (by rw [backslash])
  · exact absurd (by rw [backspace]; decide) shown
  · exact absurd (by rw [tab]; decide) shown
  · exact absurd (by rw [newline]; decide) shown
  · exact absurd (by rw [formFeed]; decide) shown
  · exact absurd (by rw [carriageReturn]; decide) shown
  · exact absurd (.inl control) shown
  · exact .inr rfl

theorem control_free_encode_text {text : String} (free : ControlFree text) :
    ControlFree (Json.encodeText text) := by
  have mark : IsControlFree ['"'] := by decide
  have inside : IsControlFree (text.toList.flatMap Json.encodeChar) := by
    apply control_free_flat_map
    intro char member
    have shown := free char member
    rcases encode_char_of_shown shown with escaped | plain
    · rw [escaped]
      exact List.forall_mem_cons.mpr ⟨by decide, List.forall_mem_singleton.mpr shown⟩
    · rw [plain]
      exact List.forall_mem_singleton.mpr shown
  rw [ControlFree, Json.encodeText, String.toList_ofList, Json.encodeChars]
  exact control_free_append_chars mark (control_free_append_chars inside mark)

theorem control_free_encode_object {members : List (String × String)}
    (free : ∀ member ∈ members, ControlFree member.1 ∧ ControlFree member.2) :
    ControlFree (Json.encodeObject members) := by
  have items : ∀ item ∈ members.map (fun member => Json.encodeText member.1 ++ ":" ++ member.2),
      ControlFree item := by
    intro item isItem
    obtain ⟨member, isMember, rfl⟩ := List.mem_map.mp isItem
    obtain ⟨nameFree, valueFree⟩ := free member isMember
    exact control_free_append
      (control_free_append (control_free_encode_text nameFree) (by decide)) valueFree
  exact control_free_append (control_free_append (by decide)
    (control_free_intercalate (by decide) items)) (by decide)

end AutomataRequest.Text
