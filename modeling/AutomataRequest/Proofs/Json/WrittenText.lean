import AutomataRequest.Json.Text
import AutomataRequest.Proofs.Json.Grammar
import Mathlib.Tactic.SplitIfs

/-!
# Written strings and lists

The characters of what is written: a string between its quotes, and the elements of a list or of
an object joined by commas. None of them is a control character.
-/

namespace AutomataRequest.Json

/-- The characters of a text as it is written. -/
def written (text : String) : List Char := encodeChars text.toList

theorem encode_text_chars (text : String) : (encodeText text).toList = written text := by
  rw [encodeText, String.toList_ofList, written]

theorem listed_eq_intercalate (items : List (List Char)) :
    listed true items = [','].intercalate items := by
  induction items with
  | nil => rfl
  | cons item items ih =>
      cases items with
      | nil => simp [listed, leadIn]
      | cons next items =>
          have later : listed false (next :: items) = [','] ++ listed true (next :: items) := rfl
          rw [List.intercalate_cons_cons, ← ih, listed, later, List.append_assoc,
            List.append_assoc]
          rfl

theorem encode_texts_chars (texts : List String) :
    (encodeTexts texts).toList = '[' :: (listed true (texts.map written) ++ [']']) := by
  have items : (texts.map encodeText).map String.toList = texts.map written := by
    rw [List.map_map]
    exact List.map_congr_left fun text _ => encode_text_chars text
  rw [encodeTexts, encodeArray, String.toList_append, String.toList_append,
    String.toList_intercalate, items, listed_eq_intercalate]
  rfl

theorem encode_object_chars (members : List (String × String)) :
    (encodeObject members).toList =
      '{' :: (listed true (members.map fun member => written member.1 ++ ':' :: member.2.toList) ++
        ['}']) := by
  rw [encodeObject, listed_eq_intercalate, String.toList_append, String.toList_append,
    String.toList_intercalate, List.map_map]
  simp [Function.comp_def, encode_text_chars]

/-! Characters that a written text is free of. -/

/-- No character is a control character below the space. -/
def IsUncontrolled (chars : List Char) : Prop := ∀ char ∈ chars, 0x20 ≤ char.toNat

instance (chars : List Char) : Decidable (IsUncontrolled chars) :=
  List.decidableBAll (fun char : Char => 0x20 ≤ char.toNat) chars

theorem uncontrolled_append {first second : List Char} (firstFree : IsUncontrolled first)
    (secondFree : IsUncontrolled second) : IsUncontrolled (first ++ second) := by
  intro char member
  rcases List.mem_append.mp member with inFirst | inSecond
  · exact firstFree char inFirst
  · exact secondFree char inSecond

theorem uncontrolled_cons {char : Char} {chars : List Char} (mark : 0x20 ≤ char.toNat)
    (free : IsUncontrolled chars) : IsUncontrolled (char :: chars) := by
  intro other member
  rcases List.mem_cons.mp member with rfl | later
  · exact mark
  · exact free other later

theorem hex_digits_uncontrolled : ∀ code < 0x20,
    IsUncontrolled ['\\', 'u', '0', '0', Nat.digitChar (code / 16),
      Nat.digitChar (code % 16)] := by
  decide

/-- An escape is written with the characters of its name alone. -/
theorem uncontrolled_encode_char (char : Char) : IsUncontrolled (encodeChar char) := by
  unfold encodeChar
  split_ifs with quote backslash backspace tab newline formFeed carriageReturn control
  · decide
  · decide
  · decide
  · decide
  · decide
  · decide
  · decide
  · exact hex_digits_uncontrolled char.toNat control
  · intro other member
    rw [List.mem_singleton.mp member]
    exact Nat.le_of_not_lt control

theorem uncontrolled_written (text : String) : IsUncontrolled (written text) := by
  refine uncontrolled_cons (by decide) (uncontrolled_append ?_ ?_)
  · intro char member
    obtain ⟨source, _, inEscape⟩ := List.mem_flatMap.mp member
    exact uncontrolled_encode_char source char inEscape
  · decide

theorem uncontrolled_listed {items : List (List Char)} (isFirst : Bool)
    (free : ∀ item ∈ items, IsUncontrolled item) : IsUncontrolled (listed isFirst items) := by
  induction items generalizing isFirst with
  | nil =>
      intro char member
      cases member
  | cons item items ih =>
      have lead : IsUncontrolled (leadIn isFirst) := by
        cases isFirst <;> decide
      have others := ih false fun other later => free other (List.mem_cons_of_mem _ later)
      exact uncontrolled_append (uncontrolled_append lead (free item List.mem_cons_self)) others

theorem uncontrolled_encode_texts (texts : List String) :
    IsUncontrolled (encodeTexts texts).toList := by
  rw [encode_texts_chars]
  refine uncontrolled_cons (by decide) (uncontrolled_append (uncontrolled_listed true ?_) ?_)
  · intro item member
    obtain ⟨text, _, rfl⟩ := List.mem_map.mp member
    exact uncontrolled_written text
  · decide

end AutomataRequest.Json
