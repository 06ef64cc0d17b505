import AutomataRequest.Proofs.Text.ControlFree
import AutomataRequest.Text.Styled

/-!
# Sequences that set styles

A text with styles is the same text without them with sequences put in, each of them an escape, a
bracket, a number and a letter. The escape is the one control character of a sequence, so styles
neither end a line nor hide anything else that could.
-/

namespace AutomataRequest.Text

/-- The second text is the first with sequences that set styles put in. -/
inductive IsStyled : List Char → List Char → Prop
  | nil : IsStyled [] []
  | char (char : Char) {bare styled : List Char} (more : IsStyled bare styled) :
      IsStyled (char :: bare) (char :: styled)
  | sequence (code : Nat) {bare styled : List Char} (more : IsStyled bare styled) :
      IsStyled bare ('\x1b' :: '[' :: (Nat.toDigits 10 code ++ 'm' :: styled))

theorem IsStyled.refl (chars : List Char) : IsStyled chars chars := by
  induction chars with
  | nil => exact .nil
  | cons char chars induction => exact .char char induction

theorem IsStyled.append {bare bare' styled styled' : List Char} (first : IsStyled bare styled)
    (second : IsStyled bare' styled') : IsStyled (bare ++ bare') (styled ++ styled') := by
  induction first with
  | nil => exact second
  | char char more induction => exact .char char induction
  | sequence code more induction =>
      simp only [List.cons_append, List.append_assoc]
      exact .sequence code induction

theorem is_styled_by_sequence (code : Nat) {bare styled : List Char}
    (more : IsStyled bare styled) : IsStyled bare ((styleSequence code).toList ++ styled) := by
  have sequence : (styleSequence code).toList =
      '\x1b' :: '[' :: (Nat.toDigits 10 code ++ ['m']) := by
    simp [styleSequence, Number.natText]
  rw [sequence]
  simpa using IsStyled.sequence code more

/-- Without styles a text has what its parts have. -/
theorem control_free_parts {parts : List StyledPart}
    (free : ∀ part ∈ parts, ControlFree part.text) : ControlFree (writtenParts parts false) := by
  simp only [ControlFree, writtenParts, String.toList_join, List.flatMap_map,
    StyledPart.written_unstyled]
  exact control_free_flat_map free

theorem StyledPart.is_styled (part : StyledPart) :
    IsStyled (part.written false).toList (part.written true).toList := by
  unfold StyledPart.written
  cases part.style.code? with
  | none => exact .refl _
  | some code =>
      have reset := is_styled_by_sequence resetCode .nil
      rw [List.append_nil] at reset
      have styled := is_styled_by_sequence code ((IsStyled.refl part.text.toList).append reset)
      simpa using styled

theorem written_parts_is_styled (parts : List StyledPart) (styled : Bool) :
    IsStyled (writtenParts parts false).toList (writtenParts parts styled).toList := by
  cases styled with
  | false => exact .refl _
  | true =>
      simp only [writtenParts, String.toList_join, List.flatMap_map]
      induction parts with
      | nil => exact .nil
      | cons part parts induction => exact part.is_styled.append induction

/-- What a sequence puts in is an escape or no control character. -/
theorem IsStyled.mem {bare styled : List Char} (isStyled : IsStyled bare styled) {char : Char}
    (control : IsControl char) (member : char ∈ styled) : char ∈ bare ∨ char = '\x1b' := by
  induction isStyled with
  | nil => cases member
  | char same more induction =>
      rcases List.mem_cons.mp member with rfl | later
      · exact .inl List.mem_cons_self
      · exact (induction later).imp_left (List.mem_cons_of_mem _)
  | sequence code more induction =>
      have digitsFree := control_free_digits 10 code
      have marksFree : ¬IsControl '[' ∧ ¬IsControl 'm' := by decide
      simp only [List.mem_cons, List.mem_append] at member
      rcases member with isEscape | isBracket | isDigit | isLetter | later
      · exact .inr isEscape
      · exact absurd (isBracket ▸ control) marksFree.1
      · exact absurd control (digitsFree char isDigit)
      · exact absurd (isLetter ▸ control) marksFree.2
      · exact induction later

end AutomataRequest.Text
