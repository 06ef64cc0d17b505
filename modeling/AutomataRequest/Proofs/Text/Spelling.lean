import AutomataRequest.Text.Blank
import AutomataRequest.Text.LetterCase
import Mathlib.Data.List.Forall2
import Mathlib.Data.List.TakeWhile

/-!
# Spellings of one word

Two texts spell the same word if they differ at most in the case of letters from A to Z, and a
text surrounded by blanks still spells what it spelled. Both are said here letter by letter and
place by place, and comparing folded texts and trimming turn out to decide them.
-/

namespace AutomataRequest.Text

/-! Letters. -/

def capitals : List Char := "ABCDEFGHIJKLMNOPQRSTUVWXYZ".toList

def smalls : List Char := "abcdefghijklmnopqrstuvwxyz".toList

/-- A capital letter from A to Z and its small form. -/
def IsLetterPair (capital small : Char) : Prop := (capital, small) ∈ capitals.zip smalls

def SameLetter (first second : Char) : Prop :=
  first = second ∨ IsLetterPair first second ∨ IsLetterPair second first

/-- Two texts that differ at most in the case of letters from A to Z. -/
abbrev SameLetters (first second : List Char) : Prop := List.Forall₂ SameLetter first second

theorem letter_pairs_fold : ∀ pair ∈ capitals.zip smalls, pair.1.toLower = pair.2.toLower := by
  decide

theorem letter_pairs_cover :
    ∀ code < 26,
      (Char.ofNat (65 + code), (Char.ofNat (65 + code)).toLower) ∈ capitals.zip smalls := by
  decide

theorem capital_of_small :
    ∀ pair ∈ capitals.zip smalls, ∀ other ∈ capitals.zip smalls,
      pair.2 = other.2 → pair.1 = other.1 := by
  decide

theorem letter_pair_of_code {char : Char} (isCapital : 65 ≤ char.toNat ∧ char.toNat ≤ 90) :
    IsLetterPair char char.toLower := by
  have covered := letter_pairs_cover (char.toNat - 65) (by omega)
  have isChar : Char.ofNat (65 + (char.toNat - 65)) = char := by
    rw [Nat.add_sub_cancel' isCapital.1, Char.ofNat_toNat]
  rw [isChar] at covered
  exact covered

theorem letter_pair_or_folded (char : Char) :
    IsLetterPair char char.toLower ∨ char.toLower = char := by
  by_cases isCapital : 65 ≤ char.toNat ∧ char.toNat ≤ 90
  · exact .inl (letter_pair_of_code isCapital)
  · right
    unfold Char.toLower
    rw [dif_neg]
    intro inRange
    exact isCapital ⟨UInt32.le_iff_toNat_le.mp inRange.1, UInt32.le_iff_toNat_le.mp inRange.2⟩

theorem to_lower_eq_iff (first second : Char) :
    first.toLower = second.toLower ↔ SameLetter first second := by
  constructor
  · intro sameFolded
    rcases letter_pair_or_folded first with firstPair | firstFolded
    · rcases letter_pair_or_folded second with secondPair | secondFolded
      · exact .inl (capital_of_small _ firstPair _ secondPair sameFolded)
      · rw [sameFolded, secondFolded] at firstPair
        exact .inr (.inl firstPair)
    · rcases letter_pair_or_folded second with secondPair | secondFolded
      · rw [← sameFolded, firstFolded] at secondPair
        exact .inr (.inr secondPair)
      · rw [firstFolded, secondFolded] at sameFolded
        exact .inl sameFolded
  · rintro (rfl | isPair | isPair)
    · rfl
    · exact letter_pairs_fold _ isPair
    · exact (letter_pairs_fold _ isPair).symm

theorem fold_case_eq_iff (first second : List Char) :
    foldCase first = foldCase second ↔ SameLetters first second := by
  have pointwise : SameLetters first second ↔
      List.Forall₂ (fun char other : Char => char.toLower = other.toLower) first second := by
    simp only [to_lower_eq_iff, SameLetters]
  rw [pointwise, foldCase, foldCase, ← List.forall₂_eq_eq_eq, List.forall₂_map_left_iff,
    List.forall₂_map_right_iff]

theorem letter_pairs_shown :
    ∀ pair ∈ capitals.zip smalls, isBlank pair.2 = isBlank pair.1 := by
  decide

theorem is_blank_to_lower (char : Char) : isBlank char.toLower = isBlank char := by
  rcases letter_pair_or_folded char with isPair | isFolded
  · exact letter_pairs_shown (char, char.toLower) isPair
  · rw [isFolded]

/-! Blanks at the ends. -/

/-- What is left of a text without the blanks at its ends. -/
structure IsCore (chars core : List Char) : Prop where
  surrounded : ∃ before after, before.all isBlank ∧ after.all isBlank ∧
    chars = before ++ core ++ after
  begins : ∀ char ∈ core.head?, isBlank char = false
  ends : ∀ char ∈ core.getLast?, isBlank char = false

theorem trim_leading_append {before : List Char} (blank : before.all isBlank)
    (chars : List Char) : trimLeading (before ++ chars) = trimLeading chars :=
  List.dropWhile_append_of_pos (List.all_eq_true.mp blank)

theorem trim_leading_of_blank {chars : List Char} (blank : chars.all isBlank) :
    trimLeading chars = [] :=
  List.dropWhile_eq_nil_iff.mpr (List.all_eq_true.mp blank)

theorem trim_append {after : List Char} (blank : after.all isBlank) (chars : List Char) :
    trim (chars ++ after) = trim chars := by
  by_cases allBlank : chars.all isBlank
  · have allBlankAfter : (chars ++ after).all isBlank := by
      rw [List.all_append, allBlank, blank]
      rfl
    rw [trim, trim, trim_leading_of_blank allBlank, trim_leading_of_blank allBlankAfter]
  · have kept : trimLeading (chars ++ after) = trimLeading chars ++ after := by
      rw [trimLeading, List.dropWhile_append, if_neg]
      · rfl
      · rw [List.isEmpty_iff, List.dropWhile_eq_nil_iff, ← List.all_eq_true]
        exact allBlank
    have backwards : after.reverse.all isBlank := by rw [List.all_reverse, blank]
    rw [trim, trim, kept, List.reverse_append, trim_leading_append backwards]

theorem trim_surrounded {before after : List Char} (blankBefore : before.all isBlank)
    (blankAfter : after.all isBlank) (chars : List Char) :
    trim (before ++ chars ++ after) = trim chars := by
  rw [trim_append blankAfter, trim, trim_leading_append blankBefore, trim]

theorem trim_leading_of_begins {chars : List Char}
    (begins : ∀ char ∈ chars.head?, isBlank char = false) : trimLeading chars = chars := by
  cases chars with
  | nil => rfl
  | cons char rest =>
      have shown : isBlank char = false := begins char rfl
      rw [trimLeading, List.dropWhile_cons_of_neg (by simp [shown])]

theorem trim_leading_begins (chars : List Char) :
    ∀ char ∈ (trimLeading chars).head?, isBlank char = false := by
  intro char isFirst
  have notBlank := List.head?_dropWhile_not isBlank chars
  rw [← trimLeading, isFirst] at notBlank
  exact notBlank

theorem blanks_before (chars : List Char) :
    ∃ before : List Char, before.all isBlank ∧ chars = before ++ trimLeading chars :=
  ⟨chars.takeWhile isBlank, List.all_takeWhile, List.takeWhile_append_dropWhile.symm⟩

theorem blanks_after (chars : List Char) :
    ∃ after : List Char, after.all isBlank ∧ chars = (trimLeading chars.reverse).reverse ++ after := by
  obtain ⟨before, blank, split⟩ := blanks_before chars.reverse
  refine ⟨before.reverse, by rw [List.all_reverse, blank], ?_⟩
  rw [← List.reverse_append, ← split, List.reverse_reverse]

theorem is_core_iff (chars core : List Char) : IsCore chars core ↔ trim chars = core := by
  constructor
  · rintro ⟨⟨before, after, blankBefore, blankAfter, rfl⟩, begins, ends⟩
    have endsBackwards : ∀ char ∈ core.reverse.head?, isBlank char = false := by
      rw [List.head?_reverse]
      exact ends
    rw [trim_surrounded blankBefore blankAfter, trim, trim_leading_of_begins begins,
      trim_leading_of_begins endsBackwards, List.reverse_reverse]
  · rintro rfl
    obtain ⟨before, blankBefore, splitBefore⟩ := blanks_before chars
    obtain ⟨after, blankAfter, splitAfter⟩ := blanks_after (trimLeading chars)
    refine ⟨⟨before, after, blankBefore, blankAfter, ?_⟩, ?_, ?_⟩
    · rw [trim, List.append_assoc, ← splitAfter, ← splitBefore]
    · intro char isFirst
      have isFirstBefore : char ∈ (trimLeading chars).head? := by
        rw [splitAfter]
        exact List.mem_head?_append_of_mem_head? isFirst
      exact trim_leading_begins chars char isFirstBefore
    · intro char isLast
      rw [trim, List.getLast?_reverse] at isLast
      exact trim_leading_begins _ char isLast

theorem trim_leading_fold_case (chars : List Char) :
    trimLeading (foldCase chars) = foldCase (trimLeading chars) := by
  have sameBlanks : isBlank ∘ Char.toLower = isBlank := by
    funext char
    exact is_blank_to_lower char
  rw [trimLeading, foldCase, List.dropWhile_map, sameBlanks, foldCase, trimLeading]

theorem trim_fold_case (chars : List Char) : trim (foldCase chars) = foldCase (trim chars) := by
  have backwards (part : List Char) : (foldCase part).reverse = foldCase part.reverse := by
    simp [foldCase]
  rw [trim, trim, trim_leading_fold_case, backwards, trim_leading_fold_case, backwards]

end AutomataRequest.Text
