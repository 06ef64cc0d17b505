import AutomataRequest.Lookup
import AutomataRequest.Proofs.Text.Spelling

/-!
# What a lookup accepts

A lookup accepts the texts that spell one of its variants and no others. No two variants have a
spelling in common, not even in other letters, so the variants may be tried in any order. A text
that spells nothing is handed back as it came.
-/

namespace AutomataRequest

namespace Lookup

/-- The text without the blanks at its ends is the spelling, up to the case of letters. -/
def Spells (text spelling : String) : Prop :=
  ∃ core, Text.IsCore text.toList core ∧ Text.SameLetters core spelling.toList

theorem spells_iff_fold_case (text spelling : String) :
    Spells text spelling ↔ Text.foldCase spelling.toList = Text.foldCase (Text.trim text.toList) := by
  constructor
  · rintro ⟨core, isCore, same⟩
    rw [(Text.is_core_iff _ _).mp isCore, (Text.fold_case_eq_iff _ _).mpr same]
  · intro folded
    exact ⟨Text.trim text.toList, (Text.is_core_iff _ _).mpr rfl,
      (Text.fold_case_eq_iff _ _).mp folded.symm⟩

theorem spells_iff (text spelling : String) : spells text spelling = true ↔ Spells text spelling := by
  rw [spells, Text.same_letters_iff, spells_iff_fold_case]

theorem spells_surrounded {before after : String} (blankBefore : Text.isAllBlank before)
    (blankAfter : Text.isAllBlank after) (text spelling : String) :
    Spells (before ++ text ++ after) spelling ↔ Spells text spelling := by
  rw [spells_iff_fold_case, spells_iff_fold_case, String.toList_append, String.toList_append,
    Text.trim_surrounded blankBefore blankAfter]

theorem spells_same_letters {first second : String}
    (same : Text.SameLetters first.toList second.toList) (spelling : String) :
    Spells first spelling ↔ Spells second spelling := by
  have folded := (Text.fold_case_eq_iff _ _).mpr same
  rw [spells_iff_fold_case, spells_iff_fold_case, ← Text.trim_fold_case, ← Text.trim_fold_case,
    folded]

section

variable {Variant : Type} {variants : List Variant} {spellings : Variant → List String}

/-- The text is one of the variant's spellings. -/
def Names (spellings : Variant → List String) (text : String) (variant : Variant) : Prop :=
  ∃ spelling ∈ spellings variant, Spells text spelling

/-- No spelling of a variant is one of another variant as well, not even in other letters. -/
def Unambiguous (spellings : Variant → List String) : Prop :=
  ∀ first second, ∀ spelling ∈ spellings first, ∀ other ∈ spellings second,
    Text.foldCase spelling.toList = Text.foldCase other.toList → first = second

theorem names_at_most_one (unambiguous : Unambiguous spellings) {text : String}
    {first second : Variant} (namesFirst : Names spellings text first)
    (namesSecond : Names spellings text second) : first = second := by
  obtain ⟨spelling, ofFirst, spells⟩ := namesFirst
  obtain ⟨other, ofSecond, spellsOther⟩ := namesSecond
  rw [spells_iff_fold_case] at spells spellsOther
  exact unambiguous first second spelling ofFirst other ofSecond (spells.trans spellsOther.symm)

theorem any_spells_iff (text : String) (variant : Variant) :
    (spellings variant).any (spells text) = true ↔ Names spellings text variant := by
  simp only [List.any_eq_true, spells_iff, Names]

theorem find_eq_some_iff (unambiguous : Unambiguous spellings) (text : String)
    (variant : Variant) :
    find? variants spellings text = some variant ↔
      variant ∈ variants ∧ Names spellings text variant := by
  constructor
  · intro found
    have spelled := List.find?_some found
    exact ⟨List.mem_of_find?_eq_some found, (any_spells_iff text variant).mp spelled⟩
  · rintro ⟨member, named⟩
    cases found : find? variants spellings text with
    | none =>
        have spelled := (any_spells_iff text variant).mpr named
        exact absurd spelled (List.find?_eq_none.mp found variant member)
    | some other =>
        have spelled := List.find?_some found
        have namedOther := (any_spells_iff text other).mp spelled
        rw [names_at_most_one unambiguous namedOther named]

theorem find_of_perm (unambiguous : Unambiguous spellings) {reordered : List Variant}
    (perm : reordered.Perm variants) (text : String) :
    find? reordered spellings text = find? variants spellings text := by
  apply Option.ext
  intro variant
  rw [find_eq_some_iff unambiguous, find_eq_some_iff unambiguous, perm.mem_iff]

end

/-- A reader of variants that accepts their spellings and nothing else. -/
structure IsExact {Variant : Type} (read : String → Except Fault Variant)
    (all : List Variant) (spellings : Variant → List String) (unknown : String → Fault) :
    Prop where
  ok_iff : ∀ text variant, read text = .ok variant ↔ Names spellings text variant
  one_variant : ∀ text first second,
    Names spellings text first → Names spellings text second → first = second
  any_order : ∀ reordered : List Variant, reordered.Perm all →
    ∀ text, find? reordered spellings text = (read text).toOption
  otherwise : ∀ text, (∀ variant, ¬Names spellings text variant) →
    read text = .error (unknown text)
  blanks_around : ∀ before text after, Text.isAllBlank before → Text.isAllBlank after →
    ∀ variant, read (before ++ text ++ after) = .ok variant ↔ read text = .ok variant
  letter_case : ∀ first second, Text.SameLetters first.toList second.toList →
    ∀ variant, read first = .ok variant ↔ read second = .ok variant

theorem is_exact {Variant : Type} {read : String → Except Fault Variant} {all : List Variant}
    {spellings : Variant → List String} {unknown : String → Fault}
    (reads : ∀ text, read text =
      (find? all spellings text).elim (.error (unknown text)) Except.ok)
    (complete : ∀ variant, variant ∈ all) (unambiguous : Unambiguous spellings) :
    IsExact read all spellings unknown := by
  have sameOption (text : String) : (read text).toOption = find? all spellings text := by
    rw [reads]
    cases find? all spellings text <;> rfl
  have okIff (text : String) (variant : Variant) :
      read text = .ok variant ↔ Names spellings text variant := by
    have found : find? all spellings text = some variant ↔ _ :=
      find_eq_some_iff unambiguous text variant
    simp only [complete, true_and] at found
    rw [← found, reads]
    cases find? all spellings text <;> simp
  exact
    { ok_iff := okIff
      one_variant := fun text first second => names_at_most_one unambiguous
      any_order := by
        intro reordered perm text
        rw [find_of_perm unambiguous perm, sameOption]
      otherwise := by
        intro text noName
        rw [reads]
        cases found : find? all spellings text with
        | none => rfl
        | some variant =>
            exact absurd ((find_eq_some_iff unambiguous text variant).mp found).2 (noName variant)
      blanks_around := by
        intro before text after blankBefore blankAfter variant
        rw [okIff, okIff]
        simp only [Names, spells_surrounded blankBefore blankAfter]
      letter_case := by
        intro first second same variant
        rw [okIff, okIff]
        simp only [Names, spells_same_letters same] }

end Lookup

theorem Encoding.of_text_eq (text : String) :
    ofText text =
      (Lookup.find? all spellings text).elim (.error (.unknownEncoding text)) .ok := by
  rw [ofText]
  cases Lookup.find? all spellings text <;> rfl

theorem Operation.of_text_eq (text : String) :
    ofText text =
      (Lookup.find? all spellings text).elim (.error (.unknownOperation text)) .ok := by
  rw [ofText]
  cases Lookup.find? all spellings text <;> rfl

theorem Direction.of_text_eq (text : String) :
    ofText text =
      (Lookup.find? all spellings text).elim (.error (.unknownDirection text)) .ok := by
  rw [ofText]
  cases Lookup.find? all spellings text <;> rfl

theorem Order.of_text_eq (text : String) :
    ofText text =
      (Lookup.find? all spellings text).elim (.error (.unknownOrder text)) .ok := by
  rw [ofText]
  cases Lookup.find? all spellings text <;> rfl

/-- Encodings, operations, directions and orders are each known by their tokens, of both tables
where there are two, and by their names. -/
theorem lookups_read_exactly_their_spellings :
    Lookup.IsExact Encoding.ofText Encoding.all
      (fun encoding => [encoding.token, encoding.name]) .unknownEncoding ∧
    Lookup.IsExact Operation.ofText Operation.all
      (fun operation => [operation.token, operation.name]) .unknownOperation ∧
    Lookup.IsExact Direction.ofText Direction.all
      (fun direction => [direction.automatonToken, direction.treeToken, direction.name])
      .unknownDirection ∧
    Lookup.IsExact Order.ofText Order.all
      (fun order => [order.token, order.name]) .unknownOrder := by
  refine ⟨?_, ?_, ?_, ?_⟩
  · refine Lookup.is_exact Encoding.of_text_eq Encoding.mem_all ?_
    intro first second
    cases first <;> cases second <;> decide
  · refine Lookup.is_exact Operation.of_text_eq Operation.mem_all ?_
    intro first second
    cases first <;> cases second <;> decide
  · refine Lookup.is_exact Direction.of_text_eq Direction.mem_all ?_
    intro first second
    cases first <;> cases second <;> decide
  · refine Lookup.is_exact Order.of_text_eq Order.mem_all ?_
    intro first second
    cases first <;> cases second <;> decide

end AutomataRequest
