import AutomataRequest.Output
import AutomataRequest.Proofs.Json.WellFormed

/-!
# Printed arrays are read back

Tokens printed as JSON are an array of strings on one line. The grammar leaves no choice of what
the line stands for: it is written for the array of the tokens and for no other value, and whoever
reads an array of strings from it has the tokens again.
-/

namespace AutomataRequest.Json

theorem is_json_texts (texts : List String) :
    IsJson (encodeTexts texts) (.array (texts.map .string)) :=
  ⟨.bare (encodeTexts texts).toList _, (item_bare_chars _ _).symm, rfl, writes_texts texts⟩

theorem read_texts_iff {text : String} {value : Value} (isJson : IsJson text value)
    (texts : List String) :
    readWhole readTexts text = .ok texts ↔ value = .array (texts.map .string) :=
  decodes_texts.whole isJson texts

theorem read_encoded_texts (texts : List String) :
    readWhole readTexts (encodeTexts texts) = .ok texts :=
  (read_texts_iff (is_json_texts texts) texts).mpr rfl

/-- Space behind a value is space of the text. -/
theorem IsJson.with_newline {text : String} {value : Value} (isJson : IsJson text value) :
    IsJson (text ++ "\n") value := by
  obtain ⟨item, isText, isValue, writes⟩ := isJson
  have spaces : Spaces (item.after ++ ['\n']) := by
    intro char member
    rcases List.mem_append.mp member with inside | isNewline
    · exact item.spacesAfter char inside
    · rw [List.mem_singleton.mp isNewline]
      decide
  refine ⟨{ item with after := item.after ++ ['\n'], spacesAfter := spaces }, ?_, isValue, writes⟩
  simp [Item.chars, isText]

end AutomataRequest.Json

namespace AutomataRequest.OutputFormat

/-- Tokens are printed as a JSON array without control characters and a newline behind it. With
the newline or without, the text is that array and nothing else, and it is read as the tokens; so
no other tokens are printed alike. -/
theorem json_output_is_one_readable_line (tokens : List String) :
    ∃ text : String, json.render tokens = text ++ "\n" ∧
      (∀ char ∈ text.toList, 0x20 ≤ char.toNat) ∧
      (∀ value, Json.IsJson text value ↔ value = .array (tokens.map .string)) ∧
      (∀ printed ∈ [text, json.render tokens],
        Json.readWhole Json.readTexts printed = .ok tokens) ∧
      ∀ others, json.render others = json.render tokens → others = tokens := by
  have isArray (texts : List String) := Json.is_json_texts texts
  have readLine (texts : List String) :
      Json.readWhole Json.readTexts (json.render texts) = .ok texts :=
    (Json.read_texts_iff (isArray texts).with_newline texts).mpr rfl
  refine ⟨Json.encodeTexts tokens, rfl, Json.uncontrolled_encode_texts tokens, ?_, ?_, ?_⟩
  · intro value
    constructor
    · intro isJson
      exact (Json.read_texts_iff isJson tokens).mp (Json.read_encoded_texts tokens)
    · rintro rfl
      exact isArray tokens
  · simp only [List.forall_mem_cons]
    exact ⟨Json.read_encoded_texts tokens, readLine tokens, List.forall_mem_nil _⟩
  · intro others printedAlike
    have readOthers := readLine others
    rw [printedAlike, readLine tokens] at readOthers
    exact (Except.ok.inj readOthers).symm

/-- Tokens that hold the marks of a list, nothing, a line end, or another control character. -/
def markedTokens : List String := ["\",\"", "", "a\nb\\", "\x01"]

/-- Marks inside the tokens are told from those between them. -/
theorem marked_tokens_on_one_line :
    json.render markedTokens = "[\"\\\",\\\"\",\"\",\"a\\nb\\\\\",\"\\u0001\"]\n" ∧
      Json.readWhole Json.readTexts (json.render markedTokens) = .ok markedTokens ∧
      json.render ["\",\"", "", "a\nb\\"] ≠ json.render markedTokens := by
  obtain ⟨text, -, -, -, reads, alone⟩ := json_output_is_one_readable_line markedTokens
  refine ⟨by decide +kernel, reads _ (by simp), ?_⟩
  intro printedAlike
  exact absurd (alone _ printedAlike) (by decide)

end AutomataRequest.OutputFormat
