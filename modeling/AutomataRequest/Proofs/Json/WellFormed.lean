import AutomataRequest.Proofs.Json.MemberDecoding
import AutomataRequest.Proofs.Json.WrittenText

/-!
# What is written is JSON

A written command is a JSON text: every string is escaped as the grammar has it, and the objects
and the list are written without space.
-/

namespace AutomataRequest.Json

/-! Strings. -/

theorem hex_digit_of_lt {value : Nat} (small : value < 16) :
    IsHexDigit (Nat.digitChar value) value := ⟨small, .inl rfl⟩

theorem four_digits_of_control {char : Char} (control : char.toNat < 0x20) :
    FourDigits (hexPair char) char.toNat := by
  have zero : IsHexDigit '0' 0 := ⟨by decide, .inl rfl⟩
  have high : char.toNat / 16 < 16 := by omega
  have low : char.toNat % 16 < 16 := by omega
  have four := FourDigits.digits zero zero (hex_digit_of_lt high) (hex_digit_of_lt low)
  have same : ((0 * 16 + 0) * 16 + char.toNat / 16) * 16 + char.toNat % 16 = char.toNat := by
    omega
  rwa [same] at four

theorem writes_encoded_char (char : Char) : WritesChar (encodeChar char) char := by
  unfold encodeChar
  split_ifs with quote backslash backspace tab newline formFeed carriageReturn control
  · subst quote
    exact .short (by decide)
  · subst backslash
    exact .short (by decide)
  · subst backspace
    exact .short (by decide)
  · subst tab
    exact .short (by decide)
  · subst newline
    exact .short (by decide)
  · subst formFeed
    exact .short (by decide)
  · subst carriageReturn
    exact .short (by decide)
  · exact .unit (four_digits_of_control control)
  · exact .plain quote backslash (Nat.le_of_not_lt control)

theorem writes_encoded_chars (chars : List Char) :
    WritesChars (chars.flatMap encodeChar) chars := by
  induction chars with
  | nil => exact .nil
  | cons char chars ih => exact .cons (writes_encoded_char char) ih

theorem writes_written (text : String) : WritesString (written text) text :=
  ⟨_, writes_encoded_chars text.toList, rfl⟩

theorem writes_text (text : String) : Writes (written text) (.string text) :=
  .string (writes_written text)

/-! Lists and objects. -/

/-- A value without space around it. -/
def Item.bare (text : List Char) (value : Value) : Item :=
  ⟨[], text, [], value, spaces_nil, spaces_nil⟩

/-- A member without space in it. -/
def Entry.bare (key : String) (text : List Char) (value : Value) : Entry :=
  ⟨key, [], written key, [], .bare text value, spaces_nil, spaces_nil⟩

theorem item_bare_chars (text : List Char) (value : Value) :
    (Item.bare text value).chars = text := by
  simp [Item.bare, Item.chars]

theorem entry_bare_chars (key : String) (text : List Char) (value : Value) :
    (Entry.bare key text value).chars = written key ++ ':' :: text := by
  simp [Entry.bare, Entry.chars, Entry.keyChars, Item.bare, Item.chars]

theorem writes_texts (texts : List String) :
    Writes (encodeTexts texts).toList (.array (texts.map Value.string)) := by
  let items := texts.map fun text => Item.bare (written text) (.string text)
  have each : ∀ item ∈ items, Writes item.text item.value := by
    intro item member
    obtain ⟨text, _, rfl⟩ := List.mem_map.mp member
    exact writes_text text
  have writes := Writes.array spaces_nil each
  have chars : items.map Item.chars = texts.map written := by
    rw [List.map_map]
    exact List.map_congr_left fun text _ => item_bare_chars _ _
  have values : items.map Item.value = texts.map Value.string := List.map_map
  rw [chars, values, List.append_nil] at writes
  rw [encode_texts_chars]
  exact writes

/-- Texts for the values of an object make a text for the object. -/
theorem writes_object (members : List (String × List Char × Value))
    (each : ∀ member ∈ members, Writes member.2.1 member.2.2) :
    Writes ('{' :: (listed true (members.map fun member => written member.1 ++ ':' :: member.2.1) ++
        ['}']))
      (.object (members.map fun member => (member.1, member.2.2))) := by
  let entries := members.map fun member => Entry.bare member.1 member.2.1 member.2.2
  have keys : ∀ entry ∈ entries, WritesString entry.keyText entry.key := by
    intro entry isEntry
    obtain ⟨member, _, rfl⟩ := List.mem_map.mp isEntry
    exact writes_written member.1
  have values : ∀ entry ∈ entries, Writes entry.item.text entry.item.value := by
    intro entry isEntry
    obtain ⟨member, isMember, rfl⟩ := List.mem_map.mp isEntry
    exact each member isMember
  have writes := Writes.object spaces_nil keys values
  have chars : entries.map Entry.chars =
      members.map fun member => written member.1 ++ ':' :: member.2.1 := by
    rw [List.map_map]
    exact List.map_congr_left fun member _ => entry_bare_chars _ _ _
  have pairs : entries.map Entry.member = members.map fun member => (member.1, member.2.2) :=
    List.map_map
  rw [chars, pairs, List.append_nil] at writes
  exact writes

/-! Commands. -/

theorem options_text_chars (options : Options) :
    options.toJson.toList =
      '{' :: (written options.kind.name ++ [':'] ++ written options.valueName ++ ['}']) := by
  simp [Options.toJson, encode_object_chars, listed, leadIn, encode_text_chars]

namespace Member

/-- The value as it is written. A command without options leaves the member out, but null is read
as no options too. -/
def valueText : Member → List Char
  | .encoding value => value.toJson.toList
  | .operation value => value.toJson.toList
  | .options (some value) => value.toJson.toList
  | .options none => "null".toList
  | .operands value => (encodeTexts value).toList

def text (member : Member) : List Char :=
  written member.field.name ++ ':' :: member.valueText

end Member

/-- The members of a command in the order in which they are written. -/
def commandMembers (command : Command) : List Member :=
  [.encoding command.encoding, .operation command.operation] ++
    command.options.toList.map (fun options => .options (some options)) ++
    [.operands command.operands]

theorem command_text_chars (command : Command) :
    command.toJson.toList =
      '{' :: (listed true ((commandMembers command).map Member.text) ++ ['}']) := by
  rw [Command.toJson, encode_object_chars]
  obtain ⟨encoding, operation, options, operands⟩ := command
  cases options <;> rfl

/-- The value that a member is written as. -/
def Member.value : Member → Value
  | .encoding given => .string given.name
  | .operation given => .string given.name
  | .options none => .null
  | .options (some given) => .object [(given.kind.name, .string given.valueName)]
  | .operands given => .array (given.map Value.string)

theorem writes_member_value (member : Member) : Writes member.valueText member.value := by
  cases member with
  | encoding encoding =>
      rw [Member.valueText, Encoding.toJson, encode_text_chars]
      exact writes_text encoding.name
  | operation operation =>
      rw [Member.valueText, Operation.toJson, encode_text_chars]
      exact writes_text operation.name
  | options options =>
      cases options with
      | none => exact .null
      | some options =>
          have writes := writes_object
            [(options.kind.name, written options.valueName, .string options.valueName)]
            (by simp [writes_text])
          rw [Member.valueText, options_text_chars]
          simpa [listed, leadIn, Member.value] using writes
  | operands operands => exact writes_texts operands

/-- The members of a written command, as those of an object. -/
def writtenMembers (command : Command) : List (String × Value) :=
  (commandMembers command).map fun member => (member.field.name, member.value)

/-- A written command is the JSON text of an object. -/
theorem is_json_to_json (command : Command) :
    IsJson command.toJson (.object (writtenMembers command)) := by
  have each : ∀ member ∈ (commandMembers command).map fun member =>
      (member.field.name, member.valueText, member.value), Writes member.2.1 member.2.2 := by
    intro member isMember
    obtain ⟨member, _, rfl⟩ := List.mem_map.mp isMember
    exact writes_member_value member
  have writes := writes_object _ each
  rw [List.map_map, List.map_map] at writes
  refine ⟨.bare command.toJson.toList _, (item_bare_chars _ _).symm, rfl, ?_⟩
  rw [command_text_chars]
  exact writes

end AutomataRequest.Json
