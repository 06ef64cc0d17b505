import AutomataRequest.Proofs.Json.MemberDecoding
import AutomataRequest.Proofs.Json.WellFormed
import AutomataRequest.Proofs.Lookup
import Mathlib.Data.List.Nodup

/-!
# What a command may look like

An object is a command exactly if its keys are known and come once, if it has an encoding and an
operation, and if each of its values denotes what its key says. That is said of the members alone,
so neither their order matters nor how they are written.
-/

namespace AutomataRequest.Json

/-- The members of an object are those of a command: every key is known and comes once, the
encoding and the operation are there, and what is left out has its default. -/
structure IsCommand (members : List (String × Value)) (command : Command) : Prop where
  distinct : (keysOf members).Nodup
  known : keysOf members ⊆ ["encoding", "operation", "options", "operands"]
  encoding : ∃ value, ("encoding", value) ∈ members ∧ value.Names command.encoding.name
  operation : ∃ value, ("operation", value) ∈ members ∧ value.Names command.operation.name
  options : match command.options with
    | none => "options" ∉ keysOf members ∨ ("options", .null) ∈ members
    | some options => ∃ value, ("options", value) ∈ members ∧ value.IsOptions options
  operands : ("operands" ∉ keysOf members ∧ command.operands = []) ∨
    ("operands", .array (command.operands.map Value.string)) ∈ members

theorem known_key_iff {key : String} :
    (∃ field : Field, field.name = key) ↔
      key ∈ ["encoding", "operation", "options", "operands"] := by
  constructor
  · rintro ⟨field, rfl⟩
    cases field <;> simp [Field.name]
  · intro known
    simp only [List.mem_cons, List.not_mem_nil, or_false] at known
    rcases known with rfl | rfl | rfl | rfl
    · exact ⟨.encoding, rfl⟩
    · exact ⟨.operation, rfl⟩
    · exact ⟨.options, rfl⟩
    · exact ⟨.operands, rfl⟩

theorem to_command_ok_iff {draft : Draft} {command : Command} :
    draft.toCommand = .ok command ↔
      draft.part .encoding = some (.encoding command.encoding) ∧
        draft.part .operation = some (.operation command.operation) ∧
        draft.options.getD none = command.options ∧ draft.operands.getD [] = command.operands := by
  obtain ⟨encoding, operation, options, operands⟩ := draft
  obtain ⟨encoding', operation', options', operands'⟩ := command
  cases encoding <;> cases operation <;> simp [Draft.toCommand, Draft.part]

section

variable {members : List (String × Value)} {command : Command}

theorem comes_none_iff {field : Field} :
    Comes {} members field none ↔ field.name ∉ keysOf members := by
  constructor
  · intro comes
    cases comes with
    | left noKey => exact noKey
    | given _ _ _ _ isGiven => cases isGiven
  · intro noKey
    exact .left noKey (by cases field <;> rfl)

theorem comes_some_iff {field : Field} {member : Member} :
    Comes {} members field (some member) ↔
      member.field = field ∧ ∃ value, (field.name, value) ∈ members ∧ value.IsMember member := by
  constructor
  · intro comes
    cases comes with
    | left _ isLeft => cases field <;> cases isLeft
    | given _ isMember isField isValue isGiven =>
        cases isGiven
        exact ⟨isField, _, isMember, isValue⟩
  · rintro ⟨isField, value, isMember, isValue⟩
    exact .given (by cases field <;> rfl) isMember isField isValue rfl

theorem IsCommand.options_come (isCommand : IsCommand members command) :
    ∃ given : Option (Option Options), given.getD none = command.options ∧
      Comes {} members .options (given.map Member.options) := by
  have options := isCommand.options
  cases isOptions : command.options with
  | none =>
      rw [isOptions] at options
      rcases options with noKey | isNull
      · exact ⟨none, rfl, comes_none_iff.mpr noKey⟩
      · exact ⟨some none, rfl, comes_some_iff.mpr ⟨rfl, _, isNull, rfl⟩⟩
  | some value =>
      rw [isOptions] at options
      exact ⟨some (some value), rfl, comes_some_iff.mpr ⟨rfl, options⟩⟩

theorem IsCommand.operands_come (isCommand : IsCommand members command) :
    ∃ given : Option (List String), given.getD [] = command.operands ∧
      Comes {} members .operands (given.map Member.operands) := by
  rcases isCommand.operands with ⟨noKey, isEmpty⟩ | isMember
  · exact ⟨none, isEmpty.symm, comes_none_iff.mpr noKey⟩
  · exact ⟨some command.operands, rfl, comes_some_iff.mpr ⟨rfl, _, isMember, rfl⟩⟩

/-- What the reader takes the members of an object for. -/
theorem is_command_iff :
    (∃ draft, Fills {} members draft ∧ draft.toCommand = .ok command) ↔
      IsCommand members command := by
  simp only [fills_iff, to_command_ok_iff, known_key_iff]
  constructor
  · rintro ⟨draft, ⟨distinct, known, comes⟩, isEncoding, isOperation, isOptions, isOperands⟩
    have encoding := comes .encoding
    have operation := comes .operation
    have options := comes .options
    have operands := comes .operands
    rw [isEncoding, comes_some_iff] at encoding
    rw [isOperation, comes_some_iff] at operation
    refine ⟨distinct, known, encoding.2, operation.2, ?_, ?_⟩
    · rw [← isOptions]
      cases given : draft.options with
      | none =>
          rw [Draft.part, given, Option.map_none, comes_none_iff] at options
          exact .inl options
      | some value =>
          rw [Draft.part, given, Option.map_some, comes_some_iff] at options
          cases value with
          | none =>
              obtain ⟨_, value, isMember, rfl⟩ := options
              exact .inr isMember
          | some value => exact options.2
    · rw [← isOperands]
      cases given : draft.operands with
      | none =>
          rw [Draft.part, given, Option.map_none, comes_none_iff] at operands
          exact .inl ⟨operands, rfl⟩
      | some texts =>
          rw [Draft.part, given, Option.map_some, comes_some_iff] at operands
          obtain ⟨_, value, isMember, rfl⟩ := operands
          exact .inr isMember
  · intro isCommand
    obtain ⟨options, isOptions, comeOptions⟩ := isCommand.options_come
    obtain ⟨operands, isOperands, comeOperands⟩ := isCommand.operands_come
    refine ⟨⟨some command.encoding, some command.operation, options, operands⟩,
      ⟨isCommand.distinct, isCommand.known, ?_⟩, rfl, rfl, isOptions, isOperands⟩
    intro field
    cases field with
    | encoding => exact comes_some_iff.mpr ⟨rfl, isCommand.encoding⟩
    | operation => exact comes_some_iff.mpr ⟨rfl, isCommand.operation⟩
    | options => exact comeOptions
    | operands => exact comeOperands

/-- The order of the members does not matter. -/
theorem IsCommand.perm {members' : List (String × Value)} (isCommand : IsCommand members command)
    (perm : members.Perm members') : IsCommand members' command := by
  have keysPerm : (keysOf members).Perm (keysOf members') := perm.map Prod.fst
  obtain ⟨distinct, known, encoding, operation, options, operands⟩ := isCommand
  refine ⟨keysPerm.nodup_iff.mp distinct, fun key isKey => known (keysPerm.mem_iff.mpr isKey),
    ?_, ?_, ?_, ?_⟩
  · simpa only [perm.mem_iff] using encoding
  · simpa only [perm.mem_iff] using operation
  · simpa only [perm.mem_iff, keysPerm.mem_iff] using options
  · simpa only [perm.mem_iff, keysPerm.mem_iff] using operands

end

theorem read_command_members_iff {entries : List Entry} {gap : List Char}
    (keys : ∀ entry ∈ entries, WritesString entry.keyText entry.key)
    (each : ∀ entry ∈ entries, Writes entry.item.text entry.item.value) (isGap : Spaces gap)
    (rest : List Char) (position : Position) (command : Command) (cursor : Cursor) :
    readCommandMembers ⟨listed true (entries.map Entry.chars) ++ (gap ++ '}' :: rest), position⟩ =
        .ok (command, cursor) ↔
      cursor = ⟨'}' :: rest, (position.afterAll (listed true (entries.map Entry.chars))).afterAll
        gap⟩ ∧ IsCommand (entries.map Entry.member) command := by
  have members := read_members_iff keys each isGap {} true spaces_nil rest position
  rw [← is_command_iff, readCommandMembers, ok_bind_iff]
  constructor
  · rintro ⟨⟨draft, next⟩, isRead, isCommand⟩
    obtain ⟨rfl, fills⟩ := (members draft next).mp isRead
    dsimp only at isCommand
    split at isCommand
    · rename_i taken
      cases isCommand
      exact ⟨rfl, draft, fills, taken⟩
    · cases isCommand
  · rintro ⟨rfl, draft, fills, taken⟩
    refine ⟨⟨draft, _⟩, (members draft _).mpr ⟨rfl, fills⟩, ?_⟩
    simp only [taken]
    rfl

theorem close_object_at_end (rest : List Char) (position : Position) :
    closeObject ⟨'}' :: rest, position⟩ = ⟨⟨rest, position.after '}'⟩, none⟩ := rfl

theorem read_command_iff {before text : List Char} {members : List (String × Value)}
    (spaces : Spaces before) (writes : Writes text (.object members)) (rest : List Char)
    (position : Position) (command : Command) (cursor : Cursor) :
    readCommand ⟨before ++ (text ++ rest), position⟩ = .ok (command, cursor) ↔
      cursor = ⟨rest, (position.afterAll before).afterAll text⟩ ∧ IsCommand members command := by
  cases writes with
  | @object entries gap isGap keys each =>
      have skipped := skip_spaces_to_mark spaces '{' rfl
        (listed true (entries.map Entry.chars) ++ (gap ++ '}' :: rest)) position
      have inside := read_command_members_iff keys each isGap rest
        ((position.afterAll before).after '{') command
      simp only [List.cons_append, List.append_assoc, List.nil_append, readCommand, skipped,
        Cursor.eat, enclosed_ok_iff]
      constructor
      · rintro ⟨stop, isRead, closed⟩
        obtain ⟨rfl, isCommand⟩ := (inside stop).mp isRead
        rw [close_object_at_end] at closed
        cases closed
        simp [isCommand, Position.afterAll]
      · rintro ⟨rfl, isCommand⟩
        refine ⟨_, (inside _).mpr ⟨rfl, isCommand⟩, ?_⟩
        rw [close_object_at_end]
        simp [Position.afterAll]

theorem of_json_with_ok_iff {Result : Type} {read : Cursor → Except Failure (Result × Cursor)}
    {text : String} {result : Result} :
    ofJsonWith read text = .ok result ↔ readWhole read text = .ok result := by
  rw [ofJsonWith]
  cases readWhole read text <;> simp

theorem of_json_with_error {Result : Type} {read : Cursor → Except Failure (Result × Cursor)}
    {text : String} {fault : Fault} (refused : ofJsonWith read text = .error fault) :
    ∃ message, fault = .serialization message := by
  rw [ofJsonWith] at refused
  split at refused
  · cases refused
  · cases refused
    exact ⟨_, rfl⟩

/-- A command is what the members of an object say, however the object is written. -/
theorem of_json_ok_iff {text : String} {members : List (String × Value)} {command : Command}
    (isJson : IsJson text (.object members)) :
    Command.ofJson text = .ok command ↔ IsCommand members command := by
  obtain ⟨item, isText, isObject, writes⟩ := isJson
  rw [isObject] at writes
  rw [Command.ofJson, of_json_with_ok_iff]
  exact read_whole_iff isText (read_command_iff item.spacesBefore writes item.after .start) command

/-! The names in a text. -/

theorem name_unique {value : Value} {name name' : String} (named : value.Names name)
    (named' : value.Names name') : name = name' := by
  rcases named with rfl | rfl
  · rcases named' with same | impossible
    · exact Value.string.inj same
    · cases impossible
  · rcases named' with impossible | same
    · cases impossible
    · cases same
      rfl

/-- A key that comes once has one value. -/
theorem value_unique {members : List (String × Value)} (distinct : (keysOf members).Nodup)
    {key : String} {value value' : Value} (member : (key, value) ∈ members)
    (member' : (key, value') ∈ members) : value = value' := by
  have same := List.inj_on_of_nodup_map distinct member member' rfl
  exact (Prod.mk.inj same).2

namespace IsCommand

variable {members : List (String × Value)} {command : Command} {name : String} {value : Value}

theorem encoding_of_name (isCommand : IsCommand members command)
    (member : ("encoding", value) ∈ members) (named : value.Names name) :
    Encoding.ofText name = .ok command.encoding := by
  obtain ⟨value', member', named'⟩ := isCommand.encoding
  cases value_unique isCommand.distinct member member'
  cases name_unique named named'
  exact command.encoding.of_name

theorem operation_of_name (isCommand : IsCommand members command)
    (member : ("operation", value) ∈ members) (named : value.Names name) :
    Operation.ofText name = .ok command.operation := by
  obtain ⟨value', member', named'⟩ := isCommand.operation
  cases value_unique isCommand.distinct member member'
  cases name_unique named named'
  exact command.operation.of_name

/-- The name of given options is the one under the key of their kind. -/
theorem options_of_name (isCommand : IsCommand members command) {kind : String}
    (member : ("options", .object [(kind, value)]) ∈ members) (named : value.Names name) :
    ∃ options, command.options = some options ∧ kind = options.kind.name ∧
      name = options.valueName := by
  have given := isCommand.options
  cases isOptions : command.options with
  | none =>
      rw [isOptions] at given
      rcases given with noKey | isNull
      · exact absurd (mem_keys_of_mem member) noKey
      · cases value_unique isCommand.distinct member isNull
  | some options =>
      rw [isOptions] at given
      obtain ⟨value', member', inner, isObject, named'⟩ := given
      cases (value_unique isCommand.distinct member member').trans isObject
      exact ⟨options, rfl, rfl, name_unique named named'⟩

end IsCommand

/-- From the JSON text of an object, whatever the space and the escapes in it, comes exactly the
command that its members say: known keys that come once, an encoding and an operation, each by
its name or by an object with null under the name, options or null or nothing, and a list of
strings or nothing. The names in it are looked up as the same variants. So the members may come in
any order, and a key that is unknown or comes twice is refused wherever it stands and whatever is
under it. -/
theorem command_schema :
    (∀ text members, IsJson text (.object members) →
      (∀ command, Command.ofJson text = .ok command ↔ IsCommand members command) ∧
      (∀ command, Command.ofJson text = .ok command →
        (∀ value name, ("encoding", value) ∈ members → value.Names name →
          Encoding.ofText name = .ok command.encoding) ∧
        (∀ value name, ("operation", value) ∈ members → value.Names name →
          Operation.ofText name = .ok command.operation) ∧
        ∀ kind value name, ("options", .object [(kind, value)]) ∈ members → value.Names name →
          (∃ direction, command.options = some (.direction direction) ∧
            Direction.ofText name = .ok direction) ∨
          ∃ order, command.options = some (.order order) ∧ Order.ofText name = .ok order) ∧
      ((¬ (keysOf members).Nodup ∨
          ∃ key ∈ keysOf members, key ∉ ["encoding", "operation", "options", "operands"]) →
        ∃ message, Command.ofJson text = .error (.serialization message))) ∧
    (∀ text text' members members', IsJson text (.object members) →
      IsJson text' (.object members') → members.Perm members' →
      ∀ command, Command.ofJson text = .ok command ↔ Command.ofJson text' = .ok command) ∧
    ∀ text fault, Command.ofJson text = .error fault →
      ∃ message, fault = .serialization message := by
  refine ⟨?_, ?_, ?_⟩
  · intro text members isJson
    refine ⟨fun command => of_json_ok_iff isJson, ?_, ?_⟩
    · intro command accepted
      have isCommand := (of_json_ok_iff isJson).mp accepted
      refine ⟨fun value name => isCommand.encoding_of_name,
        fun value name => isCommand.operation_of_name, ?_⟩
      intro kind value name member named
      obtain ⟨options, isOptions, _, rfl⟩ := isCommand.options_of_name member named
      cases options with
      | direction direction => exact .inl ⟨direction, isOptions, direction.of_name⟩
      | order order => exact .inr ⟨order, isOptions, order.of_name⟩
    · intro unfit
      cases read : Command.ofJson text with
      | error fault =>
          obtain ⟨message, rfl⟩ := of_json_with_error read
          exact ⟨message, rfl⟩
      | ok command =>
          have isCommand := (of_json_ok_iff isJson).mp read
          rcases unfit with twice | ⟨key, isKey, unknown⟩
          · exact absurd isCommand.distinct twice
          · exact absurd (isCommand.known isKey) unknown
  · intro text text' members members' isJson isJson' perm command
    rw [of_json_ok_iff isJson, of_json_ok_iff isJson']
    exact ⟨fun isCommand => isCommand.perm perm, fun isCommand => isCommand.perm perm.symm⟩
  · intro text fault refused
    exact of_json_with_error refused

def spacedText : String :=
  " \x7b\"operands\": [ \"\\u0061 b\" ] ,\n\"options\":\x7b\"direction\" : \"forward\"\x7d," ++
    "\"encoding\" : \"explicit\", \"\\u006Fperation\":\"simulation\"\x7d\t"

def spacedMembers : List (String × Value) :=
  [("operands", .array [.string "a b"]), ("options", .object [("direction", .string "forward")]),
    ("encoding", .string "explicit"), ("operation", .string "simulation")]

def spacedOperand : Item :=
  ⟨[' '], "\"\\u0061 b\"".toList, [' '], .string "a b", by decide, by decide⟩

def spacedDirection : Entry :=
  ⟨"direction", [], written "direction", [' '],
    ⟨[' '], written "forward", [], .string "forward", by decide, by decide⟩, by decide, by decide⟩

def spacedEntries : List Entry :=
  [⟨"operands", [], written "operands", [],
      ⟨[' '], '[' :: (listed true ([spacedOperand].map Item.chars) ++ [] ++ [']']), [' '],
        .array [.string "a b"], by decide, by decide⟩, by decide, by decide⟩,
    ⟨"options", ['\n'], written "options", [],
      .bare ('{' :: (listed true ([spacedDirection].map Entry.chars) ++ [] ++ ['}']))
        (.object [("direction", .string "forward")]), by decide, by decide⟩,
    ⟨"encoding", [], written "encoding", [' '],
      ⟨[' '], written "explicit", [], .string "explicit", by decide, by decide⟩, by decide,
      by decide⟩,
    ⟨"operation", [' '], "\"\\u006Fperation\"".toList, [],
      .bare (written "simulation") (.string "simulation"), by decide, by decide⟩]

theorem spaced_text_is_json : IsJson spacedText (.object spacedMembers) := by
  have zero : IsHexDigit '0' 0 := ⟨by decide, .inl rfl⟩
  have one : IsHexDigit '1' 1 := ⟨by decide, .inl rfl⟩
  have six : IsHexDigit '6' 6 := ⟨by decide, .inl rfl⟩
  have fifteen : IsHexDigit 'F' 15 := ⟨by decide, .inr rfl⟩
  have operand : WritesString "\"\\u0061 b\"".toList "a b" :=
    ⟨_, .cons (.unit (.digits zero zero six one)) (writes_encoded_chars [' ', 'b']), rfl⟩
  have operation : WritesString "\"\\u006Fperation\"".toList "operation" :=
    ⟨_, .cons (.unit (.digits zero zero six fifteen)) (writes_encoded_chars "peration".toList), rfl⟩
  have operands : ∀ item ∈ [spacedOperand], Writes item.text item.value :=
    List.forall_mem_singleton.mpr (.string operand)
  have direction : ∀ entry ∈ [spacedDirection], WritesString entry.keyText entry.key :=
    List.forall_mem_singleton.mpr (writes_written _)
  have forward : ∀ entry ∈ [spacedDirection], Writes entry.item.text entry.item.value :=
    List.forall_mem_singleton.mpr (writes_text _)
  have keys : ∀ entry ∈ spacedEntries, WritesString entry.keyText entry.key := by
    simp only [spacedEntries, List.forall_mem_cons]
    exact ⟨writes_written _, writes_written _, writes_written _, operation, List.forall_mem_nil _⟩
  have values : ∀ entry ∈ spacedEntries, Writes entry.item.text entry.item.value := by
    simp only [spacedEntries, List.forall_mem_cons]
    exact ⟨.array spaces_nil operands, .object spaces_nil direction forward, writes_text _,
      writes_text _, List.forall_mem_nil _⟩
  have chars : spacedText.toList = [' '] ++ ('{' :: (listed true (spacedEntries.map Entry.chars) ++
      [] ++ ['}'])) ++ ['\t'] := by
    decide +kernel
  exact ⟨⟨[' '], _, ['\t'], .object spacedMembers, by decide, by decide⟩, chars, rfl,
    .object spaces_nil keys values⟩

def spacedCommand : Command :=
  { encoding := .explicit
    operation := .simulation
    options := some (.direction .forward)
    operands := ["a b"] }

/-- The text with its space and escapes is the command, and so is the text that is written for it,
whose members come in another order. -/
theorem spaced_text_like_written :
    Command.ofJson spacedText = .ok spacedCommand ∧
      Command.ofJson spacedCommand.toJson = .ok spacedCommand := by
  have rotated : ((spacedMembers.take 2).reverse ++ spacedMembers.drop 2).Perm
      (writtenMembers spacedCommand) := List.perm_append_comm
  have perm : spacedMembers.Perm (writtenMembers spacedCommand) :=
    (List.Perm.swap _ _ _).trans rotated
  have isCommand : IsCommand spacedMembers spacedCommand :=
    { distinct := by decide
      known := by decide
      encoding := ⟨.string "explicit", by simp [spacedMembers], .inl rfl⟩
      operation := ⟨.string "simulation", by simp [spacedMembers], .inl rfl⟩
      options := ⟨.object [("direction", .string "forward")], by simp [spacedMembers], _, rfl,
        .inl rfl⟩
      operands := .inr (by simp [spacedMembers, spacedCommand]) }
  obtain ⟨schema, inAnyOrder, _⟩ := command_schema
  have accepted := ((schema _ _ spaced_text_is_json).1 _).mpr isCommand
  exact ⟨accepted,
    (inAnyOrder _ _ _ _ spaced_text_is_json (is_json_to_json _) perm _).mp accepted⟩

end AutomataRequest.Json
