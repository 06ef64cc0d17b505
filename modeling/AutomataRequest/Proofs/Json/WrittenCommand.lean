import AutomataRequest.Proofs.Json.CommandSchema
import AutomataRequest.Tokens

/-!
# Written commands are read back

A command is written as the object of its members, without its options if it has none. That is a
JSON text, and the members are those of the command and of no other; so what is written is read as
the command it was.
-/

namespace AutomataRequest.Json

/-- The members that are written are those of the command. -/
theorem is_command_written (command : Command) : IsCommand (writtenMembers command) command := by
  obtain ⟨encoding, operation, options, operands⟩ := command
  have isEncoding : (Member.encoding encoding).value.Names encoding.name := .inl rfl
  have isOperation : (Member.operation operation).value.Names operation.name := .inl rfl
  cases options with
  | none =>
      have keys : keysOf (writtenMembers ⟨encoding, operation, none, operands⟩) =
          ["encoding", "operation", "operands"] := rfl
      exact
        { distinct := by rw [keys]; decide
          known := by rw [keys]; decide
          encoding := ⟨_, .head _, isEncoding⟩
          operation := ⟨_, .tail _ (.head _), isOperation⟩
          options := .inl (by rw [keys]; decide)
          operands := .inr (.tail _ (.tail _ (.head _))) }
  | some options =>
      have keys : keysOf (writtenMembers ⟨encoding, operation, some options, operands⟩) =
          ["encoding", "operation", "options", "operands"] := rfl
      exact
        { distinct := by rw [keys]; decide
          known := by rw [keys]; decide
          encoding := ⟨_, .head _, isEncoding⟩
          operation := ⟨_, .tail _ (.head _), isOperation⟩
          options := ⟨_, .tail _ (.tail _ (.head _)), _, rfl, .inl rfl⟩
          operands := .inr (.tail _ (.tail _ (.tail _ (.head _)))) }

theorem uncontrolled_value_text (member : Member) : IsUncontrolled member.valueText := by
  cases member with
  | encoding value =>
      rw [Member.valueText, Encoding.toJson, encode_text_chars]
      exact uncontrolled_written value.name
  | operation value =>
      rw [Member.valueText, Operation.toJson, encode_text_chars]
      exact uncontrolled_written value.name
  | options value =>
      cases value with
      | none => decide
      | some options =>
          rw [Member.valueText, options_text_chars]
          refine uncontrolled_cons (by decide) (uncontrolled_append (uncontrolled_append
            (uncontrolled_append (uncontrolled_written _) ?_) (uncontrolled_written _)) ?_)
          · decide
          · decide
  | operands value => exact uncontrolled_encode_texts value

theorem uncontrolled_command_text (command : Command) :
    IsUncontrolled command.toJson.toList := by
  rw [command_text_chars]
  refine uncontrolled_cons (by decide) (uncontrolled_append (uncontrolled_listed true ?_) ?_)
  · intro item isItem
    obtain ⟨member, _, rfl⟩ := List.mem_map.mp isItem
    exact uncontrolled_append (uncontrolled_written _)
      (uncontrolled_cons (by decide) (uncontrolled_value_text member))
  · decide

end AutomataRequest.Json

namespace AutomataRequest.Command

theorem of_json_to_json (command : Command) : ofJson command.toJson = .ok command :=
  (Json.of_json_ok_iff (Json.is_json_to_json command)).mpr (Json.is_command_written command)

/-- A written command is read as the command it was, from a text without control characters, and
so it has the tokens or the fault that it had. -/
theorem json_text_keeps_command (command : Command) :
    ofJson command.toJson = .ok command ∧
      (∀ char ∈ command.toJson.toList, 0x20 ≤ char.toNat) ∧
      (ofJson command.toJson).bind tokens = command.tokens := by
  refine ⟨of_json_to_json command, Json.uncontrolled_command_text command, ?_⟩
  rw [of_json_to_json]
  rfl

end AutomataRequest.Command
