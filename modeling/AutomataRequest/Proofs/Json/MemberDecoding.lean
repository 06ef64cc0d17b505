import AutomataRequest.Proofs.Json.NameDecoding
import Mathlib.Tactic.SplitIfs

/-!
# What the reader of members takes

The reader of a command goes through the members in their order and fills a draft, each member a
part that is still open. What the draft holds in the end can be said part by part: a part comes
from the one member with its key, or there is no such member.
-/

namespace AutomataRequest.Json

/-- A member of a command: a key with its value. -/
inductive Member where
  | encoding (value : Encoding)
  | operation (value : Operation)
  | options (value : Option Options)
  | operands (value : List String)

namespace Member

def field : Member → Field
  | .encoding _ => .encoding
  | .operation _ => .operation
  | .options _ => .options
  | .operands _ => .operands

end Member

/-- Reads the value of a member with a given key. -/
def Field.readValue : Field → Cursor → Except Failure (Member × Cursor)
  | .encoding => wrapping .encoding readEncoding
  | .operation => wrapping .operation readOperation
  | .options => wrapping .options (readOptional readOptions)
  | .operands => wrapping .operands readTexts

/-- The value of a member. Null and no options at all come to the same. -/
def Value.IsMember (value : Value) : Member → Prop
  | .encoding encoding => value.Names encoding.name
  | .operation operation => value.Names operation.name
  | .options none => value = .null
  | .options (some options) => value.IsOptions options
  | .operands operands => value = .array (operands.map Value.string)

theorem decodes_optional_options :
    Decodes (readOptional readOptions) fun value options => value.IsMember (.options options) := by
  have notNull (options : Options) : ¬ Value.IsOptions .null options := by
    rintro ⟨_, isObject, _⟩
    cases isObject
  refine (decodes_optional decodes_options notNull).of_iff ?_
  intro value options
  cases options with
  | none => simp [Value.IsMember]
  | some options => simp [Value.IsMember]

/-- The four readers are alike: each takes the values of its own key. -/
theorem decodes_member (field : Field) :
    Decodes field.readValue fun value member => member.field = field ∧ value.IsMember member := by
  cases field with
  | encoding =>
      refine ((decodes_name encodings_by_name).wrapped Member.encoding).of_iff ?_
      intro value member
      cases member <;> simp [Member.field, Value.IsMember]
  | operation =>
      refine ((decodes_name operations_by_name).wrapped Member.operation).of_iff ?_
      intro value member
      cases member <;> simp [Member.field, Value.IsMember]
  | options =>
      refine (decodes_optional_options.wrapped Member.options).of_iff ?_
      intro value member
      cases member <;> simp [Member.field]
  | operands =>
      refine (decodes_texts.wrapped Member.operands).of_iff ?_
      intro value member
      cases member <;> simp [Member.field, Value.IsMember]

/-! Members. -/

namespace Draft

def has (draft : Draft) : Field → Bool
  | .encoding => draft.encoding.isSome
  | .operation => draft.operation.isSome
  | .options => draft.options.isSome
  | .operands => draft.operands.isSome

def add (draft : Draft) : Member → Draft
  | .encoding value => { draft with encoding := some value }
  | .operation value => { draft with operation := some value }
  | .options value => { draft with options := some value }
  | .operands value => { draft with operands := some value }

theorem has_add_of_ne (draft : Draft) {member : Member} {field : Field}
    (other : member.field ≠ field) : (draft.add member).has field = draft.has field := by
  cases member <;> cases field <;> first | rfl | exact absurd rfl other

end Draft

/-- What the reader does with a key, the same for every key that is known. -/
def readMembersAfter (draft : Draft) (key : String) (cursor : Cursor) :
    Except Failure (Draft × Cursor) :=
  match Field.ofName? key with
  | none =>
      .error (.unplaced (.mismatch (.unknownField key (Field.all.map Field.name))) cursor)
  | some field =>
      if draft.has field then .error (.unplaced (.mismatch (.duplicateField key)) cursor)
      else match readMember field.readValue cursor with
        | .error failure => .error failure
        | .ok (member, cursor) => readMembers (draft.add member) false cursor

theorem read_member_wrapped {Value Wrapped : Type} (wrap : Value → Wrapped)
    (read : Cursor → Except Failure (Value × Cursor)) (cursor : Cursor) :
    readMember (wrapping wrap read) cursor = wrapping wrap (readMember read) cursor := by
  simp only [readMember, wrapping, bind, Except.bind]
  cases readColon cursor <;> rfl

theorem read_members_eq (draft : Draft) (isFirst : Bool) (cursor : Cursor) :
    readMembers draft isFirst cursor =
      match nextKey isFirst cursor with
      | .error failure => .error failure
      | .ok (none, cursor) => .ok (draft, cursor)
      | .ok (some key, cursor) => readMembersAfter draft key cursor := by
  rw [readMembers]
  generalize nextKey isFirst cursor = next
  obtain _ | ⟨_ | key, after⟩ := next
  · rfl
  · rfl
  · simp only [readMembersAfter]
    cases Field.ofName? key with
    | none => rfl
    | some field =>
        -- The four keys differ in their draft field and their reader, and in nothing else.
        cases field
        all_goals
          simp only [Draft.has, Draft.add, Field.readValue, read_member_wrapped]
          split
          · rename_i given
            simp only [given, Option.isSome_some, if_true]
          · rename_i given
            simp only [given, Option.isSome_none, Bool.false_eq_true, if_false]
            split
            · rename_i failed
              rw [wrapping, failed]
              rfl
            · rename_i read
              rw [wrapping, read]
              rfl

theorem field_of_name (field : Field) : Field.ofName? field.name = some field := by
  cases field <;> rfl

theorem field_of_name_iff {key : String} {field : Field} :
    Field.ofName? key = some field ↔ field.name = key := by
  constructor
  · intro found
    have sameName := List.find?_some found
    exact beq_iff_eq.mp sameName
  · rintro rfl
    exact field_of_name field

/-- Members fill a draft one after the other, each a part that is still open. -/
inductive Fills : Draft → List (String × Value) → Draft → Prop
  | done {draft : Draft} : Fills draft [] draft
  | next {draft after : Draft} {key : String} {value : Value} {rest : List (String × Value)}
      {member : Member} (isKey : member.field.name = key)
      (isNew : draft.has member.field = false) (isValue : value.IsMember member)
      (fillsRest : Fills (draft.add member) rest after) : Fills draft ((key, value) :: rest) after

theorem fills_nil_iff {draft after : Draft} : Fills draft [] after ↔ after = draft := by
  constructor
  · intro fills
    cases fills
    rfl
  · rintro rfl
    exact .done

theorem next_key_behind {before gap : List Char} (spaces : Spaces before) (isGap : Spaces gap)
    (isFirst : Bool) (rest : List Char) (position : Position) :
    nextKey isFirst ⟨before ++ (gap ++ '}' :: rest), position⟩ =
      .ok (none, ⟨'}' :: rest, (position.afterAll before).afterAll gap⟩) := by
  simp only [nextKey, skip_spaces_append spaces, skip_spaces_to_mark isGap '}' rfl]

theorem next_key_of_entry (isFirst : Bool) {before : List Char} (spaces : Spaces before)
    {entry : Entry} (writesKey : WritesString entry.keyText entry.key) (rest : List Char)
    (position : Position) :
    nextKey isFirst
        ⟨before ++ (leadIn isFirst ++ (entry.before ++ (entry.keyText ++ rest))), position⟩ =
      .ok (some entry.key, ⟨rest, (((position.afterAll before).afterAll
        (leadIn isFirst)).afterAll entry.before).afterAll entry.keyText⟩) := by
  obtain ⟨inner, writesInner, isKey⟩ := writesKey
  have skipped := skip_spaces_to_mark entry.spacesBefore '"' rfl (inner ++ ['"'] ++ rest)
  rw [isKey, List.cons_append]
  cases isFirst with
  | true =>
      have read := reads_closed_string writesInner rest
        (((position.afterAll before).afterAll entry.before).after '"')
      simp only [nextKey, leadIn, if_true, List.nil_append, skip_spaces_append spaces, skipped,
        Cursor.eat, read, bind, Except.bind]
      rfl
  | false =>
      have atComma := skip_spaces_to_mark spaces ',' rfl
        (entry.before ++ '"' :: (inner ++ ['"'] ++ rest)) position
      have read := reads_closed_string writesInner rest
        ((((position.afterAll before).after ',').afterAll entry.before).after '"')
      simp only [nextKey, leadIn, Bool.false_eq_true, if_false, List.cons_append,
        List.nil_append, atComma, Cursor.eat, skipped, read, bind, Except.bind]
      rfl

/-- The value of a member is read behind its colon. -/
theorem read_member_iff (field : Field) {entry : Entry}
    (writes : Writes entry.item.text entry.item.value) (rest : List Char) (position : Position)
    (member : Member) (cursor : Cursor) :
    readMember field.readValue
        ⟨entry.after ++ ':' :: (entry.item.before ++ (entry.item.text ++ rest)), position⟩ =
        .ok (member, cursor) ↔
      cursor = ⟨rest, (((position.afterAll entry.after).after ':').afterAll
        entry.item.before).afterAll entry.item.text⟩ ∧
        member.field = field ∧ entry.item.value.IsMember member := by
  rw [readMember, read_colon_behind entry.spacesAfter]
  exact decodes_member field entry.item.spacesBefore writes rest _ member cursor

theorem read_members_iff {entries : List Entry}
    (keys : ∀ entry ∈ entries, WritesString entry.keyText entry.key)
    (each : ∀ entry ∈ entries, Writes entry.item.text entry.item.value) {gap : List Char}
    (isGap : Spaces gap) (draft : Draft) (isFirst : Bool) {before : List Char}
    (spaces : Spaces before) (rest : List Char) (position : Position) (after : Draft)
    (cursor : Cursor) :
    readMembers draft isFirst ⟨before ++ (listed isFirst (entries.map Entry.chars) ++
        (gap ++ '}' :: rest)), position⟩ = .ok (after, cursor) ↔
      cursor = ⟨'}' :: rest, ((position.afterAll before).afterAll
        (listed isFirst (entries.map Entry.chars))).afterAll gap⟩ ∧
        Fills draft (entries.map Entry.member) after := by
  induction entries generalizing draft isFirst before position with
  | nil =>
      simp only [List.map_nil, listed, List.nil_append, read_members_eq,
        next_key_behind spaces isGap, Except.ok.injEq, Prod.mk.injEq, after_all_nil, fills_nil_iff]
      exact and_comm.trans (and_congr eq_comm eq_comm)
  | cons entry entries ih =>
      have key := next_key_of_entry isFirst spaces (keys entry List.mem_cons_self)
        (entry.after ++ ':' :: (entry.item.before ++ (entry.item.text ++ (entry.item.after ++
          (listed false (entries.map Entry.chars) ++ (gap ++ '}' :: rest)))))) position
      have value (field : Field) := read_member_iff field (each entry List.mem_cons_self)
        (entry.item.after ++ (listed false (entries.map Entry.chars) ++ (gap ++ '}' :: rest)))
        ((((position.afterAll before).afterAll (leadIn isFirst)).afterAll
          entry.before).afterAll entry.keyText)
      have others := ih (fun other later => keys other (List.mem_cons_of_mem _ later))
        (fun other later => each other (List.mem_cons_of_mem _ later))
      simp only [List.map_cons, listed, Entry.chars, Entry.keyChars, Item.chars,
        List.append_assoc, List.cons_append, List.nil_append, after_all_append, after_all_cons]
      rw [read_members_eq, key]
      simp only [readMembersAfter]
      constructor
      · intro accepted
        split at accepted
        · cases accepted
        · rename_i field isKey
          split_ifs at accepted with isGiven
          split at accepted
          · cases accepted
          · rename_i member next isRead
            obtain ⟨rfl, rfl, isValue⟩ := (value field _ _).mp isRead
            obtain ⟨rfl, fills⟩ := (others _ _ entry.item.spacesAfter _).mp accepted
            have isNew : draft.has member.field = false := by simpa using isGiven
            exact ⟨rfl, .next (field_of_name_iff.mp isKey) isNew isValue fills⟩
      · rintro ⟨rfl, fills⟩
        cases fills with
        | @next _ _ _ _ _ member isKey isNew isValue fillsRest =>
            have isRead := (value member.field member _).mpr ⟨rfl, rfl, isValue⟩
            simp only [field_of_name_iff.mpr isKey, isNew, Bool.false_eq_true, if_false, isRead]
            exact (others _ _ entry.item.spacesAfter _).mpr ⟨rfl, fillsRest⟩

/-! What a draft holds in the end. -/

namespace Draft

/-- The part of a draft that goes under a key, as the member that would give it. -/
def part (draft : Draft) : Field → Option Member
  | .encoding => draft.encoding.map .encoding
  | .operation => draft.operation.map .operation
  | .options => draft.options.map .options
  | .operands => draft.operands.map .operands

theorem has_iff_part {draft : Draft} {field : Field} :
    draft.has field = false ↔ draft.part field = none := by
  cases field <;> simp [has, part]

theorem part_add_self (draft : Draft) (member : Member) :
    (draft.add member).part member.field = some member := by
  cases member <;> rfl

theorem part_add_of_ne (draft : Draft) {member : Member} {field : Field}
    (other : member.field ≠ field) : (draft.add member).part field = draft.part field := by
  cases member <;> cases field <;> first | rfl | exact absurd rfl other

theorem eq_of_parts {draft draft' : Draft}
    (same : ∀ field, draft.part field = draft'.part field) : draft = draft' := by
  have sameEncoding := same .encoding
  have sameOperation := same .operation
  have sameOptions := same .options
  have sameOperands := same .operands
  cases draft
  cases draft'
  simp only [part] at sameEncoding sameOperation sameOptions sameOperands
  rw [Option.map_inj_right (by simp)] at sameEncoding sameOperation sameOptions sameOperands
  simp_all

end Draft

/-- The keys of an object, in their order. -/
def keysOf (members : List (String × Value)) : List String := members.map Prod.fst

/-- A part is left as it was, or it is given by a member where it was open. -/
inductive Comes (draft : Draft) (members : List (String × Value)) (field : Field)
    (part : Option Member) : Prop
  | left (noKey : field.name ∉ keysOf members) (isLeft : part = draft.part field)
  | given {value : Value} {member : Member} (isOpen : draft.has field = false)
      (isMember : (field.name, value) ∈ members) (isField : member.field = field)
      (isValue : value.IsMember member) (isGiven : part = some member)

theorem mem_keys_of_mem {members : List (String × Value)} {key : String} {value : Value}
    (member : (key, value) ∈ members) : key ∈ keysOf members :=
  List.mem_map_of_mem member

theorem field_name_injective : Function.Injective Field.name := by
  intro field field' same
  exact Option.some.inj ((field_of_name field).symm.trans (same ▸ field_of_name field'))

section

variable {draft after : Draft} {key : String} {value : Value} {rest : List (String × Value)}
  {member : Member}

/-- The first member gives its own part and leaves the others to those that follow. -/
theorem comes_of_next (isKey : member.field.name = key) (isNew : draft.has member.field = false)
    (isValue : value.IsMember member) (noKey : key ∉ keysOf rest)
    (comes : ∀ field, Comes (draft.add member) rest field (after.part field)) (field : Field) :
    Comes draft ((key, value) :: rest) field (after.part field) := by
  by_cases isField : member.field = field
  · subst isField
    cases comes member.field with
    | left _ isLeft =>
        rw [Draft.part_add_self] at isLeft
        exact .given isNew (isKey ▸ List.mem_cons_self) rfl isValue isLeft
    | given _ isMember => exact absurd (isKey ▸ mem_keys_of_mem isMember) noKey
  · have otherKey : field.name ≠ key := by
      rintro rfl
      exact isField (field_name_injective isKey)
    cases comes field with
    | left noKey isLeft =>
        rw [Draft.part_add_of_ne draft isField] at isLeft
        refine .left ?_ isLeft
        simpa [keysOf, otherKey] using noKey
    | given isOpen isMember sameField isOther isGiven =>
        rw [draft.has_add_of_ne isField] at isOpen
        exact .given isOpen (List.mem_cons_of_mem _ isMember) sameField isOther isGiven

/-- Those that follow have what the first member does not give. -/
theorem comes_to_rest (isKey : member.field.name = key) (noKey : key ∉ keysOf rest)
    (isPart : after.part member.field = some member)
    (comes : ∀ field, Comes draft ((key, value) :: rest) field (after.part field))
    (field : Field) : Comes (draft.add member) rest field (after.part field) := by
  by_cases isField : member.field = field
  · subst isField
    refine .left (isKey ▸ noKey) ?_
    rw [Draft.part_add_self, isPart]
  · have otherKey : field.name ≠ key := by
      rintro rfl
      exact isField (field_name_injective isKey)
    cases comes field with
    | left noKey isLeft =>
        refine .left (fun later => noKey (List.mem_cons_of_mem _ later)) ?_
        rw [Draft.part_add_of_ne draft isField, isLeft]
    | given isOpen isMember sameField isOther isGiven =>
        rw [← draft.has_add_of_ne isField] at isOpen
        refine .given isOpen ?_ sameField isOther isGiven
        exact (List.mem_cons.mp isMember).resolve_left fun same => otherKey (Prod.mk.inj same).1

end

theorem fills_iff {draft after : Draft} {members : List (String × Value)} :
    Fills draft members after ↔
      (keysOf members).Nodup ∧ (∀ key ∈ keysOf members, ∃ field : Field, field.name = key) ∧
        ∀ field, Comes draft members field (after.part field) := by
  induction members generalizing draft with
  | nil =>
      rw [fills_nil_iff]
      constructor
      · rintro rfl
        exact ⟨List.nodup_nil, by simp [keysOf], fun field => .left List.not_mem_nil rfl⟩
      · rintro ⟨_, _, comes⟩
        apply Draft.eq_of_parts
        intro field
        cases comes field with
        | left _ isLeft => exact isLeft
        | given _ isMember => cases isMember
  | cons entry rest ih =>
      obtain ⟨key, value⟩ := entry
      constructor
      · intro fills
        cases fills with
        | @next _ _ _ _ _ member isKey isNew isValue fillsRest =>
            obtain ⟨distinct, known, comes⟩ := ih.mp fillsRest
            have noKey : key ∉ keysOf rest := by
              cases comes member.field with
              | left noKey => exact isKey ▸ noKey
              | given isOpen =>
                  rw [Draft.has_iff_part, Draft.part_add_self] at isOpen
                  cases isOpen
            refine ⟨List.nodup_cons.mpr ⟨noKey, distinct⟩, ?_,
              comes_of_next isKey isNew isValue noKey comes⟩
            intro other isKeyOf
            rcases List.mem_cons.mp isKeyOf with rfl | later
            · exact ⟨member.field, isKey⟩
            · exact known other later
      · rintro ⟨distinct, known, comes⟩
        obtain ⟨noKey, distinctRest⟩ := List.nodup_cons.mp distinct
        obtain ⟨field, isKey⟩ := known key List.mem_cons_self
        have knownRest := fun other later => known other (List.mem_cons_of_mem _ later)
        cases comes field with
        | left noName => exact absurd (isKey ▸ List.mem_cons_self) noName
        | @given inner member isOpen isMember isField isValue isGiven =>
            subst isField
            have sameValue : inner = value := by
              rcases List.mem_cons.mp isMember with same | later
              · exact (Prod.mk.inj same).2
              · exact absurd (isKey ▸ mem_keys_of_mem later) noKey
            subst sameValue
            exact .next isKey isOpen isValue
              (ih.mpr ⟨distinctRest, knownRest, comes_to_rest isKey noKey isGiven comes⟩)

end AutomataRequest.Json
