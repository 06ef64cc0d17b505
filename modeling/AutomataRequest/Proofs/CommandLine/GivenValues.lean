import AutomataRequest.Proofs.CommandLine.SplitParts
import Mathlib.Data.List.Induction

/-!
# What parts say of a flag

A flag is given once at most, so what a level holds under it is the value of the one text that
some part gives it, and nothing if no part does. How one part changes a level is said once, for
flags and for plain arguments; a setting is a field that a single flag changes. Directions and
orders are settings, and as they exclude each other a request has the one that was given.
-/

namespace AutomataRequest.CommandLine

namespace Given

/-- What a text can set a flag to. -/
inductive SetsFlag (given : Given) : Flag → String → Given → Prop
  | config {text path : String} : SetsFlag given .config text { given with config := some path }
  | format {text : String} {format : OutputFormat} :
      SetsFlag given .format text { given with format := some format }
  | withProgram {text : String} : SetsFlag given .withProgram text { given with withProgram := true }
  | help {text : String} : SetsFlag given .help text given
  | encoding {text : String} {encoding : Encoding} (isRead : Encoding.ofText text = .ok encoding) :
      SetsFlag given .encoding text { given with encoding := some encoding }
  | direction {text : String} {direction : Direction}
      (isRead : Direction.ofText text = .ok direction) :
      SetsFlag given .direction text { given with direction := some direction }
  | order {text : String} {order : Order} (isRead : Order.ofText text = .ok order) :
      SetsFlag given .order text { given with order := some order }

/-- Where a text can be placed. -/
inductive Places (given : Given) : Place → List String → Given → Prop
  | operation {text : String} {rest : List String} {operation : Operation}
      (isRead : Operation.ofText text = .ok operation) :
      Places given .operation (text :: rest) { given with operation := some operation }
  | operands {texts : List String} :
      Places given .operands texts { given with operands := given.operands ++ texts }
  | file {text path : String} {rest : List String} :
      Places given .file (text :: rest) { given with file := some path }
  | left {text : String} {rest : List String} :
      Places given .left (text :: rest) { given with left := some text }
  | right {text : String} {rest : List String} :
      Places given .right (text :: rest) { given with right := some text }

variable {given after : Given} {flag : Flag} {place : Place} {text : String}

theorem of_checked_ok {Value : Type} {slot : Slot} {read : Except Fault Value} {value : Value}
    (isOk : checked slot text read = .ok value) : read = .ok value := by
  cases read with
  | ok found =>
      cases isOk
      rfl
  | error fault => cases isOk

theorem sets_flag_of_ok (isSet : given.setFlag flag text = .ok after) :
    given.SetsFlag flag text after := by
  cases flag with
  | config =>
      obtain ⟨path, _, same⟩ := of_bind_ok isSet
      cases same
      exact .config
  | format =>
      obtain ⟨format, _, same⟩ := of_bind_ok isSet
      cases same
      exact .format
  | withProgram =>
      cases isSet
      exact .withProgram
  | help =>
      cases isSet
      exact .help
  | encoding =>
      obtain ⟨encoding, isRead, same⟩ := of_bind_ok isSet
      cases same
      exact .encoding (of_checked_ok isRead)
  | direction =>
      obtain ⟨direction, isRead, same⟩ := of_bind_ok isSet
      cases same
      exact .direction (of_checked_ok isRead)
  | order =>
      obtain ⟨order, isRead, same⟩ := of_bind_ok isSet
      cases same
      exact .order (of_checked_ok isRead)

theorem places_of_ok {texts : List String} (isPlaced : given.addPlace place texts = .ok after) :
    given.Places place texts after := by
  cases texts with
  | nil =>
      cases place with
      | operands =>
          cases isPlaced
          exact .operands
      | operation | file | left | right => cases isPlaced
  | cons text rest =>
      cases place with
      | operation =>
          obtain ⟨operation, isRead, same⟩ := of_bind_ok isPlaced
          cases same
          exact .operation (of_checked_ok isRead)
      | operands =>
          cases isPlaced
          exact .operands
      | file =>
          obtain ⟨path, _, same⟩ := of_bind_ok isPlaced
          cases same
          exact .file
      | left =>
          cases isPlaced
          exact .left
      | right =>
          cases isPlaced
          exact .right

theorem SetsFlag.seen (sets : given.SetsFlag flag text after) : after.seen = given.seen := by
  cases sets <;> rfl

theorem Places.seen {texts : List String} (places : given.Places place texts after) :
    after.seen = given.seen := by
  cases places <;> rfl

/-- A flag is added once, and what it sets is then marked as seen. -/
theorem of_add_flag_ok (isAdded : given.addFlag flag text = .ok after) :
    flag ∉ given.seen ∧ ∃ set, given.SetsFlag flag text set ∧
      after = { set with seen := given.seen ++ [flag] } := by
  unfold addFlag at isAdded
  split_ifs at isAdded with isSeen
  obtain ⟨set, isSet, same⟩ := of_bind_ok isAdded
  have sets := sets_flag_of_ok isSet
  cases same
  refine ⟨fun member => isSeen (List.contains_iff_mem.mpr member), set, sets, ?_⟩
  rw [sets.seen]

end Given

/-- One of the parts gives the flag this text. -/
def Gives (parts : List Part) (flag : Flag) (text : String) : Prop :=
  ∃ word form, Part.flag flag word form text ∈ parts

namespace Gives

variable {parts : List Part} {flag other : Flag} {text text' word : String} {form : Form}

theorem append_iff {part : Part} :
    Gives (parts ++ [part]) flag text ↔ Gives parts flag text ∨ Gives [part] flag text := by
  simp only [Gives, List.mem_append, exists_or]

theorem flag_iff : Gives [.flag other word form text'] flag text ↔ flag = other ∧ text = text' := by
  constructor
  · rintro ⟨_, _, member⟩
    obtain ⟨rfl, -, -, rfl⟩ := Part.flag.inj (List.mem_singleton.mp member)
    exact ⟨rfl, rfl⟩
  · rintro ⟨rfl, rfl⟩
    exact ⟨word, form, List.mem_singleton_self _⟩

theorem not_plain {place : Place} : ¬Gives [.plain place text'] flag text := by
  rintro ⟨_, _, member⟩
  cases List.mem_singleton.mp member

theorem not_escape : ¬Gives [.escape] flag text := by
  rintro ⟨_, _, member⟩
  cases List.mem_singleton.mp member

end Gives

/-- A field that one flag sets to the value of its text and that nothing else changes. -/
structure IsSetting {Value : Type} (flag : Flag) (read : String → Except Fault Value)
    (field : Given → Option Value) : Prop where
  unset : field {} = none
  set : ∀ {given after : Given} {text : String}, given.SetsFlag flag text after →
    ∃ value, read text = .ok value ∧ field after = some value
  kept : ∀ {given after : Given} {other : Flag} {text : String}, other ≠ flag →
    given.SetsFlag other text after → field after = field given
  placed : ∀ {given after : Given} {place : Place} {texts : List String},
    given.Places place texts after → field after = field given
  marked : ∀ (given : Given) (seen : List Flag), field { given with seen } = field given

theorem direction_setting : IsSetting .direction Direction.ofText Given.direction where
  unset := rfl
  set := by
    rintro given after text ⟨⟩
    rename_i direction isRead
    exact ⟨direction, isRead, rfl⟩
  kept := by
    intro given after other text isOther sets
    cases sets with
    | direction => exact absurd rfl isOther
    | config | format | withProgram | help | encoding | order => rfl
  placed := by
    intro given after place texts places
    cases places <;> rfl
  marked := fun _ _ => rfl

theorem order_setting : IsSetting .order Order.ofText Given.order where
  unset := rfl
  set := by
    rintro given after text ⟨⟩
    rename_i order isRead
    exact ⟨order, isRead, rfl⟩
  kept := by
    intro given after other text isOther sets
    cases sets with
    | order => exact absurd rfl isOther
    | config | format | withProgram | help | encoding | direction => rfl
  placed := by
    intro given after place texts places
    cases places <;> rfl
  marked := fun _ _ => rfl

/-- What a level holds once these parts were added. -/
structure Records {Value : Type} (flag : Flag) (read : String → Except Fault Value)
    (field : Given → Option Value) (parts : List Part) (given : Given) : Prop where
  seen : ∀ other, other ∈ given.seen ↔ ∃ text, Gives parts other text
  value : ∀ value, field given = some value ↔ ∃ text, Gives parts flag text ∧ read text = .ok value
  readable : ∀ text, Gives parts flag text → ∃ value, read text = .ok value

section

variable {Value : Type} {flag : Flag} {read : String → Except Fault Value}
  {field : Given → Option Value} {parts : List Part} {given after : Given}

theorem IsSetting.start (setting : IsSetting flag read field) : Records flag read field [] {} := by
  have none (flag : Flag) (text : String) : ¬Gives [] flag text := by
    rintro ⟨_, _, member⟩
    cases member
  refine ⟨?_, ?_, ?_⟩
  · intro other
    simp [none]
  · intro value
    simp [none, setting.unset]
  · intro text given
    exact absurd given (none flag text)

/-- A part that is no flag changes nothing. -/
theorem Records.silent {part : Part} (records : Records flag read field parts given)
    (silent : ∀ other text, ¬Gives [part] other text) (sameSeen : after.seen = given.seen)
    (sameField : field after = field given) : Records flag read field (parts ++ [part]) after := by
  refine ⟨?_, ?_, ?_⟩
  · intro other
    simp only [Gives.append_iff, silent, or_false, sameSeen, records.seen]
  · intro value
    simp only [Gives.append_iff, silent, or_false, sameField, records.value]
  · intro text given
    rw [Gives.append_iff] at given
    exact records.readable text (given.resolve_right (silent flag text))

/-- The step: one part more. -/
theorem IsSetting.add_part (setting : IsSetting flag read field)
    (records : Records flag read field parts given) {part : Part}
    (added : given.addPart part = .ok after) : Records flag read field (parts ++ [part]) after := by
  cases part with
  | escape =>
      cases added
      exact records.silent (fun _ _ => Gives.not_escape) rfl rfl
  | plain place text =>
      have places := Given.places_of_ok added
      exact records.silent (fun _ _ => Gives.not_plain) places.seen (setting.placed places)
  | flag other word form text =>
      obtain ⟨isNew, set, sets, rfl⟩ := Given.of_add_flag_ok added
      have notGiven (text : String) : ¬Gives parts other text :=
        fun given => isNew ((records.seen other).mpr ⟨text, given⟩)
      have seen (flag : Flag) : flag ∈ given.seen ++ [other] ↔
          ∃ text', Gives (parts ++ [.flag other word form text]) flag text' := by
        simp only [Gives.append_iff, Gives.flag_iff, exists_or, List.mem_append,
          List.mem_singleton, records.seen, exists_and_left, exists_eq, and_true]
      by_cases isOther : other = flag
      · subst isOther
        obtain ⟨value, isRead, isField⟩ := setting.set sets
        have onlyText (text' : String) :
            Gives (parts ++ [.flag other word form text]) other text' ↔ text' = text := by
          simp only [Gives.append_iff, notGiven, Gives.flag_iff, true_and, false_or]
        refine ⟨seen, ?_, ?_⟩
        · intro value'
          rw [setting.marked, isField]
          simp only [onlyText, exists_eq_left, isRead, Option.some.injEq, Except.ok.injEq]
        · intro text' given
          rw [(onlyText text').mp given]
          exact ⟨value, isRead⟩
      · have isAbove (text' : String) :
            Gives (parts ++ [.flag other word form text]) flag text' ↔ Gives parts flag text' := by
          simp only [Gives.append_iff, Gives.flag_iff, Ne.symm isOther, false_and, or_false]
        refine ⟨seen, ?_, ?_⟩
        · intro value
          rw [setting.marked, setting.kept isOther sets]
          simp only [isAbove, records.value]
        · intro text' given
          exact records.readable text' ((isAbove text').mp given)

/-- The run: a level holds under a flag what its parts say. -/
theorem IsSetting.records (setting : IsSetting flag read field)
    (isGiven : ({} : Given).addParts parts = .ok given) : Records flag read field parts given := by
  induction parts using List.reverseRecOn generalizing given with
  | nil =>
      cases isGiven
      exact setting.start
  | append_singleton parts part ih =>
      rw [Given.addParts, List.foldlM_append] at isGiven
      obtain ⟨held, isHeld, added⟩ := of_bind_ok isGiven
      rw [List.foldlM_cons] at added
      obtain ⟨last, added, same⟩ := of_bind_ok added
      cases same
      exact setting.add_part (ih isHeld) added

theorem IsSetting.none_iff (setting : IsSetting flag read field)
    (isGiven : ({} : Given).addParts parts = .ok given) :
    field given = none ↔ ¬∃ text, Gives parts flag text := by
  have records := setting.records isGiven
  constructor
  · rintro isNone ⟨text, given⟩
    obtain ⟨value, isRead⟩ := records.readable text given
    rw [(records.value value).mpr ⟨text, given, isRead⟩] at isNone
    cases isNone
  · intro noText
    cases isField : field given with
    | none => rfl
    | some value =>
        obtain ⟨text, given, _⟩ := (records.value value).mp isField
        exact absurd ⟨text, given⟩ noText

end

theorem Given.conflict_of_seen {given : Given} (direction : Flag.direction ∈ given.seen)
    (order : Flag.order ∈ given.seen) : given.conflict? ≠ none := by
  have isDirection : Flag.direction ∈ given.seen.filter
      fun flag => flag == .direction || flag == .order :=
    List.mem_filter.mpr ⟨direction, rfl⟩
  have isOrder : Flag.order ∈ given.seen.filter
      fun flag => flag == .direction || flag == .order :=
    List.mem_filter.mpr ⟨order, rfl⟩
  unfold conflict?
  generalize given.seen.filter (fun flag => flag == .direction || flag == .order) = both at *
  match both with
  | [] => cases isDirection
  | [flag] =>
      cases List.mem_singleton.mp isDirection
      cases List.mem_singleton.mp isOrder
  | _ :: _ :: _ => nofun

/-! The option of a request. -/

namespace Given

variable {given : Given}

theorem options_of_one (one : given.direction = none ∨ given.order = none) :
    (∀ direction, given.options = some (.direction direction) ↔ given.direction = some direction) ∧
      (∀ order, given.options = some (.order order) ↔ given.order = some order) ∧
      (given.options = none ↔ given.direction = none ∧ given.order = none) := by
  unfold options
  rcases one with isNone | isNone
  · rw [isNone]
    cases given.order <;> simp
  · rw [isNone]
    cases given.direction <;> simp

end Given

/-- The options of a request that has any. -/
inductive Request.HasOptions : Request → Option Options → Prop
  | render (command : Command) : HasOptions (.render command) command.options
  | pair (request : PairRequest) : HasOptions (.pair request) request.options

theorem Given.options_of_request {given : Given} {subcommand : Subcommand} {request : Request}
    {options : Option Options} (asked : given.request? subcommand = some request)
    (has : request.HasOptions options) : options = given.options := by
  cases subcommand with
  | render =>
      simp only [request?, Option.bind_eq_bind, Option.bind_eq_some_iff, Option.some.injEq] at asked
      obtain ⟨encoding, _, operation, _, rfl⟩ := asked
      cases has
      rfl
  | json =>
      obtain ⟨file, _, rfl⟩ := Option.map_eq_some_iff.mp asked
      cases has
  | pair =>
      simp only [request?, Option.bind_eq_bind, Option.bind_eq_some_iff, Option.some.injEq] at asked
      obtain ⟨operation, _, left, _, right, _, rfl⟩ := asked
      cases has
      rfl

theorem one_option_of_parts {parts : List Part} {given : Given}
    (isGiven : ({} : Given).addParts parts = .ok given) (noConflict : given.conflict? = none) :
    given.direction = none ∨ given.order = none := by
  by_contra both
  rw [not_or, direction_setting.none_iff isGiven, order_setting.none_iff isGiven, not_not, not_not]
    at both
  have seen := (direction_setting.records isGiven).seen
  exact Given.conflict_of_seen ((seen _).mpr both.1) ((seen _).mpr both.2) noConflict

end AutomataRequest.CommandLine
