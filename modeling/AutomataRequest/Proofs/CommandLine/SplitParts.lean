import AutomataRequest.Proofs.CommandLine.Parts

/-!
# Accepted arguments fall into parts

What a level accepts is written in parts, and the parts say what it holds. Each argument begins a
part, and most are all of it; only a flag that awaits its value takes the next argument in, and if
that is no value the level stays at fault. So an accepted command line is global flags, a
subcommand and parts.
-/

namespace AutomataRequest.CommandLine

namespace Layout

variable {layout : Layout} {reading next : Reading} {given : Given} {fault : UsageFault}
  {flag : Flag} {word text : String}

theorem take_plain_fault (fails : reading.due = .error fault) :
    layout.takePlain reading text ≠ .ok next := by
  intro taken
  unfold takePlain at taken
  split at taken
  · rw [Reading.take_plain_fault fails] at taken
    cases taken
  · dsimp only at taken
    split at taken <;> cases taken

/-- A level at fault takes no flag, but it does take the two hyphens. -/
theorem take_fault (fails : reading.due = .error fault) (notPlain : Shape.ofText text ≠ .plain)
    (taken : layout.take reading text = .ok next) : next = { reading with plainOnly := true } := by
  have step := layout.take_step reading text
  rw [taken] at step
  generalize isResult : Except.ok next = result at step
  cases step with
  | plain isPlain => exact absurd isResult.symm (take_plain_fault fails)
  | value isPlain isAwaited => exact absurd isPlain notPlain
  | escape flagsRead =>
      cases isResult
      rfl
  | given flagsRead member fits isWritten =>
      rw [Reading.take_flag_eq, fails] at isResult
      cases isResult
  | awaits flagsRead member isWord isValued =>
      rw [Reading.await_value_eq, fails] at isResult
      cases isResult
  | help flagsRead isHelp => cases isResult
  | refused => cases isResult

/-- If the arguments behind a flag are accepted, the first of them is its value. -/
theorem value_of_awaiting {rest : List String}
    (isRead : layout.readDue reading (word :: rest) = .ok given)
    (awaits : layout.take reading word = (reading.awaitValue flag).mapError .usage) :
    ∃ value after, rest = value :: after ∧ Shape.ofText value = .plain := by
  rw [readDue, readAll, awaits, Reading.await_value_eq, bind_assoc] at isRead
  obtain ⟨waiting, isWaiting, isRead⟩ := of_bind_ok isRead
  obtain ⟨held, _, isWaiting⟩ := of_bind_ok (of_map_error_ok isWaiting)
  cases isWaiting
  cases rest with
  | nil => cases isRead
  | cons value after =>
      refine ⟨value, after, rfl, ?_⟩
      by_contra notPlain
      rw [readAll, bind_assoc] at isRead
      obtain ⟨next, taken, isRead⟩ := of_bind_ok isRead
      have isNext := take_fault rfl notPlain taken
      rw [isNext] at isRead
      -- Behind the two hyphens every argument is plain, and the value is still missing.
      cases after with
      | nil => cases isRead
      | cons text after =>
          rw [readAll, bind_assoc] at isRead
          obtain ⟨last, taken, _⟩ := of_bind_ok isRead
          exact take_plain_fault rfl taken

/-- Accepted arguments begin with a part. -/
theorem first_part {point : Point} {rest : List String} (here : reading.At point)
    (isRead : layout.readDue reading (text :: rest) = .ok given) :
    ∃ part next after, layout.TakesPart point part next ∧
      text :: rest = part.arguments ++ after := by
  obtain ⟨plainOnly, filled⟩ := point
  have awaited {flag : Flag}
      (awaits : layout.take reading text = (reading.awaitValue flag).mapError .usage) :=
    value_of_awaiting isRead awaits
  rw [readDue, readAll, bind_assoc] at isRead
  obtain ⟨next, taken, _⟩ := of_bind_ok isRead
  have isFalse (flagsRead : reading.plainOnly = false) : plainOnly = false :=
    here.plain.symm.trans flagsRead
  have step := layout.take_step reading text
  generalize isResult : layout.take reading text = result at step taken awaited
  cases step with
  | plain isPlain =>
      rw [takePlain, here.filled] at taken
      cases isNext : layout.places[filled]? with
      | none =>
          rw [isNext] at taken
          dsimp only at taken
          split at taken <;> cases taken
      | some place =>
          rw [here.plain] at isPlain
          exact ⟨.plain place text, _, rest, .plain isNext (isPlain.imp_right And.left), rfl⟩
  | value isPlain isAwaited =>
      rw [here.noneAwaited] at isAwaited
      cases isAwaited
  | escape flagsRead =>
      rw [isFalse flagsRead]
      exact ⟨.escape, _, rest, .escape, rfl⟩
  | @given flag word text argument form flagsRead member fits isWritten =>
      rw [isFalse flagsRead]
      refine ⟨.flag flag word form text, _, rest, .flag member fits, ?_⟩
      rw [Part.arguments, isWritten]
      rfl
  | @awaits flag word flagsRead member isWord isValued =>
      obtain ⟨value, after, rfl, isPlain⟩ := awaited rfl
      rw [isFalse flagsRead]
      exact ⟨.flag flag _ .separate value, _, after,
        .flag member (.separate isValued isWord isPlain), rfl⟩
  | help flagsRead isHelp => cases taken
  | refused => cases taken

/-- What a level accepts is written in parts. -/
theorem parts_of_read {point : Point} {args : List String} (here : reading.At point)
    (isRead : layout.readDue reading args = .ok given) :
    ∃ parts, layout.Takes point parts ∧ args = parts.flatMap Part.arguments := by
  -- A part may be more than one argument, so the induction is on how many there are.
  induction count : args.length using Nat.strongRecOn generalizing reading point args with
  | _ length ih =>
      cases args with
      | nil => exact ⟨[], .nil point, rfl⟩
      | cons text rest =>
          obtain ⟨part, next, after, takes, split⟩ := first_part here isRead
          rw [split, read_due_append] at isRead
          have reaches := read_part here takes
          obtain ⟨there, isThere, isRead⟩ := of_bind_ok isRead
          rw [isThere] at reaches
          have shorter : after.length < length := by
            have some := List.length_pos_iff.mpr part.arguments_ne_nil
            rw [← count, split, List.length_append]
            omega
          cases reaches with
          | ok there isDue =>
              obtain ⟨parts, others, rfl⟩ := ih after.length shorter there isRead rfl
              exact ⟨part :: parts, .cons takes others, split⟩

end Layout

/-- A command line as global flags, a subcommand, and the parts behind it. -/
structure Line where
  before : List String
  subcommand : Subcommand
  parts : List Part

namespace Line

def inside (line : Line) : List String := line.parts.flatMap Part.arguments

def arguments (line : Line) : List String :=
  line.before ++ line.subcommand.name :: line.inside

/-- The line is read as it is written. -/
structure IsRead (line : Line) : Prop where
  globals : GlobalArguments line.before
  takes : (Layout.ofSubcommand line.subcommand).Takes .start line.parts

/-- What the subcommand holds of the line. -/
def given (line : Line) : Except UsageFault Given := ({} : Given).addParts line.parts

variable {line : Line} {invocation : Invocation}

theorem read_due_inside (isRead : line.IsRead) :
    (Layout.ofSubcommand line.subcommand).readDue {} line.inside = line.given.mapError .usage :=
  Layout.read_parts isRead.takes Reading.start_at

theorem given_of_accepted (isRead : line.IsRead)
    (accepted : parse line.arguments = .ok invocation) :
    ∃ given, line.given = .ok given ∧ given.conflict? = none ∧
      given.request? line.subcommand = some invocation.request := by
  rw [arguments, parse_behind_globals isRead.globals] at accepted
  obtain ⟨outer, _, accepted⟩ := of_bind_ok accepted
  obtain ⟨⟨given, request⟩, isInner, accepted⟩ := of_bind_ok accepted
  obtain ⟨held, _, accepted⟩ := of_bind_ok accepted
  cases accepted
  obtain ⟨isDue, noConflict, asked⟩ := of_read_subcommand isInner
  rw [read_due_inside isRead] at isDue
  exact ⟨given, of_map_error_ok isDue, noConflict, asked⟩

/-- Of what stands behind the subcommand, only what its parts say is seen. -/
theorem parse_same_given {other : Line} (isRead : line.IsRead) (otherRead : other.IsRead)
    (sameBefore : other.before = line.before) (sameSubcommand : other.subcommand = line.subcommand)
    (sameGiven : other.given = line.given) : parse other.arguments = parse line.arguments := by
  have sameInside : readSubcommand line.subcommand other.inside =
      readSubcommand line.subcommand line.inside := by
    rw [read_subcommand_eq, read_subcommand_eq, read_due_inside isRead, ← sameSubcommand,
      read_due_inside otherRead, sameGiven]
  rw [arguments, arguments, sameBefore, sameSubcommand, parse_behind_globals isRead.globals,
    parse_behind_globals isRead.globals, sameInside]

end Line

theorem line_of_accepted {args : List String} {invocation : Invocation}
    (accepted : parse args = .ok invocation) : ∃ line : Line, line.IsRead ∧ line.arguments = args := by
  obtain ⟨before, subcommand, inside, given, ⟨globals⟩, rfl, isRead⟩ :=
    split_at_subcommand Reading.start_early accepted
  obtain ⟨isDue, -, -⟩ := of_read_subcommand isRead
  obtain ⟨parts, takes, rfl⟩ := Layout.parts_of_read Reading.start_at isDue
  exact ⟨⟨before, subcommand, parts⟩, ⟨globals, takes⟩, rfl⟩

end AutomataRequest.CommandLine
