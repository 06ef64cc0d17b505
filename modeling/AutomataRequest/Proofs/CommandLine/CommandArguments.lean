import AutomataRequest.Proofs.CommandLine.GlobalFlags
import AutomataRequest.Proofs.Lookup

/-!
# The arguments of a command

A command is given by its encoding, its operation, perhaps an option, and its operands, which
stand behind two hyphens whatever they look like. Each kind of argument has one equation for what
a level holds afterwards. What else was pending is looked at on the way and cannot get lost.
-/

namespace AutomataRequest.CommandLine

namespace Given

variable {given : Given} {flag : Flag}

/-- A flag that is not global and was not given before. -/
theorem add_new_flag (notGlobal : flag.isGlobal = false)
    (isNew : flag ∉ given.requestPart.seen) (text : String) :
    given.addFlag flag text = (do
      let given ← given.setFlag flag text
      return { given with seen := given.seen ++ [flag] }) := by
  have notSeen : flag ∉ given.seen := by
    intro seen
    exact isNew (List.mem_filter.mpr ⟨seen, by simp [notGlobal]⟩)
  simp [addFlag, notSeen]

theorem add_file {file : String} (isNamed : file ≠ "") :
    given.addPlace .file [file] = .ok { given with file := some file } := by
  have isPath : checkedPath (.ofPlace .file) file = .ok file := by
    simp [checkedPath, isNamed]
  have added : given.addPlace .file [file] = (do
      return { given with file := some (← checkedPath (.ofPlace .file) file) }) := rfl
  rw [added, isPath]
  rfl

theorem conflict_of_request_part (given : Given) :
    given.conflict? = given.requestPart.conflict? := by
  have sameSeen : (given.requestPart.seen.filter fun flag => flag == .direction || flag == .order) =
      given.seen.filter fun flag => flag == .direction || flag == .order := by
    rw [requestPart, List.filter_filter]
    apply congrArg (List.filter · given.seen)
    funext flag
    cases flag <;> rfl
  unfold conflict?
  rw [sameSeen]

theorem request_of_request_part (given : Given) (subcommand : Subcommand) :
    given.request? subcommand = given.requestPart.request? subcommand := by
  cases subcommand <;> rfl

end Given

namespace Reading

variable {reading : Reading} {place : Place}

/-- Unless it joins operands, a plain argument comes after what was pending. -/
theorem take_plain_apart (text : String)
    (apart : place = .operands → ∀ texts, reading.pending ≠ some (.ofPlace .operands, texts)) :
    reading.takePlain place text = (do
      let given ← reading.due
      return { reading with
        given
        pending := some (.ofPlace place, [text])
        awaiting := none
        filled := if place.takesMany then reading.filled else reading.filled + 1 }) := by
  unfold takePlain
  split
  · rename_i texts isMany isPending
    have isOperands : place = .operands := by
      cases place with
      | operands => rfl
      | operation | file | left | right => cases isMany
    exact absurd isPending (apart isOperands texts)
  · rw [settle_eq]
    simp only [bind_assoc, pure_bind]

theorem take_plain_fault {fault : UsageFault} (fails : reading.due = .error fault)
    (text : String) : reading.takePlain place text = .error fault := by
  rw [take_plain_apart, fails]
  · rfl
  · intro _ texts isPending
    -- Operands that are pending are never at fault.
    simp [due, isPending, Given.addPlace] at fails

end Reading

namespace Layout

variable {layout : Layout} {reading : Reading} {place : Place}

theorem take_escape (isOpen : reading.IsOpen) :
    layout.take reading "--" = .ok { reading with plainOnly := true } := by
  simp only [take, isOpen.flagsRead, Bool.false_eq_true, if_false]
  rfl

theorem take_single (isOpen : reading.IsOpen) (isNext : layout.places[reading.filled]? = some place)
    (isSingle : place.takesMany = false) {text : String} (isPlain : Shape.ofText text = .plain) :
    layout.take reading text = (do
      let given ← reading.due.mapError .usage
      return { reading with
        given
        pending := some (.ofPlace place, [text])
        filled := reading.filled + 1 }) := by
  simp only [take, isOpen.flagsRead, Bool.false_eq_true, if_false, isPlain, isOpen.noneAwaited,
    takePlain, isNext, Reading.takePlain, isSingle, Reading.settle_eq]
  cases reading.due with
  | error fault => rfl
  | ok given => rfl

/-- What a level holds at the end of its arguments. -/
def readDue (layout : Layout) (reading : Reading) (args : List String) :
    Except Rejection Given := do
  let reading ← layout.readAll reading args
  reading.due.mapError .usage

/-- An operand joins those that are pending. -/
theorem join_operand {reading : Reading} {texts : List String}
    (isPending : reading.pending = some (.ofPlace .operands, texts)) (text : String) :
    reading.takePlain .operands text = .ok { reading with
      pending := some (.ofPlace .operands, texts ++ [text])
      awaiting := none } := by
  simp only [Reading.takePlain, Place.takesMany, isPending]

/-- Joined or first, an operand is due after those before it. -/
theorem take_operand {reading : Reading} {given : Given} (isDue : reading.due = .ok given)
    (text : String) :
    ∃ after, reading.takePlain .operands text = .ok after ∧
      after.due = .ok { given with operands := given.operands ++ [text] } ∧
      after.filled = reading.filled ∧ after.plainOnly = reading.plainOnly := by
  by_cases isPending : ∃ texts, reading.pending = some (.ofPlace .operands, texts)
  · obtain ⟨texts, isPending⟩ := isPending
    have isGiven : { reading.given with operands := reading.given.operands ++ texts } = given := by
      simpa [Reading.due, isPending, Given.addPlace] using isDue
    refine ⟨_, join_operand isPending text, ?_, rfl, rfl⟩
    rw [← isGiven]
    simp [Reading.due, Given.addPlace]
  · have first : reading.takePlain .operands text = _ :=
      Reading.take_plain_apart text fun _ => not_exists.mp isPending
    rw [isDue] at first
    exact ⟨_, first, rfl, rfl, rfl⟩

theorem read_due_append (first second : List String) :
    layout.readDue reading (first ++ second) =
      layout.readAll reading first >>= fun reading => layout.readDue reading second := by
  simp only [readDue, read_all_append, bind_assoc]

theorem read_operands (operands : List String)
    (isNext : layout.places[reading.filled]? = some .operands) (plainOnly : reading.plainOnly) :
    layout.readDue reading operands = (do
      let given ← reading.due.mapError .usage
      return { given with operands := given.operands ++ operands }) := by
  induction operands generalizing reading with
  | nil =>
      have here : layout.readDue reading [] = reading.due.mapError .usage := rfl
      rw [here]
      cases reading.due with
      | error fault => rfl
      | ok given =>
          simp only [List.append_nil]
          rfl
  | cons text rest ih =>
      have takes : layout.readDue reading (text :: rest) =
          (reading.takePlain .operands text).mapError Rejection.usage >>= fun after =>
            layout.readDue after rest := by
        simp only [readDue, readAll, take, plainOnly, if_true, takePlain, isNext, bind_assoc]
      rw [takes]
      cases isDue : reading.due with
      | error fault =>
          rw [Reading.take_plain_fault isDue text]
          rfl
      | ok given =>
          obtain ⟨after, taken, dueAfter, sameFilled, samePlain⟩ := take_operand isDue text
          have later : layout.readDue after rest = _ :=
            ih (sameFilled ▸ isNext) (samePlain ▸ plainOnly)
          rw [taken]
          apply later.trans
          rw [dueAfter]
          simp only [Except.mapError, bind, Except.bind, pure, Except.pure, List.append_assoc,
            List.singleton_append]

end Layout

theorem read_subcommand_eq (subcommand : Subcommand) (args : List String) :
    readSubcommand subcommand args = (do
      let given ← (Layout.ofSubcommand subcommand).readDue {} args
      match given.conflict? with
      | some fault => .error (.usage fault)
      | none =>
          match given.request? subcommand with
          | some request => return (given, request)
          | none => .error (.usage .missingArguments)) := by
  simp only [readSubcommand, Layout.readDue, bind_assoc]
  apply congrArg (_ >>= ·)
  funext reading
  rw [Reading.settle_eq]
  cases reading.due <;> rfl

/-! The arguments of a command. -/

def optionArguments : Option Options → List String
  | none => []
  | some (.direction direction) => [Flag.word .direction, direction.name]
  | some (.order order) => [Flag.word .order, order.name]

/-- A command as arguments, up to its operands. -/
def requestArguments (command : Command) : List String :=
  ["-r", command.encoding.name, command.operation.name] ++ optionArguments command.options

def optionFlags : Option Options → List Flag
  | none => []
  | some (.direction _) => [.direction]
  | some (.order _) => [.order]

/-- An argument that names a file: it is not empty and does not look like a flag. -/
structure IsFileArgument (file : String) : Prop where
  isPlain : Shape.ofText file = .plain
  isNamed : file ≠ ""

/-- What a level holds of a command before its operands. -/
def requestGiven (command : Command) : Given :=
  { seen := .encoding :: optionFlags command.options
    encoding := some command.encoding
    operation := some command.operation
    direction := command.options.bind Options.direction?
    order := command.options.bind Options.order? }

/-- A level that has come to a request. -/
def Given.withRequest (given request : Given) : Given :=
  { given with
    seen := given.seen ++ request.seen
    encoding := request.encoding
    operation := request.operation
    direction := request.direction
    order := request.order }

theorem request_flags_own (command : Command) :
    ∀ flag ∈ (requestGiven command).seen, flag.isGlobal = false := by
  rcases hOptions : command.options with _ | direction | order <;>
    simp [requestGiven, optionFlags, hOptions, Flag.isGlobal, Layout.commonFlags]

theorem global_part_with_request (given : Given) (command : Command) :
    (given.withRequest (requestGiven command)).globalPart = given.globalPart := by
  have noneGlobal : (requestGiven command).seen.filter Flag.isGlobal = [] := by
    apply List.filter_eq_nil_iff.mpr
    intro flag isOwn
    rw [request_flags_own command flag isOwn]
    decide
  simp only [Given.globalPart, Given.withRequest, List.filter_append, noneGlobal,
    List.append_nil]

theorem request_part_with_request {given : Given} (isFresh : given.requestPart = {})
    (command : Command) :
    (given.withRequest (requestGiven command)).requestPart = requestGiven command := by
  have allOwn : (requestGiven command).seen.filter (fun flag => !flag.isGlobal) =
      (requestGiven command).seen := by
    apply List.filter_eq_self.mpr
    intro flag isOwn
    rw [request_flags_own command flag isOwn]
    rfl
  have parts := congrArg (fun part => part.withRequest (requestGiven command)) isFresh
  simp only [Given.requestPart, Given.withRequest, List.filter_append, allOwn] at parts ⊢
  exact parts

section

variable {reading : Reading} {given : Given}

theorem take_encoding (isOpen : reading.IsOpen) :
    (Layout.ofSubcommand .render).take reading "-r" =
      (reading.awaitValue .encoding).mapError .usage := by
  simp only [Layout.take, isOpen.flagsRead, Bool.false_eq_true, if_false]
  rfl

theorem read_operation (isOpen : reading.IsOpen) (noneFilled : reading.filled = 0)
    (isDue : reading.due = .ok given) (operation : Operation) :
    ∃ after, (Layout.ofSubcommand .render).take reading operation.name = .ok after ∧
      after.IsOpen ∧ after.filled = 1 ∧
      after.due = .ok { given with operation := some operation } := by
  have isPlain : Shape.ofText operation.name = .plain := by
    cases operation <;> rfl
  have isNext : (Layout.ofSubcommand .render).places[reading.filled]? = some .operation := by
    rw [noneFilled]
    rfl
  have taken := Layout.take_single isOpen isNext rfl isPlain
  rw [isDue] at taken
  refine ⟨_, taken, ⟨isOpen.flagsRead, isOpen.noneAwaited⟩, ?_, ?_⟩
  · rw [noneFilled]
  · simp only [Reading.due, Given.addPlace, Operation.of_name, Given.checked]
    rfl

/-- A flag of the subcommand that is given for the first time and with a value that fits. -/
theorem read_new_flag {layout : Layout} {flag : Flag} {word value : String} {set : Given}
    (isOpen : reading.IsOpen) (isDue : reading.due = .ok given)
    (awaits : layout.take reading word = (reading.awaitValue flag).mapError .usage)
    (isPlain : Shape.ofText value = .plain) (notGlobal : flag.isGlobal = false)
    (isNew : flag ∉ given.requestPart.seen) (isSet : given.setFlag flag value = .ok set) :
    ∃ after, layout.readAll reading [word, value] = .ok after ∧
      after.IsOpen ∧ after.filled = reading.filled ∧
      after.due = .ok { set with seen := set.seen ++ [flag] } := by
  have taken := Layout.read_separate isOpen awaits isPlain
  rw [isDue] at taken
  refine ⟨_, taken, ⟨isOpen.flagsRead, isOpen.noneAwaited⟩, rfl, ?_⟩
  have added := Given.add_new_flag notGlobal isNew value
  rw [isSet] at added
  exact added

theorem read_option (isOpen : reading.IsOpen) (isDue : reading.due = .ok given)
    (isNew : ∀ flag ∈ [Flag.direction, Flag.order], flag ∉ given.requestPart.seen)
    (noDirection : given.direction = none) (noOrder : given.order = none)
    (options : Option Options) :
    ∃ after,
      (Layout.ofSubcommand .render).readAll reading (optionArguments options) = .ok after ∧
      after.IsOpen ∧ after.filled = reading.filled ∧
      after.due = .ok { given with
        seen := given.seen ++ optionFlags options
        direction := options.bind Options.direction?
        order := options.bind Options.order? } := by
  match options with
  | none =>
      refine ⟨reading, rfl, isOpen, rfl, ?_⟩
      rw [isDue]
      simp [optionFlags, ← noDirection, ← noOrder]
  | some (.direction direction) =>
      have isPlain : Shape.ofText direction.name = .plain := by
        cases direction <;> rfl
      have isSet : given.setFlag .direction direction.name =
          .ok { given with direction := some direction, order := none } := by
        simp only [Given.setFlag, Direction.of_name, Given.checked, ← noOrder]
        rfl
      exact read_new_flag isOpen isDue (Layout.take_awaiting isOpen (by decide) rfl) isPlain rfl
        (isNew _ (by decide)) isSet
  | some (.order order) =>
      have isPlain : Shape.ofText order.name = .plain := by
        cases order <;> rfl
      have isSet : given.setFlag .order order.name =
          .ok { given with direction := none, order := some order } := by
        simp only [Given.setFlag, Order.of_name, Given.checked, ← noDirection]
        rfl
      exact read_new_flag isOpen isDue (Layout.take_awaiting isOpen (by decide) rfl) isPlain rfl
        (isNew _ (by decide)) isSet

theorem read_request (isOpen : reading.IsOpen) (noneFilled : reading.filled = 0)
    (isDue : reading.due = .ok given) (isFresh : given.requestPart = {}) (command : Command) :
    ∃ after,
      (Layout.ofSubcommand .render).readAll reading (requestArguments command) = .ok after ∧
      after.IsOpen ∧ after.filled = 1 ∧
      after.due = .ok (given.withRequest (requestGiven command)) := by
  have noneSeen : given.requestPart.seen = [] := congrArg Given.seen isFresh
  have isPlain : Shape.ofText command.encoding.name = .plain := by
    cases command.encoding <;> rfl
  have isSet : given.setFlag .encoding command.encoding.name =
      .ok { given with encoding := some command.encoding } := by
    simp only [Given.setFlag, Encoding.of_name, Given.checked]
    rfl
  obtain ⟨named, readNamed, namedOpen, namedFilled, namedDue⟩ :=
    read_new_flag isOpen isDue (take_encoding isOpen) isPlain rfl (by simp [noneSeen]) isSet
  obtain ⟨placed, readPlaced, placedOpen, placedFilled, placedDue⟩ :=
    read_operation namedOpen (namedFilled.trans noneFilled) namedDue command.operation
  have onlyEncoding : (given.seen ++ [Flag.encoding]).filter (fun flag => !flag.isGlobal) =
      [.encoding] := by
    rw [List.filter_append]
    exact congrArg (· ++ [Flag.encoding]) noneSeen
  have isNew : ∀ flag ∈ [Flag.direction, Flag.order],
      flag ∉ (given.seen ++ [Flag.encoding]).filter fun flag => !flag.isGlobal := by
    rw [onlyEncoding]
    decide
  obtain ⟨after, readAfter, afterOpen, afterFilled, afterDue⟩ :=
    read_option placedOpen placedDue isNew (congrArg Given.direction isFresh)
      (congrArg Given.order isFresh) command.options
  refine ⟨after, ?_, afterOpen, afterFilled.trans placedFilled, ?_⟩
  · have split : requestArguments command = ["-r", command.encoding.name] ++
        ([command.operation.name] ++ optionArguments command.options) := rfl
    rw [split, Layout.read_all_append, readNamed]
    apply Eq.trans (Layout.read_all_append _ named _ _)
    rw [Layout.read_all_singleton, readPlaced]
    exact readAfter
  · rw [afterDue]
    simp [Given.withRequest, requestGiven]

end

/-- The arguments put the command on one side where they put the file on the other. -/
theorem read_request_arguments {first second : Reading} (command : Command) {file : String}
    (isFile : IsFileArgument file) (abreast : first.Abreast ⟨{}, 0⟩ ⟨{}, 0⟩ second) :
    Alike (Reading.Abreast ⟨requestGiven command, 1⟩ ⟨{ file := some file }, 1⟩)
      ((Layout.ofSubcommand .render).readAll first (requestArguments command))
      ((Layout.ofSubcommand .json).readAll second [file]) := by
  obtain ⟨firstOpen, secondOpen, firstFilled, secondFilled, due⟩ := abreast
  have isNext : (Layout.ofSubcommand .json).places[second.filled]? = some .file := by
    rw [secondFilled]
    rfl
  rw [Layout.read_all_singleton, Layout.take_single secondOpen isNext rfl isFile.isPlain]
  generalize firstDue : first.due = firstHeld at due
  generalize secondDue : second.due = secondHeld at due ⊢
  cases due with
  | error fault =>
      have failed : (Layout.ofSubcommand .render).readAll first (requestArguments command) =
          .error (.usage fault) := by
        simp only [requestArguments, List.cons_append, Layout.readAll, take_encoding firstOpen,
          Reading.await_value_eq, firstDue]
        rfl
      rw [failed]
      exact .error _
  | @ok firstGiven secondGiven givens =>
      obtain ⟨sameGlobals, leftRequest, rightRequest⟩ := givens
      obtain ⟨after, readAfter, afterOpen, afterFilled, afterDue⟩ :=
        read_request firstOpen firstFilled firstDue leftRequest command
      rw [readAfter]
      refine .ok
        { firstOpen := afterOpen
          secondOpen := ⟨secondOpen.flagsRead, secondOpen.noneAwaited⟩
          firstFilled := afterFilled
          secondFilled := congrArg (· + 1) secondFilled
          due := ?_ }
      rw [afterDue]
      change Alike _ _ (secondGiven.addPlace .file [file])
      rw [Given.add_file isFile.isNamed]
      refine .ok ⟨?_, ?_, ?_⟩
      · exact (global_part_with_request _ command).trans sameGlobals
      · exact request_part_with_request leftRequest command
      · exact congrArg (fun part => { part with file := some file }) rightRequest

end AutomataRequest.CommandLine
