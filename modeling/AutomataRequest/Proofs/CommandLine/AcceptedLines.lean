import AutomataRequest.Proofs.CommandLine.FileLines
import AutomataRequest.Proofs.CommandLine.ProgramFlag

/-!
# Accepted command lines

An accepted command line begins with whole global flags and a subcommand. If it asks for a file,
the file stands behind more global flags, and maybe behind two hyphens, and is not empty. Both
levels have no flags but the global ones, which narrows what one argument can do to them; a flag
that awaits its value is carried along, as its value may only come with the next argument.
-/

namespace AutomataRequest.CommandLine

theorem of_bind_ok {Failure First Second : Type} {attempt : Except Failure First}
    {next : First → Except Failure Second} {value : Second}
    (isOk : attempt >>= next = .ok value) :
    ∃ first, attempt = .ok first ∧ next first = .ok value := by
  cases attempt with
  | ok first => exact ⟨first, rfl, isOk⟩
  | error failure => cases isOk

theorem of_map_error_ok {Failure Failure' Value : Type} {attempt : Except Failure Value}
    {reason : Failure → Failure'} {value : Value} (isOk : attempt.mapError reason = .ok value) :
    attempt = .ok value := by
  cases attempt with
  | ok found =>
      cases isOk
      rfl
  | error failure => cases isOk

namespace Flag

variable {flag : Flag} {word : String}

/-- The only global flag with a short form asks for help. -/
theorem long_only_of_global (isGlobal : flag.isGlobal) (isValued : flag.takesValue) :
    ¬flag.IsShortWord word := by
  rintro ⟨letter, isLetter, -⟩
  cases flag with
  | help | withProgram => cases isValued
  | config | format | direction | order => cases isLetter
  | encoding => exact absurd isGlobal (by decide)

theorem word_of_global (isGlobal : flag.isGlobal) (isValued : flag.takesValue)
    (isWord : flag.IsWord word) : word = flag.word :=
  isWord.resolve_right (long_only_of_global isGlobal isValued)

end Flag

theorem Form.Fits.is_global_flag {flag : Flag} {word text : String} {form : Form}
    (fits : form.Fits flag word text) (isGlobal : flag.isGlobal) :
    GlobalFlag (form.write word text) := by
  cases fits with
  | bare isProgram isWord =>
      rw [isWord, isProgram]
      exact .program
  | separate isValued isWord isPlain =>
      rw [Flag.word_of_global isGlobal isValued isWord]
      exact .separate flag text isGlobal isValued isPlain
  | attached isValued isWord =>
      rw [Flag.word_of_global isGlobal isValued isWord]
      exact .attached flag text isGlobal isValued
  | joined isValued isShort notEmpty noSign =>
      exact absurd isShort (Flag.long_only_of_global isGlobal isValued)

/-- What one argument can do to a level as part of a global flag. -/
inductive Reading.FlagStep (reading : Reading) : String → Reading → Prop
  | given {text : String} {next : Reading} (flag : Flag) (value : String)
      (isGlobal : flag.isGlobal) (isFlag : GlobalFlag [text])
      (taken : reading.takeFlag flag value = .ok next) : FlagStep reading text next
  | awaits {next : Reading} (flag : Flag) (isGlobal : flag.isGlobal) (isValued : flag.takesValue)
      (taken : reading.awaitValue flag = .ok next) : FlagStep reading flag.word next
  | value {text : String} (flag : Flag) (isAwaited : reading.awaiting = some flag)
      (isPlain : Shape.ofText text = .plain) : FlagStep reading text (reading.takeValue flag text)

/-- What one argument can do to a level that has no flags but the global ones, while flags are
looked for. -/
inductive Layout.OpenStep (layout : Layout) (reading : Reading) : String → Reading → Prop
  | escape : OpenStep layout reading "--" { reading with plainOnly := true }
  | flag {text : String} {next : Reading} (step : reading.FlagStep text next) :
      OpenStep layout reading text next
  | plain {text : String} {next : Reading} (noneAwaited : reading.awaiting = none)
      (isPlain : Shape.ofText text = .plain) (taken : layout.takePlain reading text = .ok next) :
      OpenStep layout reading text next

namespace Layout

variable {layout : Layout} {reading next : Reading} {text : String}

theorem open_step_of_take (common : layout.flags = commonFlags)
    (flagsRead : reading.plainOnly = false) (taken : layout.take reading text = .ok next) :
    layout.OpenStep reading text next := by
  have isGlobal {flag : Flag} (member : flag ∈ layout.flags) : flag.isGlobal :=
    List.contains_iff_mem.mpr (common ▸ member)
  have step := layout.take_step reading text
  generalize layout.take reading text = result at step taken
  cases step with
  | plain isPlain =>
      rw [flagsRead] at isPlain
      obtain ⟨isPlain, noneAwaited⟩ := isPlain.resolve_left Bool.false_ne_true
      exact .plain noneAwaited isPlain taken
  | value isPlain isAwaited =>
      cases taken
      exact .flag (.value _ isAwaited isPlain)
  | escape flagsRead =>
      cases taken
      exact .escape
  | given flagsRead member fits isWritten =>
      have isFlag := fits.is_global_flag (isGlobal member)
      rw [isWritten] at isFlag
      exact .flag (.given _ _ (isGlobal member) isFlag (of_map_error_ok taken))
  | awaits flagsRead member isWord isValued =>
      rw [Flag.word_of_global (isGlobal member) isValued isWord]
      exact .flag (.awaits _ (isGlobal member) isValued (of_map_error_ok taken))
  | help flagsRead isHelp => cases taken
  | refused => cases taken

end Layout

/-- What is left of some global flags: the value that a flag awaits, and then whole flags. -/
inductive GlobalRest : Option Flag → List String → Prop
  | whole {args : List String} (globals : GlobalArguments args) : GlobalRest none args
  | awaited {flag : Flag} {value : String} {args : List String}
      (isPlain : Shape.ofText value = .plain) (globals : GlobalArguments args) :
      GlobalRest (some flag) (value :: args)

theorem Given.add_flag_requestless {given : Given} {flag : Flag} (isGlobal : flag.isGlobal)
    (noRequest : given.requestPart = {}) (text : String) :
    Yields (fun after => after.requestPart = {}) (given.addFlag flag text) := by
  have alike := add_flag_alike isGlobal ⟨rfl, noRequest, noRequest⟩ text
  generalize given.addFlag flag text = attempt at alike ⊢
  cases alike with
  | ok givens => exact .ok givens.leftRequest
  | error fault => exact .error fault

namespace Reading

/-- A level on its way through global flags, with nothing of a request yet. -/
structure Early (reading : Reading) : Prop where
  flagsRead : reading.plainOnly = false
  noneFilled : reading.filled = 0
  noRequest : reading.given.requestPart = {}
  pendingGlobal : ∀ slot texts, reading.pending = some (slot, texts) →
    ∃ flag : Flag, slot = .ofFlag flag ∧ flag.isGlobal
  awaited : ∀ flag, reading.awaiting = some flag → reading.pending = some (.ofFlag flag, [])

variable {reading next : Reading} {flag : Flag} {text : String}

theorem start_early : Early {} where
  flagsRead := rfl
  noneFilled := rfl
  noRequest := rfl
  pendingGlobal := by
    intro slot texts isPending
    cases isPending
  awaited := by
    intro flag isAwaited
    cases isAwaited

/-- Only a level that awaits no value can come to an end. -/
theorem due_early (early : reading.Early) :
    Yields (fun given => given.requestPart = {} ∧ reading.awaiting = none) reading.due := by
  obtain ⟨given, pending, awaiting, filled, plain⟩ := reading
  have noneAwaited (hasText : ∀ flag, pending ≠ some (.ofFlag flag, [])) : awaiting = none := by
    cases isAwaited : awaiting with
    | none => rfl
    | some flag => exact absurd (early.awaited flag isAwaited) (hasText flag)
  rcases pending with _ | ⟨slot, texts⟩
  · refine .ok ⟨early.noRequest, noneAwaited ?_⟩
    intro flag isPending
    cases isPending
  · obtain ⟨flag, rfl, isGlobal⟩ := early.pendingGlobal slot texts rfl
    cases texts with
    | nil => exact .error _
    | cons text texts =>
        apply (Given.add_flag_requestless isGlobal early.noRequest text).imp
        intro after noRequest
        refine ⟨noRequest, noneAwaited ?_⟩
        intro flag isPending
        cases isPending

theorem take_flag_early (early : reading.Early) (isGlobal : flag.isGlobal) (text : String) :
    Yields (fun next => next.Early ∧ reading.awaiting = none ∧ next.awaiting = none)
      (reading.takeFlag flag text) := by
  rw [take_flag_eq]
  apply (due_early early).bind
  rintro given ⟨noRequest, noneAwaited⟩
  apply (Given.add_flag_requestless isGlobal noRequest text).bind
  intro after noRequestAfter
  exact .ok
    ⟨{ start_early with
        flagsRead := early.flagsRead
        noneFilled := early.noneFilled
        noRequest := noRequestAfter },
      noneAwaited, rfl⟩

theorem await_value_early (early : reading.Early) (isGlobal : flag.isGlobal) :
    Yields (fun next => next.Early ∧ reading.awaiting = none ∧ next.awaiting = some flag)
      (reading.awaitValue flag) := by
  rw [await_value_eq]
  apply (due_early early).bind
  rintro given ⟨noRequest, noneAwaited⟩
  refine .ok ⟨?_, noneAwaited, rfl⟩
  refine
    { flagsRead := early.flagsRead
      noneFilled := early.noneFilled
      noRequest := noRequest
      pendingGlobal := ?_
      awaited := ?_ }
  · intro slot texts isPending
    cases isPending
    exact ⟨flag, rfl, isGlobal⟩
  · intro other isAwaited
    cases isAwaited
    rfl

theorem take_value_early (early : reading.Early) (isAwaited : reading.awaiting = some flag)
    (text : String) : Early (reading.takeValue flag text) where
  flagsRead := early.flagsRead
  noneFilled := early.noneFilled
  noRequest := early.noRequest
  pendingGlobal := by
    intro slot texts isPending
    cases isPending
    obtain ⟨other, isFlag, isGlobal⟩ := early.pendingGlobal _ _ (early.awaited flag isAwaited)
    cases isFlag
    exact ⟨flag, rfl, isGlobal⟩
  awaited := by
    intro other isAwaited
    cases isAwaited

/-- The step: what is left after one argument completes the flags with it. -/
theorem FlagStep.goes_on (step : reading.FlagStep text next) (early : reading.Early) :
    next.Early ∧
      ∀ args, GlobalRest next.awaiting args → GlobalRest reading.awaiting (text :: args) := by
  cases step with
  | given flag value isGlobal isFlag taken =>
      obtain ⟨nextEarly, noneAwaited, noneAfter⟩ :=
        (take_flag_early early isGlobal value).of_ok taken
      rw [noneAwaited, noneAfter]
      refine ⟨nextEarly, ?_⟩
      rintro args ⟨globals⟩
      exact .whole (.cons isFlag globals)
  | awaits flag isGlobal isValued taken =>
      obtain ⟨nextEarly, noneAwaited, isAwaited⟩ :=
        (await_value_early early isGlobal).of_ok taken
      rw [noneAwaited, isAwaited]
      refine ⟨nextEarly, ?_⟩
      rintro args ⟨⟩
      rename_i value args isPlain globals
      exact .whole (.cons (.separate flag value isGlobal isValued isPlain) globals)
  | value flag isAwaited isPlain =>
      rw [isAwaited]
      refine ⟨take_value_early early isAwaited text, ?_⟩
      rintro args ⟨globals⟩
      exact .awaited isPlain globals

end Reading

/-! The level before the subcommand. -/

theorem root_takes_no_plain {reading next : Reading} {text : String} :
    Layout.root.takePlain reading text ≠ .ok next := by
  intro taken
  have noPlace : Layout.root.places[reading.filled]? = none := rfl
  rw [Layout.takePlain, noPlace] at taken
  dsimp only at taken
  split at taken <;> cases taken

theorem no_subcommand_behind_escape {reading : Reading} {args : List String}
    {invocation : Invocation} (plainOnly : reading.plainOnly = true) :
    readRoot reading args ≠ .ok invocation := by
  intro accepted
  cases args with
  | nil => cases accepted
  | cons text rest =>
      simp only [readRoot, plainOnly, Bool.not_true, Bool.false_and, Bool.false_eq_true, if_false,
        Layout.take, if_true] at accepted
      obtain ⟨next, taken, _⟩ := of_bind_ok accepted
      exact root_takes_no_plain taken

theorem read_root_inversion {reading : Reading} {text : String} {rest : List String}
    {invocation : Invocation} (flagsRead : reading.plainOnly = false)
    (accepted : readRoot reading (text :: rest) = .ok invocation) :
    (reading.awaiting = none ∧ ∃ subcommand given, text = Subcommand.name subcommand ∧
        readSubcommand subcommand rest = .ok (given, invocation.request)) ∨
      ∃ next, Layout.root.take reading text = .ok next ∧ readRoot next rest = .ok invocation := by
  cases isAwaited : reading.awaiting with
  | some flag =>
      simp only [readRoot, isAwaited, Option.isNone_some, Bool.and_false, Bool.false_eq_true,
        if_false, Bool.false_and] at accepted
      exact .inr (of_bind_ok accepted)
  | none =>
      cases isName : Subcommand.ofName? text with
      | some subcommand =>
          simp only [readRoot, flagsRead, isAwaited, Option.isNone_none, Bool.not_false,
            Bool.and_self, if_true, isName] at accepted
          obtain ⟨⟨given, request⟩, isRead, accepted⟩ := of_bind_ok accepted
          obtain ⟨outer, _, accepted⟩ := of_bind_ok accepted
          cases accepted
          have found := List.find?_some isName
          have sameName : subcommand.name = text := beq_iff_eq.mp found
          exact .inl ⟨rfl, subcommand, given, sameName.symm, isRead⟩
      | none =>
          simp only [readRoot, flagsRead, isAwaited, Option.isNone_none, Bool.not_false,
            Bool.and_self, if_true, isName, Bool.true_and] at accepted
          split at accepted
          · cases accepted
          · exact .inr (of_bind_ok accepted)

/-- The run: an accepted line is global flags, a subcommand, and what that accepts. -/
theorem split_at_subcommand {reading : Reading} {args : List String} {invocation : Invocation}
    (early : reading.Early) (accepted : readRoot reading args = .ok invocation) :
    ∃ before subcommand rest given, GlobalRest reading.awaiting before ∧
      args = before ++ Subcommand.name subcommand :: rest ∧
      readSubcommand subcommand rest = .ok (given, invocation.request) := by
  induction args generalizing reading with
  | nil => cases accepted
  | cons text rest ih =>
      rcases read_root_inversion early.flagsRead accepted with
        ⟨noneAwaited, subcommand, given, rfl, isRead⟩ | ⟨next, taken, accepted⟩
      · exact ⟨[], subcommand, rest, given, noneAwaited ▸ .whole .nil, rfl, isRead⟩
      · cases Layout.open_step_of_take rfl early.flagsRead taken with
        | escape => exact absurd accepted (no_subcommand_behind_escape rfl)
        | flag step =>
            obtain ⟨nextEarly, completes⟩ := step.goes_on early
            obtain ⟨before, subcommand, inside, given, globals, rfl, isRead⟩ :=
              ih nextEarly accepted
            exact ⟨text :: before, subcommand, inside, given, completes before globals, rfl, isRead⟩
        | plain noneAwaited isPlain taken => exact absurd taken root_takes_no_plain

/-! The level of the file. -/

namespace Layout

variable {reading next : Reading} {name file : String} {args : List String} {given : Given}

theorem due_after_read {file' : String} (parallel : next.Parallel file file' next)
    (isRead : (ofSubcommand .json).readDue next args = .ok given) :
    given.file = some file ∧ given.file = some file' := by
  have due : Alike (Given.Abreast (fileNamed file).request (fileNamed file').request)
      ((ofSubcommand .json).readDue next args) ((ofSubcommand .json).readDue next args) := by
    apply (read_all_parallel args parallel).bind
    intro first second parallel
    exact parallel.due.map_error _
  rw [isRead] at due
  cases due with
  | ok givens =>
      exact ⟨congrArg Given.file givens.leftRequest, congrArg Given.file givens.rightRequest⟩

/-- The first plain argument is the file, and it is not empty. -/
theorem named_by_plain (taken : (ofSubcommand .json).takePlain reading name = .ok next)
    (noneFilled : reading.filled = 0)
    (due : Yields (fun given => given.requestPart = {} ∧ reading.awaiting = none) reading.due)
    (isRead : (ofSubcommand .json).readDue next args = .ok given) :
    reading.awaiting = none ∧ given.file = some name ∧ name ≠ "" := by
  rw [take_file reading noneFilled] at taken
  obtain ⟨held, isDue, taken⟩ := of_bind_ok taken
  cases taken
  obtain ⟨noRequest, noneAwaited⟩ := due.of_ok (of_map_error_ok isDue)
  have named (first second : String) (added : Alike
      (Given.Abreast (fileNamed first).request (fileNamed second).request)
      (held.addPlace .file [name]) (held.addPlace .file [name])) :
      given.file = some first ∧ given.file = some second := by
    apply due_after_read _ isRead
    exact
      { samePlain := rfl
        sameAwaited := rfl
        firstFilled := rfl
        secondFilled := rfl
        due := added
        awaited := by
          intro flag awaited
          cases awaited }
  have isNamed : name ≠ "" := by
    rintro rfl
    -- The level fails at the end, so it would name any two files at once.
    obtain ⟨isEmpty, isOther⟩ := named "" "-" (.error _)
    rw [isEmpty] at isOther
    exact absurd isOther (by decide)
  refine ⟨noneAwaited, ?_, isNamed⟩
  have added : Alike (Given.Abreast (fileNamed name).request (fileNamed name).request)
      (held.addPlace .file [name]) (held.addPlace .file [name]) := by
    rw [Given.add_file isNamed]
    have request := congrArg (fun part => { part with file := some name }) noRequest
    exact .ok ⟨rfl, request, request⟩
  exact (named name name added).1

/-- The run: a file is named behind global flags, and maybe two hyphens. -/
theorem split_at_file (early : reading.Early)
    (isRead : (ofSubcommand .json).readDue reading args = .ok given)
    (named : given.file = some file) :
    ∃ inside escaped after, GlobalRest reading.awaiting inside ∧
      args = inside ++ ((if escaped = true then ["--"] else []) ++ file :: after) ∧
      file ≠ "" ∧ (escaped = true ∨ Shape.ofText file = .plain) := by
  have unnamed {reading : Reading}
      (due : Yields (fun given => given.requestPart = {} ∧ reading.awaiting = none) reading.due)
      (isRead : (ofSubcommand .json).readDue reading [] = .ok given) : False := by
    have noRequest := (due.of_ok (of_map_error_ok isRead)).1
    have noFile : given.file = none := congrArg Given.file noRequest
    rw [noFile] at named
    cases named
  induction args generalizing reading with
  | nil => exact (unnamed (Reading.due_early early) isRead).elim
  | cons text rest ih =>
      have due := Reading.due_early early
      rw [readDue, readAll, bind_assoc] at isRead
      obtain ⟨next, taken, isRead⟩ := of_bind_ok isRead
      cases open_step_of_take rfl early.flagsRead taken with
      | escape =>
          cases rest with
          | nil => exact (unnamed due isRead).elim
          | cons name after =>
              obtain ⟨next, taken, isRead⟩ := of_bind_ok ((bind_assoc _ _ _).symm.trans isRead)
              obtain ⟨noneAwaited, isFile, isNamed⟩ :=
                named_by_plain taken early.noneFilled due isRead
              cases named.symm.trans isFile
              exact ⟨[], true, after, noneAwaited ▸ .whole .nil, rfl, isNamed, .inl rfl⟩
      | flag step =>
          obtain ⟨nextEarly, completes⟩ := step.goes_on early
          obtain ⟨inside, escaped, after, globals, rfl, isNamed, isPlain⟩ := ih nextEarly isRead
          exact ⟨text :: inside, escaped, after, completes inside globals, rfl, isNamed, isPlain⟩
      | plain _ isPlain taken =>
          obtain ⟨noneAwaited, isFile, isNamed⟩ := named_by_plain taken early.noneFilled due isRead
          cases named.symm.trans isFile
          exact ⟨[], false, rest, noneAwaited ▸ .whole .nil, rfl, isNamed, .inr isPlain⟩

end Layout

theorem Given.request_of_file {given : Given} {subcommand : Subcommand} {file : String}
    (asked : given.request? subcommand = some (.json file)) :
    subcommand = .json ∧ given.file = some file := by
  cases subcommand with
  | json =>
      obtain ⟨name, named, same⟩ := Option.map_eq_some_iff.mp asked
      cases same
      exact ⟨rfl, named⟩
  | render | pair => simp [Given.request?, Option.bind_eq_some_iff] at asked

theorem of_read_subcommand {subcommand : Subcommand} {args : List String} {given : Given}
    {request : Request} (isRead : readSubcommand subcommand args = .ok (given, request)) :
    (Layout.ofSubcommand subcommand).readDue {} args = .ok given ∧ given.conflict? = none ∧
      given.request? subcommand = some request := by
  rw [read_subcommand_eq] at isRead
  obtain ⟨held, isDue, accepted⟩ := of_bind_ok isRead
  split at accepted
  · cases accepted
  · rename_i noConflict
    split at accepted
    · rename_i asked
      cases accepted
      exact ⟨isDue, noConflict, asked⟩
    · cases accepted

theorem of_read_json {subcommand : Subcommand} {args : List String} {given : Given} {file : String}
    (isRead : readSubcommand subcommand args = .ok (given, .json file)) :
    subcommand = .json ∧ (Layout.ofSubcommand .json).readDue {} args = .ok given ∧
      given.file = some file := by
  obtain ⟨isDue, -, asked⟩ := of_read_subcommand isRead
  obtain ⟨rfl, named⟩ := Given.request_of_file asked
  exact ⟨rfl, isDue, named⟩

/-- No other command lines name files: whatever is accepted and asks for a file has it at its
place. -/
theorem file_line_of_accepted {args : List String} {invocation : Invocation} {file : String}
    (accepted : parse args = .ok invocation) (asks : invocation.request = .json file) :
    ∃ (place : FilePlace) (after : List String),
      place.Takes file ∧ args = place.line file after := by
  obtain ⟨before, subcommand, rest, given, ⟨givenBefore⟩, rfl, isRead⟩ :=
    split_at_subcommand Reading.start_early accepted
  rw [asks] at isRead
  obtain ⟨rfl, isDue, named⟩ := of_read_json isRead
  obtain ⟨inside, escaped, after, ⟨givenInside⟩, rfl, isNamed, isPlain⟩ :=
    Layout.split_at_file Reading.start_early isDue named
  exact ⟨⟨before, inside, escaped, givenBefore, givenInside⟩, after, ⟨isNamed, isPlain⟩, rfl⟩

end AutomataRequest.CommandLine
