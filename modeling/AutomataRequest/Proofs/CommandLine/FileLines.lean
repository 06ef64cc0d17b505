import AutomataRequest.Proofs.CommandLine.FrontEnds

/-!
# Command lines that name a file

Nothing but its name tells a file from another. A command line that names the one is read as it
would be read if it named the other: what is left of its arguments fails for the same reason or
goes on abreast.
-/

namespace AutomataRequest.CommandLine

/-- What a level holds of a request once it has a file. -/
def fileNamed (file : String) : Progress := ⟨{ file := some file }, 1⟩

/-- Two levels that name files and are alike in all else. A flag may be waiting for its value, and
flags may be over. -/
structure Reading.Parallel (file file' : String) (first second : Reading) : Prop where
  samePlain : first.plainOnly = second.plainOnly
  sameAwaited : first.awaiting = second.awaiting
  firstFilled : first.filled = 1
  secondFilled : second.filled = 1
  due : Alike (Given.Abreast (fileNamed file).request (fileNamed file').request)
    first.due second.due
  awaited : ∀ flag ∈ first.awaiting, flag.isGlobal ∧
    Given.Abreast (fileNamed file).request (fileNamed file').request first.given second.given

namespace Layout

variable {file file' : String} {first second : Reading}

theorem global_of_long_flag {name : List Char} {flag : Flag}
    (isFlag : (ofSubcommand .json).longFlag? name = some flag) : flag.isGlobal :=
  List.contains_iff_mem.mpr (List.mem_of_find?_eq_some isFlag)

theorem global_of_short_flag {letter : Char} {flag : Flag}
    (isFlag : (ofSubcommand .json).shortFlag? letter = some flag) : flag.isGlobal :=
  List.contains_iff_mem.mpr (List.mem_of_find?_eq_some isFlag)

theorem settle_parallel (parallel : first.Parallel file file' second) :
    Alike (fun _ _ => True) first.settle second.settle := by
  rw [Reading.settle_eq, Reading.settle_eq]
  apply parallel.due.bind
  intro given given' _
  exact .ok trivial

theorem take_flag_parallel {flag : Flag} (isGlobal : flag.isGlobal)
    (parallel : first.Parallel file file' second) (text : String) :
    Alike (Reading.Parallel file file') (first.takeFlag flag text) (second.takeFlag flag text) := by
  rw [Reading.take_flag_eq, Reading.take_flag_eq]
  apply parallel.due.bind
  intro given given' givens
  apply (Given.add_flag_alike isGlobal givens text).bind
  intro given given' givens
  exact .ok
    { samePlain := parallel.samePlain
      sameAwaited := rfl
      firstFilled := parallel.firstFilled
      secondFilled := parallel.secondFilled
      due := .ok givens
      awaited := by
        intro flag awaited
        cases awaited }

theorem await_value_parallel {flag : Flag} (isGlobal : flag.isGlobal)
    (parallel : first.Parallel file file' second) :
    Alike (Reading.Parallel file file') (first.awaitValue flag) (second.awaitValue flag) := by
  rw [Reading.await_value_eq, Reading.await_value_eq]
  apply parallel.due.bind
  intro given given' givens
  exact .ok
    { samePlain := parallel.samePlain
      sameAwaited := rfl
      firstFilled := parallel.firstFilled
      secondFilled := parallel.secondFilled
      due := .error _
      awaited := by
        rintro other awaited
        cases awaited
        exact ⟨isGlobal, givens⟩ }

theorem take_value_parallel {flag : Flag} (isAwaited : first.awaiting = some flag)
    (parallel : first.Parallel file file' second) (text : String) :
    Reading.Parallel file file' (first.takeValue flag text) (second.takeValue flag text) := by
  obtain ⟨isGlobal, givens⟩ := parallel.awaited flag isAwaited
  exact
    { samePlain := parallel.samePlain
      sameAwaited := rfl
      firstFilled := parallel.firstFilled
      secondFilled := parallel.secondFilled
      due := Given.add_flag_alike isGlobal givens text
      awaited := by
        intro flag awaited
        cases awaited }

/-- All places are filled, so a plain argument is one too many on both sides. -/
theorem take_plain_parallel (parallel : first.Parallel file file' second) (text : String) :
    Alike (Reading.Parallel file file') ((ofSubcommand .json).takePlain first text)
      ((ofSubcommand .json).takePlain second text) := by
  have noPlace (reading : Reading) (isFilled : reading.filled = 1) :
      (ofSubcommand .json).takePlain reading text =
        .error (.usage (.unexpectedArgument text)) := by
    have isLast : (ofSubcommand .json).places[reading.filled]? = none := by
      rw [isFilled]
      rfl
    rw [takePlain, isLast]
    rfl
  rw [noPlace first parallel.firstFilled, noPlace second parallel.secondFilled]
  exact .error _

theorem ask_help_parallel (parallel : first.Parallel file file' second) :
    Alike (Reading.Parallel file file')
      (match first.settle with
        | .ok _ => Except.error Rejection.helpAsked
        | .error fault => Except.error (Rejection.usage fault))
      (match second.settle with
        | .ok _ => Except.error Rejection.helpAsked
        | .error fault => Except.error (Rejection.usage fault)) := by
  have settled := settle_parallel parallel
  generalize first.settle = attempt at settled ⊢
  generalize second.settle = attempt' at settled ⊢
  cases settled with
  | ok _ => exact .error _
  | error fault => exact .error _

theorem take_long_parallel (parallel : first.Parallel file file' second) (name : List Char)
    (value : Option (List Char)) :
    Alike (Reading.Parallel file file') ((ofSubcommand .json).takeLong first name value)
      ((ofSubcommand .json).takeLong second name value) := by
  unfold takeLong
  cases isFlag : (ofSubcommand .json).longFlag? name with
  | none => exact .error _
  | some flag =>
      have isGlobal := global_of_long_flag isFlag
      by_cases isValued : flag.takesValue = true
      · simp only [isValued, if_true]
        cases value with
        | some value => exact (take_flag_parallel isGlobal parallel _).map_error _
        | none => exact (await_value_parallel isGlobal parallel).map_error _
      · simp only [isValued, Bool.false_eq_true, if_false]
        cases value with
        | some value => exact .error _
        | none =>
            dsimp only
            split_ifs
            · exact ask_help_parallel parallel
            · exact (take_flag_parallel isGlobal parallel _).map_error _

theorem take_short_parallel (parallel : first.Parallel file file' second) (letter : Char)
    (rest : List Char) :
    Alike (Reading.Parallel file file') ((ofSubcommand .json).takeShort first letter rest)
      ((ofSubcommand .json).takeShort second letter rest) := by
  unfold takeShort
  cases isFlag : (ofSubcommand .json).shortFlag? letter with
  | none => exact .error _
  | some flag =>
      have isGlobal := global_of_short_flag isFlag
      dsimp only
      split_ifs
      · split
        · exact (await_value_parallel isGlobal parallel).map_error _
        · exact (take_flag_parallel isGlobal parallel _).map_error _
        · exact (take_flag_parallel isGlobal parallel _).map_error _
      · exact ask_help_parallel parallel

/-- The step: whatever argument comes next, it fails alike or keeps the levels parallel. -/
theorem take_parallel (parallel : first.Parallel file file' second) (text : String) :
    Alike (Reading.Parallel file file') ((ofSubcommand .json).take first text)
      ((ofSubcommand .json).take second text) := by
  unfold take
  rw [← parallel.samePlain]
  split_ifs
  · exact take_plain_parallel parallel text
  · cases Shape.ofText text with
    | escape =>
        exact .ok
          { samePlain := rfl
            sameAwaited := parallel.sameAwaited
            firstFilled := parallel.firstFilled
            secondFilled := parallel.secondFilled
            due := parallel.due
            awaited := parallel.awaited }
    | long name value => exact take_long_parallel parallel name value
    | short letter rest => exact take_short_parallel parallel letter rest
    | plain =>
        dsimp only
        rw [← parallel.sameAwaited]
        cases isAwaited : first.awaiting with
        | some flag => exact .ok (take_value_parallel isAwaited parallel text)
        | none => exact take_plain_parallel parallel text

/-- The run: so do any arguments. -/
theorem read_all_parallel (args : List String) (parallel : first.Parallel file file' second) :
    Alike (Reading.Parallel file file') ((ofSubcommand .json).readAll first args)
      ((ofSubcommand .json).readAll second args) := by
  induction args generalizing first second with
  | nil => exact .ok parallel
  | cons text rest ih =>
      rw [readAll, readAll]
      apply (take_parallel parallel text).bind
      intro first second parallel
      exact ih parallel

end Layout

/-- The places of a command line around the argument that names its file. Two hyphens may stand
right before the file. -/
structure FilePlace where
  before : List String
  inside : List String
  escaped : Bool
  givenBefore : GlobalArguments before
  givenInside : GlobalArguments inside

namespace FilePlace

/-- Behind two hyphens a file may have any name but the empty one; elsewhere the name must not look
like a flag. -/
structure Takes (place : FilePlace) (file : String) : Prop where
  isNamed : file ≠ ""
  isPlain : place.escaped = true ∨ Shape.ofText file = .plain

def escape (place : FilePlace) : List String := if place.escaped then ["--"] else []

/-- A command line with a file at its place, and with any arguments after it. -/
def line (place : FilePlace) (file : String) (after : List String) : List String :=
  place.before ++ Subcommand.json.name :: (place.inside ++ (place.escape ++ file :: after))

end FilePlace

section

variable {place : FilePlace} {file file' : String} {reading : Reading}

theorem take_file (reading : Reading) (noneFilled : reading.filled = 0) (file : String) :
    (Layout.ofSubcommand .json).takePlain reading file = (do
      let given ← reading.due.mapError .usage
      return { reading with
        given
        pending := some (.ofPlace .file, [file])
        awaiting := none
        filled := 1 }) := by
  have isNext : (Layout.ofSubcommand .json).places[reading.filled]? = some .file := by
    rw [noneFilled]
    rfl
  rw [Layout.takePlain, isNext]
  simp only [Reading.takePlain, Place.takesMany, Reading.settle_eq, noneFilled]
  cases reading.due <;> rfl

/-- With or without hyphens before it, the file is a plain argument. -/
theorem read_escaped_file (takes : place.Takes file) (isOpen : reading.IsOpen) :
    (Layout.ofSubcommand .json).readAll reading (place.escape ++ [file]) =
      (Layout.ofSubcommand .json).takePlain { reading with plainOnly := place.escaped } file := by
  unfold FilePlace.escape
  cases isEscaped : place.escaped with
  | true =>
      have escaped : (Layout.ofSubcommand .json).take reading "--" =
          .ok { reading with plainOnly := true } := Layout.take_escape isOpen
      rw [if_pos rfl, Layout.read_all_append, Layout.read_all_singleton, escaped]
      exact Layout.read_all_singleton _ _ _
  | false =>
      have isPlain : Shape.ofText file = .plain := by
        simpa [isEscaped] using takes.isPlain
      have noChange : { reading with plainOnly := false } = reading := by
        rw [← isOpen.flagsRead]
      rw [if_neg Bool.false_ne_true, List.nil_append, Layout.read_all_singleton, noChange]
      simp only [Layout.take, isOpen.flagsRead, Bool.false_eq_true, if_false, isPlain,
        isOpen.noneAwaited]

theorem read_files (takes : place.Takes file) (takes' : place.Takes file')
    (abreast : Reading.Abreast ⟨{}, 0⟩ ⟨{}, 0⟩ reading reading) :
    Alike (Reading.Parallel file file')
      ((Layout.ofSubcommand .json).readAll reading (place.escape ++ [file]))
      ((Layout.ofSubcommand .json).readAll reading (place.escape ++ [file'])) := by
  have taken (name : String) :=
    take_file { reading with plainOnly := place.escaped } abreast.firstFilled name
  rw [read_escaped_file takes abreast.firstOpen, read_escaped_file takes' abreast.firstOpen,
    taken, taken]
  apply (abreast.due.map_error Rejection.usage).bind
  rintro given given' ⟨sameGlobals, noRequest, noRequest'⟩
  have due : Alike (Given.Abreast (fileNamed file).request (fileNamed file').request)
      (given.addPlace .file [file]) (given'.addPlace .file [file']) := by
    rw [Given.add_file takes.isNamed, Given.add_file takes'.isNamed]
    refine .ok ⟨sameGlobals, ?_, ?_⟩
    · exact congrArg (fun part => { part with file := some file }) noRequest
    · exact congrArg (fun part => { part with file := some file' }) noRequest'
  exact .ok
    { samePlain := rfl
      sameAwaited := rfl
      firstFilled := rfl
      secondFilled := rfl
      due := due
      awaited := by
        intro flag awaited
        cases awaited }

theorem read_file_levels (takes : place.Takes file) (takes' : place.Takes file')
    (after : List String) :
    Alike (Given.Abreast (fileNamed file).request (fileNamed file').request)
      ((Layout.ofSubcommand .json).readDue {} (place.inside ++ (place.escape ++ file :: after)))
      ((Layout.ofSubcommand .json).readDue {}
        (place.inside ++ (place.escape ++ file' :: after))) := by
  have wide := Layout.subcommand_is_wide .json
  have split (name : String) :
      place.escape ++ name :: after = (place.escape ++ [name]) ++ after := by
    rw [List.append_assoc, List.singleton_append]
  simp only [split, Layout.read_due_append]
  have insides := read_global_arguments wide wide place.givenInside Reading.start_abreast
  cases attempt : (Layout.ofSubcommand .json).readAll {} place.inside with
  | error fault => exact .error fault
  | ok reading =>
      rw [attempt] at insides
      cases insides with
      | ok abreast =>
          apply (read_files takes takes' abreast).bind
          intro first second parallel
          apply (Layout.read_all_parallel after parallel).bind
          intro first second parallel
          exact parallel.due.map_error _

/-- Whichever file is named, the line is rejected for the same reason, or the requests name the
files and all else is the same. -/
theorem parse_file_lines (takes : place.Takes file) (takes' : place.Takes file')
    (after : List String) :
    Alike (fun first second => first = { second with request := .json file } ∧
        second.request = .json file')
      (parse (place.line file after)) (parse (place.line file' after)) := by
  apply parse_subcommands place.givenBefore
  rw [read_subcommand_eq, read_subcommand_eq]
  apply (read_file_levels takes takes' after).bind
  rintro given given' ⟨sameGlobals, isFirst, isSecond⟩
  have noConflict (name : String) : (fileNamed name).request.conflict? = none := rfl
  have isRequest (name : String) :
      (fileNamed name).request.request? .json = some (.json name) := rfl
  rw [given.conflict_of_request_part, given.request_of_request_part,
    given'.conflict_of_request_part, given'.request_of_request_part, isFirst, isSecond,
    noConflict, noConflict, isRequest, isRequest]
  exact .ok ⟨sameGlobals, rfl, rfl⟩

end

end AutomataRequest.CommandLine
