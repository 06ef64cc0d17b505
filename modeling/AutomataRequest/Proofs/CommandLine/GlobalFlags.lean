import AutomataRequest.CommandLine.Parse
import Mathlib.Tactic.SplitIfs

/-!
# Global flags

The configuration, the format and the program flag may stand before a subcommand and after it.
They are read without a look at the request and leave it as it is. So two levels with the same
global flags, whatever else they hold, fail alike at such arguments or go on abreast.
-/

namespace AutomataRequest.CommandLine

/-- Two attempts fail for the same reason or succeed with related values. -/
inductive Alike {Failure First Second : Type} (related : First → Second → Prop) :
    Except Failure First → Except Failure Second → Prop
  | ok {first : First} {second : Second} (values : related first second) :
      Alike related (.ok first) (.ok second)
  | error (failure : Failure) : Alike related (.error failure) (.error failure)

namespace Alike

variable {Failure First Second First' Second' : Type}
  {related : First → Second → Prop} {related' : First' → Second' → Prop}
  {first : Except Failure First} {second : Except Failure Second}

theorem bind {next : First → Except Failure First'} {next' : Second → Except Failure Second'}
    (alike : Alike related first second)
    (step : ∀ value value', related value value' → Alike related' (next value) (next' value')) :
    Alike related' (first >>= next) (second >>= next') := by
  cases alike with
  | ok values => exact step _ _ values
  | error failure => exact .error failure

theorem map_error {Failure' : Type} (alike : Alike related first second)
    (reason : Failure → Failure') :
    Alike related (first.mapError reason) (second.mapError reason) := by
  cases alike with
  | ok values => exact .ok values
  | error failure => exact .error (reason failure)

theorem same (attempt : Except Failure First) : Alike (· = ·) attempt attempt := by
  cases attempt with
  | ok value => exact .ok rfl
  | error failure => exact .error failure

end Alike

namespace Flag

/-- The flag as an argument, without a value. -/
def word (flag : Flag) : String := "--" ++ flag.long

def isGlobal (flag : Flag) : Bool := Layout.commonFlags.contains flag

theorem shape_of_word (flag : Flag) :
    Shape.ofText flag.word = .long flag.long.toList none := by
  cases flag <;> rfl

theorem shape_of_attached (flag : Flag) (value : String) :
    Shape.ofText (flag.word ++ "=" ++ value) =
      .long flag.long.toList (some value.toList) := by
  cases flag <;> simp [Shape.ofText, word, long, splitValue]

end Flag

namespace Layout

theorem long_flag_of_mem {layout : Layout} {flag : Flag} (member : flag ∈ layout.flags) :
    layout.longFlag? flag.long.toList = some flag := by
  have sameFlag : (fun other : Flag => other.long.toList == flag.long.toList) =
      fun other => other == flag := by
    funext other
    cases other <;> cases flag <;> rfl
  unfold longFlag?
  rw [sameFlag]
  cases found : layout.flags.find? fun other => other == flag with
  | none => simpa using List.find?_eq_none.mp found flag member
  | some other =>
      have isFlag : other = flag := by simpa using List.find?_some found
      rw [isFlag]

theorem read_all_singleton (layout : Layout) (reading : Reading) (text : String) :
    layout.readAll reading [text] = layout.take reading text := by
  simp only [readAll]
  cases layout.take reading text <;> rfl

theorem read_all_append (layout : Layout) (reading : Reading) (first second : List String) :
    layout.readAll reading (first ++ second) =
      layout.readAll reading first >>= fun reading => layout.readAll reading second := by
  induction first generalizing reading with
  | nil => rfl
  | cons text rest ih =>
      simp only [List.cons_append, readAll, bind_assoc, ih]

end Layout

namespace Reading

/-- Flags are looked for, and the next argument is not the value of one. -/
structure IsOpen (reading : Reading) : Prop where
  flagsRead : reading.plainOnly = false
  noneAwaited : reading.awaiting = none

/-- What a level holds once nothing is pending. -/
def due (reading : Reading) : Except UsageFault Given :=
  match reading.pending with
  | none => .ok reading.given
  | some (.ofFlag flag, []) => .error (.missingValue (.ofFlag flag))
  | some (.ofFlag flag, text :: _) => reading.given.addFlag flag text
  | some (.ofPlace place, texts) => reading.given.addPlace place texts

theorem settle_eq (reading : Reading) :
    reading.settle = (do return { reading with given := ← reading.due, pending := none }) := by
  obtain ⟨given, pending, awaiting, filled, plainOnly⟩ := reading
  rcases pending with _ | ⟨flag | place, texts⟩
  · rfl
  · cases texts <;> rfl
  · rfl

theorem take_flag_eq (reading : Reading) (flag : Flag) (text : String) :
    reading.takeFlag flag text = (do
      let given ← reading.due
      let given ← given.addFlag flag text
      return { reading with given, pending := none, awaiting := none }) := by
  unfold takeFlag
  rw [settle_eq]
  simp only [bind_assoc, pure_bind]

theorem await_value_eq (reading : Reading) (flag : Flag) :
    reading.awaitValue flag = (do
      let given ← reading.due
      return { reading with
        given
        pending := some (.ofFlag flag, [])
        awaiting := some flag }) := by
  unfold awaitValue
  rw [settle_eq]
  simp only [bind_assoc, pure_bind]

end Reading

namespace Given

/-- The values of the global flags, and which of them were given. -/
def globalPart (given : Given) : Given :=
  { seen := given.seen.filter Flag.isGlobal
    config := given.config
    format := given.format
    withProgram := given.withProgram }

/-- All that says something about the request. -/
def requestPart (given : Given) : Given :=
  { given with
    seen := given.seen.filter fun flag => !flag.isGlobal
    config := none
    format := none
    withProgram := false }

/-- Two levels hold the same global flags, and of their requests these parts. -/
structure Abreast (left right first second : Given) : Prop where
  sameGlobals : first.globalPart = second.globalPart
  leftRequest : first.requestPart = left
  rightRequest : second.requestPart = right

variable {left right first second : Given} {flag : Flag}

theorem seen_of_global_part (given : Given) (isGlobal : flag.isGlobal) :
    given.seen.contains flag = given.globalPart.seen.contains flag := by
  simp [globalPart, isGlobal]

theorem set_flag_alike (isGlobal : flag.isGlobal) (abreast : Abreast left right first second)
    (text : String) :
    Alike (Abreast left right) (first.setFlag flag text) (second.setFlag flag text) := by
  obtain ⟨sameGlobals, leftRequest, rightRequest⟩ := abreast
  cases flag with
  | config =>
      apply (Alike.same (checkedPath (.ofFlag .config) text)).bind
      rintro path _ rfl
      exact .ok ⟨congrArg (fun part => { part with config := some path }) sameGlobals,
        leftRequest, rightRequest⟩
  | format =>
      apply (Alike.same (checkedFormat text)).bind
      rintro format _ rfl
      exact .ok ⟨congrArg (fun part => { part with format := some format }) sameGlobals,
        leftRequest, rightRequest⟩
  | withProgram =>
      exact .ok ⟨congrArg (fun part => { part with withProgram := true }) sameGlobals,
        leftRequest, rightRequest⟩
  | help => exact .ok ⟨sameGlobals, leftRequest, rightRequest⟩
  | encoding | direction | order => exact absurd isGlobal (by decide)

theorem add_flag_alike (isGlobal : flag.isGlobal) (abreast : Abreast left right first second)
    (text : String) :
    Alike (Abreast left right) (first.addFlag flag text) (second.addFlag flag text) := by
  have sameSeen : first.seen.contains flag = second.seen.contains flag := by
    rw [seen_of_global_part first isGlobal, seen_of_global_part second isGlobal,
      abreast.sameGlobals]
  unfold addFlag
  rw [sameSeen]
  split_ifs
  · exact .error _
  · apply (set_flag_alike isGlobal abreast text).bind
    rintro given given' ⟨sameGlobals, leftRequest, rightRequest⟩
    refine .ok ⟨?_, ?_, ?_⟩
    · have sameAfter := congrArg
        (fun part => { part with seen := part.seen ++ [flag] }) sameGlobals
      simpa [globalPart, isGlobal] using sameAfter
    · simpa [requestPart, isGlobal] using leftRequest
    · simpa [requestPart, isGlobal] using rightRequest

end Given

namespace Layout

variable {layout : Layout} {reading : Reading} {flag : Flag}

theorem take_bare (isOpen : reading.IsOpen) (member : flag ∈ layout.flags)
    (isBare : flag.takesValue = false) (notHelp : flag ≠ .help) :
    layout.take reading flag.word = (reading.takeFlag flag "").mapError .usage := by
  simp only [take, isOpen.flagsRead, Bool.false_eq_true, if_false, flag.shape_of_word, takeLong,
    long_flag_of_mem member, isBare, notHelp]

theorem take_attached (isOpen : reading.IsOpen) (member : flag ∈ layout.flags)
    (isValued : flag.takesValue) (value : String) :
    layout.take reading (flag.word ++ "=" ++ value) =
      (reading.takeFlag flag value).mapError .usage := by
  simp only [take, isOpen.flagsRead, Bool.false_eq_true, if_false, flag.shape_of_attached,
    takeLong, long_flag_of_mem member, isValued, if_true, String.ofList_toList]

theorem take_awaiting (isOpen : reading.IsOpen) (member : flag ∈ layout.flags)
    (isValued : flag.takesValue) :
    layout.take reading flag.word = (reading.awaitValue flag).mapError .usage := by
  simp only [take, isOpen.flagsRead, Bool.false_eq_true, if_false, flag.shape_of_word, takeLong,
    long_flag_of_mem member, isValued, if_true]

/-- Once the flag awaits its value, a plain argument is that value; it stays pending. -/
theorem read_separate (isOpen : reading.IsOpen) {word value : String}
    (awaits : layout.take reading word = (reading.awaitValue flag).mapError .usage)
    (isPlain : Shape.ofText value = .plain) :
    layout.readAll reading [word, value] = (do
      let given ← reading.due.mapError .usage
      return { reading with given, pending := some (.ofFlag flag, [value]) }) := by
  simp only [readAll, awaits, Reading.await_value_eq]
  cases reading.due with
  | error fault => rfl
  | ok given =>
      simp only [Except.mapError, bind, Except.bind, pure, Except.pure, take, isOpen.flagsRead,
        isPlain, Reading.takeValue, isOpen.noneAwaited]
      rfl

end Layout

/-- How far a level has come with its request. -/
structure Progress where
  request : Given
  filled : Nat

namespace Reading

/-- Two levels that go on alike at global flags, with their requests at these points. -/
structure Abreast (left right : Progress) (first second : Reading) : Prop where
  firstOpen : first.IsOpen
  secondOpen : second.IsOpen
  firstFilled : first.filled = left.filled
  secondFilled : second.filled = right.filled
  due : Alike (Given.Abreast left.request right.request) first.due second.due

theorem start_abreast : Abreast ⟨{}, 0⟩ ⟨{}, 0⟩ {} {} :=
  ⟨⟨rfl, rfl⟩, ⟨rfl, rfl⟩, rfl, rfl, .ok ⟨rfl, rfl, rfl⟩⟩

theorem take_flag_alike {left right : Progress} {first second : Reading} {flag : Flag}
    (isGlobal : flag.isGlobal) (abreast : Abreast left right first second) (text : String) :
    Alike (Abreast left right) (first.takeFlag flag text) (second.takeFlag flag text) := by
  rw [take_flag_eq, take_flag_eq]
  apply abreast.due.bind
  intro given given' givens
  apply (Given.add_flag_alike isGlobal givens text).bind
  intro given given' givens
  exact .ok
    { firstOpen := ⟨abreast.firstOpen.flagsRead, rfl⟩
      secondOpen := ⟨abreast.secondOpen.flagsRead, rfl⟩
      firstFilled := abreast.firstFilled
      secondFilled := abreast.secondFilled
      due := .ok givens }

end Reading

/-- The arguments that give one global flag. A value that is an argument of its own must not
look like a flag. -/
inductive GlobalFlag : List String → Prop
  | program : GlobalFlag [Flag.word .withProgram]
  | attached (flag : Flag) (value : String) (isGlobal : flag.isGlobal)
      (isValued : flag.takesValue) : GlobalFlag [flag.word ++ "=" ++ value]
  | separate (flag : Flag) (value : String) (isGlobal : flag.isGlobal)
      (isValued : flag.takesValue) (isPlain : Shape.ofText value = .plain) :
      GlobalFlag [flag.word, value]

/-- Any number of global flags. -/
inductive GlobalArguments : List String → Prop
  | nil : GlobalArguments []
  | cons {flag args : List String} (head : GlobalFlag flag) (rest : GlobalArguments args) :
      GlobalArguments (flag ++ args)

namespace Layout

/-- A layout with all global flags. -/
def IsWide (layout : Layout) : Prop := ∀ flag : Flag, flag.isGlobal → flag ∈ layout.flags

theorem root_is_wide : root.IsWide := by
  intro flag isGlobal
  exact List.contains_iff_mem.mp isGlobal

theorem subcommand_is_wide (subcommand : Subcommand) : (ofSubcommand subcommand).IsWide := by
  intro flag isGlobal
  have member := root_is_wide flag isGlobal
  cases subcommand with
  | json => exact member
  | render | pair => exact List.mem_append_left _ member

end Layout

section

variable {layout layout' : Layout} {left right : Progress} {first second : Reading}
  {args : List String}

/-- The step: one global flag keeps two levels abreast, or fails alike on both. -/
theorem read_global_flag (wide : layout.IsWide) (wide' : layout'.IsWide)
    (given : GlobalFlag args) (abreast : first.Abreast left right second) :
    Alike (Reading.Abreast left right) (layout.readAll first args)
      (layout'.readAll second args) := by
  cases given with
  | program =>
      have isGlobal : Flag.withProgram.isGlobal := rfl
      rw [layout.read_all_singleton, layout'.read_all_singleton,
        Layout.take_bare abreast.firstOpen (wide _ isGlobal) rfl (by decide),
        Layout.take_bare abreast.secondOpen (wide' _ isGlobal) rfl (by decide)]
      exact (Reading.take_flag_alike isGlobal abreast "").map_error _
  | attached flag value isGlobal isValued =>
      rw [layout.read_all_singleton, layout'.read_all_singleton,
        Layout.take_attached abreast.firstOpen (wide _ isGlobal) isValued,
        Layout.take_attached abreast.secondOpen (wide' _ isGlobal) isValued]
      exact (Reading.take_flag_alike isGlobal abreast value).map_error _
  | separate flag value isGlobal isValued isPlain =>
      rw [Layout.read_separate abreast.firstOpen
          (Layout.take_awaiting abreast.firstOpen (wide _ isGlobal) isValued) isPlain,
        Layout.read_separate abreast.secondOpen
          (Layout.take_awaiting abreast.secondOpen (wide' _ isGlobal) isValued) isPlain]
      apply (abreast.due.map_error Rejection.usage).bind
      intro given given' givens
      exact .ok
        { firstOpen := ⟨abreast.firstOpen.flagsRead, abreast.firstOpen.noneAwaited⟩
          secondOpen := ⟨abreast.secondOpen.flagsRead, abreast.secondOpen.noneAwaited⟩
          firstFilled := abreast.firstFilled
          secondFilled := abreast.secondFilled
          due := Given.add_flag_alike isGlobal givens value }

/-- The run: so do any number of them. -/
theorem read_global_arguments (wide : layout.IsWide) (wide' : layout'.IsWide)
    (globals : GlobalArguments args) (abreast : first.Abreast left right second) :
    Alike (Reading.Abreast left right) (layout.readAll first args)
      (layout'.readAll second args) := by
  induction globals generalizing first second with
  | nil => exact .ok abreast
  | cons head rest ih =>
      rw [layout.read_all_append, layout'.read_all_append]
      apply (read_global_flag wide wide' head abreast).bind
      intro first second abreast
      exact ih abreast

/-- Before a subcommand, an argument is no word if a flag awaits it or it looks like a flag. -/
theorem read_root_cons {reading : Reading} {text : String} (rest : List String)
    (noWord : reading.awaiting.isSome ∨ Shape.ofText text ≠ .plain) :
    readRoot reading (text :: rest) =
      Layout.root.take reading text >>= fun reading => readRoot reading rest := by
  rcases noWord with awaited | notPlain
  · simp [readRoot, Option.isNone_eq_false_iff.mpr awaited]
  · have noName : Subcommand.ofName? text = none := by
      refine List.find?_eq_none.mpr ?_
      intro subcommand _ isName
      rw [← beq_iff_eq.mp isName] at notPlain
      cases subcommand <;> exact notPlain rfl
    have notHelp : text ≠ helpWord := by
      rintro rfl
      exact notPlain rfl
    simp [readRoot, noName, notHelp]

theorem read_root_flag {reading : Reading} {flag : List String} (rest : List String)
    (given : GlobalFlag flag) (isOpen : reading.IsOpen) :
    readRoot reading (flag ++ rest) =
      Layout.root.readAll reading flag >>= fun reading => readRoot reading rest := by
  cases given with
  | program =>
      rw [Layout.read_all_singleton]
      exact read_root_cons rest (.inr (by decide))
  | attached flag value isGlobal isValued =>
      rw [Layout.read_all_singleton]
      exact read_root_cons rest (.inr (by simp [flag.shape_of_attached]))
  | separate flag value isGlobal isValued isPlain =>
      have awaits := Layout.take_awaiting isOpen (Layout.root_is_wide flag isGlobal) isValued
      simp only [List.cons_append, List.nil_append, Layout.readAll, bind_assoc]
      rw [read_root_cons _ (.inr (by simp [flag.shape_of_word])), awaits, Reading.await_value_eq]
      cases reading.due with
      | error fault => rfl
      | ok given => exact read_root_cons rest (.inl rfl)

theorem read_root_globals {reading : Reading} {left right : Progress} {args : List String}
    (rest : List String) (globals : GlobalArguments args)
    (abreast : reading.Abreast left right reading) :
    readRoot reading (args ++ rest) =
      Layout.root.readAll reading args >>= fun reading => readRoot reading rest := by
  induction globals generalizing reading with
  | nil => rfl
  | cons head tail ih =>
      rw [List.append_assoc, read_root_flag _ head abreast.firstOpen, Layout.read_all_append,
        bind_assoc]
      have alike := read_global_flag Layout.root_is_wide Layout.root_is_wide head abreast
      cases attempt : Layout.root.readAll reading _ with
      | error fault => rfl
      | ok after =>
          rw [attempt] at alike
          cases alike with
          | ok values => exact ih values

end

end AutomataRequest.CommandLine
