import AutomataRequest.Proofs.CommandLine.CommandArguments
import AutomataRequest.Proofs.CommandLine.Steps

/-!
# The program flag

Whether the program is asked for can be told from the arguments alone: its flag stands before the
two hyphens that end the flags. It is never taken for the value of another flag, since what looks
like a flag is one, and no other spelling gives it. The proof follows the reader argument by
argument, on both levels of the command line.
-/

namespace AutomataRequest.CommandLine

/-- An attempt fails or succeeds with a value of some kind. -/
inductive Yields {Failure Value : Type} (holds : Value → Prop) : Except Failure Value → Prop
  | ok {value : Value} (held : holds value) : Yields holds (.ok value)
  | error (failure : Failure) : Yields holds (.error failure)

namespace Yields

variable {Failure Value Value' : Type} {attempt : Except Failure Value}
  {holds : Value → Prop} {holds' : Value' → Prop}

theorem of_ok {value : Value} (yields : Yields holds attempt) (isOk : attempt = .ok value) :
    holds value := by
  cases yields with
  | ok held =>
      cases isOk
      exact held
  | error failure => cases isOk

theorem bind {next : Value → Except Failure Value'} (yields : Yields holds attempt)
    (step : ∀ value, holds value → Yields holds' (next value)) :
    Yields holds' (attempt >>= next) := by
  cases yields with
  | ok held => exact step _ held
  | error failure => exact .error failure

theorem any (attempt : Except Failure Value) : Yields (fun _ => True) attempt := by
  cases attempt with
  | ok value => exact .ok trivial
  | error failure => exact .error failure

theorem imp {other : Value → Prop} (yields : Yields holds attempt)
    (weaker : ∀ value, holds value → other value) : Yields other attempt := by
  cases yields with
  | ok held => exact .ok (weaker _ held)
  | error failure => exact .error failure

theorem map_error {Failure' : Type} (yields : Yields holds attempt)
    (reason : Failure → Failure') : Yields holds (attempt.mapError reason) := by
  cases yields with
  | ok held => exact .ok held
  | error failure => exact .error (reason failure)

end Yields

/-- The program flag stands among the arguments in which flags are looked for. -/
def givesProgram (args : List String) : Bool :=
  (args.takeWhile fun text => text != "--").contains "--with-program"

theorem gives_program_cons (text : String) (rest : List String) :
    givesProgram (text :: rest) =
      (text != "--" && (text == "--with-program" || givesProgram rest)) := by
  by_cases isEnd : text = "--"
  · simp [givesProgram, isEnd]
  · have notEnd : (text != "--") = true := by simpa using isEnd
    rw [givesProgram, List.takeWhile_cons, if_pos notEnd, List.contains_cons, notEnd,
      Bool.true_and, Bool.beq_comm, givesProgram]

theorem given_so_far (withProgram plainOnly : Bool) (text : String) (rest : List String) :
    (withProgram || (!plainOnly && text == "--with-program") ||
      (!(plainOnly || text == "--") && givesProgram rest)) =
      (withProgram || (!plainOnly && givesProgram (text :: rest))) := by
  rw [gives_program_cons]
  by_cases isEnd : text = "--"
  · subst isEnd
    have notProgram : ("--" == "--with-program") = false := by decide
    simp [notProgram]
  · have notEnd : (text == "--") = false := by simpa using isEnd
    cases plainOnly <;> simp [bne, notEnd, Bool.or_assoc]

/-! An argument that does not end the flags and one that gives no program. -/

theorem plain_stays {plainOnly : Bool} {text : String}
    (isPlain : plainOnly = true ∨ Shape.ofText text = .plain) :
    (plainOnly || text == "--") = plainOnly ∧ (!plainOnly && text == "--with-program") = false := by
  rcases isPlain with rfl | isPlain
  · exact ⟨rfl, rfl⟩
  · have notEscape : text ≠ "--" := by
      rintro rfl
      cases isPlain
    have notProgram : text ≠ "--with-program" := by
      rintro rfl
      cases isPlain
    rw [beq_eq_false_iff_ne.mpr notEscape, beq_eq_false_iff_ne.mpr notProgram]
    exact ⟨Bool.or_false _, Bool.and_false _⟩

namespace Flag

variable {flag : Flag} {word text : String}

theorem not_program_of_valued (isValued : flag.takesValue) : (flag == .withProgram) = false := by
  rw [beq_eq_false_iff_ne]
  rintro rfl
  cases isValued

theorem Opens.not_program (opens : flag.Opens text) (isValued : flag.takesValue) :
    (text == "--with-program") = false := by
  rw [beq_eq_false_iff_ne]
  rintro rfl
  have isProgram : flag = .withProgram := opens.ofLong .withProgram ⟨none, rfl⟩
  rw [isProgram] at isValued
  cases isValued

/-- Only one spelling gives the program flag. -/
theorem program_of_fits {form : Form} {argument : String} (fits : form.Fits flag word text)
    (isWritten : form.write word text = [argument]) :
    (argument == "--with-program") = (flag == .withProgram) := by
  have opens := fits.opens isWritten
  cases fits with
  | bare isProgram isWord =>
      obtain ⟨rfl, -⟩ := List.cons.inj isWritten
      rw [isWord, isProgram]
      rfl
  | separate isValued | attached isValued | joined isValued =>
      rw [opens.not_program isValued, not_program_of_valued isValued]

end Flag

namespace Given

theorem set_flag_program (given : Given) (flag : Flag) (text : String) :
    Yields (fun after => after.withProgram = (given.withProgram || flag == .withProgram))
      (given.setFlag flag text) := by
  cases flag with
  | withProgram => exact .ok (by simp)
  | help => exact .ok (by simp)
  | config | format | encoding | direction | order =>
      apply (Yields.any _).bind
      intro value _
      exact .ok (by simp)

theorem add_flag_program (given : Given) (flag : Flag) (text : String) :
    Yields (fun after => after.withProgram = (given.withProgram || flag == .withProgram))
      (given.addFlag flag text) := by
  unfold addFlag
  split_ifs
  · exact .error _
  · apply (set_flag_program given flag text).bind
    intro after program
    exact .ok program

theorem add_place_program (given : Given) (place : Place) (texts : List String) :
    Yields (fun after => after.withProgram = given.withProgram) (given.addPlace place texts) := by
  cases texts with
  | nil =>
      cases place with
      | operands => exact .ok rfl
      | operation | file | left | right => exact .error _
  | cons text texts =>
      cases place with
      | operands | left | right => exact .ok rfl
      | operation | file =>
          apply (Yields.any _).bind
          intro value _
          exact .ok rfl

end Given

namespace Reading

/-- A level on its way: whether flags are still looked for, and whether the program flag was
given. No flag without a value can be pending or awaited. -/
structure Follows (plainOnly withProgram : Bool) (reading : Reading) : Prop where
  plain : reading.plainOnly = plainOnly
  program : reading.given.withProgram = withProgram
  pendingValued : ∀ flag texts, reading.pending = some (.ofFlag flag, texts) → flag.takesValue
  awaitedValued : ∀ flag, reading.awaiting = some flag → flag.takesValue

variable {plainOnly withProgram : Bool} {reading : Reading}

theorem start_follows : Follows false false {} where
  plain := rfl
  program := rfl
  pendingValued := by
    intro flag texts isPending
    cases isPending
  awaitedValued := by
    intro flag isAwaited
    cases isAwaited

theorem due_program (follows : reading.Follows plainOnly withProgram) :
    Yields (fun given => given.withProgram = withProgram) reading.due := by
  obtain ⟨given, pending, awaiting, filled, plain⟩ := reading
  rcases pending with _ | ⟨flag | place, texts⟩
  · exact .ok follows.program
  · cases texts with
    | nil => exact .error _
    | cons text texts =>
        have notProgram := Flag.not_program_of_valued (follows.pendingValued flag _ rfl)
        apply (given.add_flag_program flag text).imp
        intro after program
        rw [program, notProgram, Bool.or_false]
        exact follows.program
  · apply (given.add_place_program place texts).imp
    intro after program
    rw [program]
    exact follows.program

theorem settle_follows (follows : reading.Follows plainOnly withProgram) :
    Yields (Follows plainOnly withProgram) reading.settle := by
  rw [settle_eq]
  apply (due_program follows).bind
  intro given program
  exact .ok
    { plain := follows.plain
      program := program
      pendingValued := start_follows.pendingValued
      awaitedValued := follows.awaitedValued }

theorem take_flag_follows (follows : reading.Follows plainOnly withProgram) (flag : Flag)
    (text : String) :
    Yields (Follows plainOnly (withProgram || flag == .withProgram))
      (reading.takeFlag flag text) := by
  rw [take_flag_eq]
  apply (due_program follows).bind
  intro given program
  apply (given.add_flag_program flag text).bind
  intro after programAfter
  rw [program] at programAfter
  exact .ok
    { plain := follows.plain
      program := programAfter
      pendingValued := start_follows.pendingValued
      awaitedValued := start_follows.awaitedValued }

theorem await_value_follows (follows : reading.Follows plainOnly withProgram) {flag : Flag}
    (isValued : flag.takesValue) :
    Yields (Follows plainOnly withProgram) (reading.awaitValue flag) := by
  rw [await_value_eq]
  apply (due_program follows).bind
  intro given program
  refine .ok
    { plain := follows.plain
      program := program
      pendingValued := ?_
      awaitedValued := ?_ }
  · intro pending texts isPending
    cases isPending
    exact isValued
  · intro awaited isAwaited
    cases isAwaited
    exact isValued

theorem take_value_follows (follows : reading.Follows plainOnly withProgram) {flag : Flag}
    (isAwaited : reading.awaiting = some flag) (text : String) :
    Follows plainOnly withProgram (reading.takeValue flag text) where
  plain := follows.plain
  program := follows.program
  pendingValued := by
    intro pending texts isPending
    cases isPending
    exact follows.awaitedValued flag isAwaited
  awaitedValued := start_follows.awaitedValued

theorem take_plain_follows (follows : reading.Follows plainOnly withProgram) (place : Place)
    (text : String) :
    Yields (Follows plainOnly withProgram) (reading.takePlain place text) := by
  have noFlag {texts others : List String} {flag : Flag}
      (isPending : some (Slot.ofPlace place, texts) = some (.ofFlag flag, others)) :
      flag.takesValue := by
    cases isPending
  unfold takePlain
  split
  · exact .ok
      { plain := follows.plain
        program := follows.program
        pendingValued := fun _ _ => noFlag
        awaitedValued := start_follows.awaitedValued }
  · apply (settle_follows follows).bind
    intro settled followsSettled
    exact .ok
      { plain := followsSettled.plain
        program := followsSettled.program
        pendingValued := fun _ _ => noFlag
        awaitedValued := start_follows.awaitedValued }

end Reading

namespace Layout

variable {plainOnly withProgram : Bool} {layout : Layout} {reading : Reading}

theorem take_plain_follows (follows : reading.Follows plainOnly withProgram) (text : String) :
    Yields (Reading.Follows plainOnly withProgram) (layout.takePlain reading text) := by
  unfold takePlain
  split
  · rename_i place _
    exact (Reading.take_plain_follows follows place text).map_error _
  · dsimp only
    split <;> exact .error _

/-- The step: one argument may end the flags, and only one spelling gives the program flag. -/
theorem take_follows (follows : reading.Follows plainOnly withProgram) (text : String) :
    Yields (Reading.Follows (plainOnly || text == "--")
        (withProgram || (!plainOnly && text == "--with-program")))
      (layout.take reading text) := by
  have step := layout.take_step reading text
  generalize layout.take reading text = result at step ⊢
  have isFalse (flagsRead : reading.plainOnly = false) : plainOnly = false :=
    follows.plain.symm.trans flagsRead
  cases step with
  | plain isPlain =>
      rw [follows.plain] at isPlain
      obtain ⟨stays, notProgram⟩ := plain_stays (isPlain.imp_right And.left)
      rw [stays, notProgram, Bool.or_false]
      exact take_plain_follows follows text
  | value isPlain isAwaited =>
      obtain ⟨stays, notProgram⟩ := plain_stays (.inr isPlain)
      rw [stays, notProgram, Bool.or_false]
      exact .ok (Reading.take_value_follows follows isAwaited text)
  | escape flagsRead =>
      have notProgram : ("--" == "--with-program") = false := by decide
      rw [notProgram, Bool.and_false, Bool.or_false, beq_self_eq_true, Bool.or_true]
      exact .ok { follows with plain := rfl }
  | @given flag word text argument form flagsRead member fits isWritten =>
      have opens := fits.opens isWritten
      cases isFalse flagsRead
      rw [beq_eq_false_iff_ne.mpr opens.notEscape, Flag.program_of_fits fits isWritten]
      exact (Reading.take_flag_follows follows flag text).map_error _
  | awaits flagsRead member isWord isValued =>
      have opens := Flag.word_opens isWord
      rw [beq_eq_false_iff_ne.mpr opens.notEscape, opens.not_program isValued, Bool.and_false,
        Bool.or_false, Bool.or_false]
      exact (Reading.await_value_follows follows isValued).map_error _
  | help flagsRead isHelp => exact .error _
  | refused => exact .error _

/-- The run: what the arguments say of the flag is what the level holds in the end. -/
theorem read_all_follows (follows : reading.Follows plainOnly withProgram) (args : List String) :
    Yields (fun after => ∃ plainAfter, after.Follows plainAfter
        (withProgram || (!plainOnly && givesProgram args)))
      (layout.readAll reading args) := by
  induction args generalizing reading plainOnly withProgram with
  | nil =>
      have nothing : givesProgram [] = false := rfl
      rw [nothing, Bool.and_false, Bool.or_false]
      exact .ok ⟨plainOnly, follows⟩
  | cons text rest ih =>
      apply (take_follows follows text).bind
      intro after followsAfter
      apply (ih followsAfter).imp
      rintro last ⟨plainAfter, followsLast⟩
      refine ⟨plainAfter, ?_⟩
      rw [given_so_far] at followsLast
      exact followsLast

end Layout

theorem read_subcommand_program (subcommand : Subcommand) (args : List String) :
    Yields (fun read => read.1.withProgram = givesProgram args)
      (readSubcommand subcommand args) := by
  rw [read_subcommand_eq]
  have due : Yields (fun given => given.withProgram = givesProgram args)
      ((Layout.ofSubcommand subcommand).readDue {} args) := by
    apply (Layout.read_all_follows Reading.start_follows args).bind
    rintro reading ⟨plainOnly, follows⟩
    apply (Reading.due_program follows).map_error
  apply due.bind
  intro given program
  split
  · exact .error _
  · split
    · exact .ok program
    · exact .error _

theorem gives_program_after_name {text : String} {subcommand : Subcommand}
    (isName : Subcommand.ofName? text = some subcommand) (rest : List String) :
    givesProgram (text :: rest) = givesProgram rest := by
  have found := List.find?_some isName
  have sameName : subcommand.name = text := beq_iff_eq.mp found
  rw [gives_program_cons, ← sameName]
  cases subcommand <;> rfl

/-- Before a subcommand the flag counts as it does after it. -/
theorem read_root_program {plainOnly withProgram : Bool} {reading : Reading}
    (follows : reading.Follows plainOnly withProgram) (args : List String) :
    Yields (fun invocation => invocation.withProgram =
        (withProgram || (!plainOnly && givesProgram args)))
      (readRoot reading args) := by
  induction args generalizing reading plainOnly withProgram with
  | nil => exact .error _
  | cons text rest ih =>
      have taken : Yields (fun invocation => invocation.withProgram =
            (withProgram || (!plainOnly && givesProgram (text :: rest))))
          (Layout.root.take reading text >>= fun reading => readRoot reading rest) := by
        apply (Layout.take_follows follows text).bind
        intro after followsAfter
        rw [← given_so_far]
        exact ih followsAfter
      by_cases isWordPlace : (!reading.plainOnly && reading.awaiting.isNone) = true
      · cases found : Subcommand.ofName? text with
        | some subcommand =>
            have flagsRead : (!plainOnly) = true := by
              rw [← follows.plain]
              exact (Bool.and_eq_true_iff.mp isWordPlace).1
            simp only [readRoot, isWordPlace, if_true, found]
            apply (read_subcommand_program subcommand rest).bind
            rintro ⟨inner, request⟩ innerProgram
            apply ((Reading.settle_follows follows).map_error _).bind
            intro outer followsOuter
            refine .ok ?_
            rw [gives_program_after_name found, flagsRead, Bool.true_and, ← innerProgram,
              ← followsOuter.program, Bool.or_comm]
            rfl
        | none =>
            by_cases isHelp : text = helpWord
            · simp only [readRoot, isWordPlace, if_true, isHelp, Bool.true_and, beq_self_eq_true]
              exact .error _
            · simpa only [readRoot, isWordPlace, if_true, found, isHelp, Bool.true_and,
                beq_iff_eq, if_false] using taken
      · simpa [readRoot, isWordPlace] using taken

/-- A command line that is accepted asks for the program exactly if the flag stands before the
two hyphens, whatever stands around it. -/
theorem parse_program {args : List String} {invocation : Invocation}
    (accepted : parse args = .ok invocation) : invocation.withProgram = givesProgram args :=
  (read_root_program Reading.start_follows args).of_ok accepted

end AutomataRequest.CommandLine
