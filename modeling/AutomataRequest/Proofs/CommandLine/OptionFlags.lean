import AutomataRequest.Proofs.CommandLine.FlagOccurrences
import AutomataRequest.Proofs.RunStages

/-!
# No option flag is lost

A direction and an order exclude each other, and whoever gives both is told so: a line with both
is never accepted, and it does not end well either, as only a flag that asks for help can stop the
reader early. In an accepted line the one that is given is the option of the request.
-/

namespace AutomataRequest.CommandLine

/-- The short flag asks for help whatever is joined to it. -/
inductive BeginsWithHelp : List String → Prop
  | long (rest : List String) : BeginsWithHelp ("--help" :: rest)
  | short (letters : String) (rest : List String) : BeginsWithHelp (("-h" ++ letters) :: rest)

/-- A flag that asks for help stands before the two hyphens. -/
def AsksHelp : List String → Prop := BeforeEscape BeginsWithHelp

/-! Asking for help. -/

theorem no_help_of_words {args : List String}
    (words : ∀ word ∈ args, word ≠ "--help" ∧ ¬['-', 'h'] <+: word.toList) : ¬AsksHelp args := by
  rintro ⟨skipped, rest, rfl, -, begins⟩
  cases begins with
  | long rest => exact (words "--help" (by simp)).1 rfl
  | short letters rest => exact (words ("-h" ++ letters) (by simp)).2 ⟨letters.toList, by simp⟩

theorem usage_is_no_help {Value : Type} {attempt : Except UsageFault Value} :
    attempt.mapError Rejection.usage ≠ .error .helpAsked := by
  cases attempt <;> nofun

theorem of_bind_error {Failure First Second : Type} {attempt : Except Failure First}
    {next : First → Except Failure Second} {failure : Failure}
    (fails : attempt >>= next = .error failure) :
    attempt = .error failure ∨ ∃ first, attempt = .ok first ∧ next first = .error failure := by
  cases attempt with
  | ok first => exact .inr ⟨first, rfl, fails⟩
  | error found =>
      cases fails
      exact .inl rfl

namespace Layout

variable {layout : Layout} {reading : Reading} {text : String} {plainOnly withProgram : Bool}

theorem plain_is_no_help : layout.takePlain reading text ≠ .error .helpAsked := by
  unfold takePlain
  split
  · exact usage_is_no_help
  · dsimp only
    split <;> nofun

/-- Only a flag asks for help, and only while flags are looked for. -/
theorem help_of_take (asked : layout.take reading text = .error .helpAsked) (rest : List String) :
    reading.plainOnly = false ∧ BeginsWithHelp (text :: rest) := by
  have step := layout.take_step reading text
  generalize layout.take reading text = result at step asked
  cases step with
  | plain isPlain => exact absurd asked plain_is_no_help
  | value isPlain isAwaited => cases asked
  | escape flagsRead => cases asked
  | given flagsRead member fits isWritten => exact absurd asked usage_is_no_help
  | awaits flagsRead member isWord isValued => exact absurd asked usage_is_no_help
  | refused => cases asked
  | help flagsRead isHelp =>
      refine ⟨flagsRead, ?_⟩
      rcases isHelp with rfl | ⟨word, letters, ⟨letter, isLetter, rfl⟩, rfl⟩
      · exact .long rest
      · cases isLetter
        exact .short letters rest

theorem help_of_read {args : List String} (follows : reading.Follows plainOnly withProgram)
    (asked : layout.readAll reading args = .error .helpAsked) :
    plainOnly = false ∧ AsksHelp args := by
  induction args generalizing reading plainOnly withProgram with
  | nil => cases asked
  | cons text rest ih =>
      rcases of_bind_error asked with asked | ⟨next, taken, asked⟩
      · obtain ⟨flagsRead, begins⟩ := help_of_take asked rest
        exact ⟨follows.plain.symm.trans flagsRead, [], _, rfl, List.not_mem_nil, begins⟩
      · have followsNext := (take_follows follows text).of_ok taken
        obtain ⟨stillRead, later⟩ := ih followsNext asked
        rw [Bool.or_eq_false_iff] at stillRead
        exact ⟨stillRead.1,
          before_escape_cons_iff.mpr (.inr ⟨beq_eq_false_iff_ne.mp stillRead.2, later⟩)⟩

end Layout

theorem help_of_subcommand {subcommand : Subcommand} {args : List String}
    (asked : readSubcommand subcommand args = .error .helpAsked) : AsksHelp args := by
  rcases of_bind_error asked with asked | ⟨reading, _, asked⟩
  · exact (Layout.help_of_read Reading.start_follows asked).2
  · rcases of_bind_error asked with asked | ⟨settled, _, asked⟩
    · exact absurd asked usage_is_no_help
    · split at asked
      · cases asked
      · split at asked <;> cases asked

theorem root_takes_no_option {flag : Flag} {reading next : Reading} {text : String}
    (isOption : flag.IsOption) (flagsRead : reading.plainOnly = false)
    (isLong : Shape.IsLong flag text) : Layout.root.take reading text ≠ .ok next := by
  intro taken
  have notOther {other : Flag} (member : other ∈ Layout.root.flags) : other ≠ flag := by
    rintro rfl
    have isGlobal : other.isGlobal := List.contains_iff_mem.mpr member
    rw [isOption.notGlobal] at isGlobal
    cases isGlobal
  have step := Layout.root.take_step reading text
  generalize Layout.root.take reading text = result at step taken
  cases step with
  | plain isPlain =>
      rw [flagsRead] at isPlain
      exact isLong.not_plain (isPlain.resolve_left Bool.false_ne_true).1
  | value isPlain isAwaited => exact isLong.not_plain isPlain
  | escape flagsRead => exact isLong.not_escape rfl
  | given flagsRead member fits isWritten =>
      exact notOther member ((fits.opens isWritten).ofLong flag isLong)
  | awaits flagsRead member isWord isValued =>
      exact notOther member ((Flag.word_opens isWord).ofLong flag isLong)
  | help flagsRead isHelp => cases taken
  | refused => cases taken

theorem is_word_plain {text : String} (isWord : (Subcommand.ofName? text).isSome || text == helpWord) :
    Shape.ofText text = .plain := by
  rcases Bool.or_eq_true_iff.mp isWord with isName | isHelp
  · obtain ⟨subcommand, found⟩ := Option.isSome_iff_exists.mp isName
    have isName := List.find?_some found
    rw [← beq_iff_eq.mp isName]
    cases subcommand <;> rfl
  · rw [beq_iff_eq.mp isHelp]
    rfl

/-- The help word takes nothing but the name of a subcommand, so no flag can stand behind it. -/
theorem no_flag_at_help_word {flag : Flag} {args : List String} (asked : readHelp args = .helpAsked) :
    ¬Occurs flag (helpWord :: args) := by
  have isFor := flag_is_for_flag flag
  have words : ∀ word ∈ helpWord :: args, Shape.ofText word = .plain := by
    match args with
    | [] => exact List.forall_mem_singleton.mpr rfl
    | [text] =>
        simp only [readHelp] at asked
        split at asked
        · rename_i isWord
          exact List.forall_mem_cons.mpr ⟨rfl, List.forall_mem_singleton.mpr (is_word_plain isWord)⟩
        · cases asked
    | _ :: _ :: _ =>
        simp only [readHelp] at asked
        split at asked <;> cases asked
  intro occurs
  rw [← List.append_nil (helpWord :: args)] at occurs
  exact isFor.not_nil (isFor.skip (plain_not_long words) occurs)

theorem read_root_error {reading : Reading} {text : String} {rest : List String}
    {rejection : Rejection} (rejected : readRoot reading (text :: rest) = .error rejection) :
    (∃ subcommand, text = Subcommand.name subcommand ∧
        (readSubcommand subcommand rest = .error rejection ∨ ∃ fault, rejection = .usage fault)) ∨
      (text = helpWord ∧ readHelp rest = rejection) ∨
      (Layout.root.take reading text >>= fun reading => readRoot reading rest) =
        .error rejection := by
  rw [readRoot] at rejected
  dsimp only at rejected
  split at rejected
  · rename_i subcommand isName
    left
    refine ⟨subcommand, ?_, ?_⟩
    · split at isName
      · have found := List.find?_some isName
        exact (beq_iff_eq.mp found).symm
      · cases isName
    · rcases of_bind_error rejected with inner | ⟨inner, _, rejected⟩
      · exact .inl inner
      · right
        rcases of_bind_error rejected with outer | ⟨outer, _, rejected⟩
        · cases settles : reading.settle with
          | ok settled =>
              rw [settles] at outer
              cases outer
          | error fault =>
              rw [settles] at outer
              cases outer
              exact ⟨fault, rfl⟩
        · cases rejected
  · split at rejected
    · rename_i isHelp
      rw [Bool.and_eq_true, beq_iff_eq] at isHelp
      cases rejected
      exact .inr (.inl ⟨isHelp.2, rfl⟩)
    · exact .inr (.inr rejected)

/-- Where an option occurs, the help that is asked for was asked by a flag. -/
theorem help_of_root {flag : Flag} {reading : Reading} {withProgram : Bool} {args : List String}
    (isOption : flag.IsOption) (follows : reading.Follows false withProgram)
    (occurs : Occurs flag args) (asked : readRoot reading args = .error .helpAsked) :
    AsksHelp args := by
  have isFor := flag_is_for_flag flag
  induction args generalizing reading withProgram with
  | nil => exact absurd occurs isFor.not_nil
  | cons text rest ih =>
      rcases read_root_error asked with
        ⟨subcommand, rfl, inner | ⟨fault, isUsage⟩⟩ | ⟨rfl, isHelp⟩ | asked
      · have notEscape : subcommand.name ≠ "--" := by
          cases subcommand <;> decide
        exact before_escape_cons_iff.mpr (.inr ⟨notEscape, help_of_subcommand inner⟩)
      · cases isUsage
      · exact absurd occurs (no_flag_at_help_word isHelp)
      · rcases of_bind_error asked with asked | ⟨next, taken, asked⟩
        · exact ⟨[], _, rfl, List.not_mem_nil, (Layout.help_of_take asked rest).2⟩
        · rcases before_escape_cons_iff.mp occurs with here | ⟨notEscape, later⟩
          · exact absurd taken
              (root_takes_no_option isOption follows.plain (isFor.first_long here))
          · have followsNext := (Layout.take_follows follows text).of_ok taken
            rw [beq_eq_false_iff_ne.mpr notEscape] at followsNext
            exact before_escape_cons_iff.mpr (.inr ⟨notEscape, ih followsNext later asked⟩)

/-! Two options. -/

theorem both_options_rejected {args : List String} (direction : Occurs .direction args)
    (order : Occurs .order args) (invocation : Invocation) : parse args ≠ .ok invocation := by
  intro accepted
  obtain ⟨line, isRead, rfl⟩ := line_of_accepted accepted
  obtain ⟨given, isGiven, noConflict, -⟩ := line.given_of_accepted isRead accepted
  rw [Line.occurs_iff isRead direction_is_option] at direction
  rw [Line.occurs_iff isRead order_is_option] at order
  rcases one_option_of_parts isGiven noConflict with isNone | isNone
  · exact (direction_setting.none_iff isGiven).mp isNone direction
  · exact (order_setting.none_iff isGiven).mp isNone order

end AutomataRequest.CommandLine

namespace AutomataRequest

open CommandLine

/-- Where a direction and an order both occur, the run is rejected and prints nothing, unless a
flag asks for help. Where a request is accepted, its option is the direction or the order that was
given, and there is none only if neither was. So the options are never chosen between. -/
theorem option_flags_are_never_dropped :
    (∀ (surroundings : Surroundings) (args : List String),
      Occurs .direction args → Occurs .order args → ¬AsksHelp args →
        (run surroundings args).status = 2 ∧ (run surroundings args).out = "") ∧
    (∀ (args : List String) (invocation : Invocation) (options : Option Options),
      parse args = .ok invocation → invocation.request.HasOptions options →
        (∀ direction, options = some (.direction direction) ↔
          ∃ text, OccursWith .direction text args ∧ Direction.ofText text = .ok direction) ∧
        (∀ order, options = some (.order order) ↔
          ∃ text, OccursWith .order text args ∧ Order.ofText text = .ok order) ∧
        (options = none ↔ ¬Occurs .direction args ∧ ¬Occurs .order args)) ∧
    ∀ (subcommand : Subcommand) (args : List String) (given : Given) (request : Request),
      readSubcommand subcommand args = .ok (given, request) →
        given.direction = none ∨ given.order = none := by
  refine ⟨?_, ?_, ?_⟩
  · intro surroundings args direction order noHelp
    have rejected := both_options_rejected direction order
    rw [run]
    cases attempt : parse args with
    | ok invocation => exact absurd attempt (rejected invocation)
    | error rejection =>
        cases rejection with
        | helpAsked =>
            have asked := help_of_root direction_is_option Reading.start_follows direction attempt
            exact absurd asked noHelp
        | helpNeeded => exact ⟨rfl, rfl⟩
        | usage fault => exact ⟨rfl, rfl⟩
  · intro args invocation options accepted has
    obtain ⟨line, isRead, rfl⟩ := line_of_accepted accepted
    obtain ⟨given, isGiven, noConflict, asked⟩ := line.given_of_accepted isRead accepted
    obtain ⟨ofDirection, ofOrder, ofNone⟩ :=
      Given.options_of_one (one_option_of_parts isGiven noConflict)
    rw [Given.options_of_request asked has]
    refine ⟨?_, ?_, ?_⟩
    · intro direction
      rw [ofDirection, (direction_setting.records isGiven).value]
      simp only [Line.occurs_with_iff isRead direction_is_option]
    · intro order
      rw [ofOrder, (order_setting.records isGiven).value]
      simp only [Line.occurs_with_iff isRead order_is_option]
    · rw [ofNone, direction_setting.none_iff isGiven, order_setting.none_iff isGiven,
        Line.occurs_iff isRead direction_is_option, Line.occurs_iff isRead order_is_option]
  · intro subcommand args given request isRead
    obtain ⟨isDue, noConflict, -⟩ := of_read_subcommand isRead
    obtain ⟨parts, takes, rfl⟩ := Layout.parts_of_read Reading.start_at isDue
    rw [Layout.read_parts takes Reading.start_at] at isDue
    exact one_option_of_parts (of_map_error_ok isDue) noConflict

def bothArguments : List String :=
  ["render", "--order=lex", "-r", "EXPL", "INCL", "--direction", "up", "--", "a"]

def orderedArguments : List String := ["pair", "INCL", "a", "--order", " BREADTH ", "--", "--direction"]

def orderedRequest : PairRequest :=
  { operation := .inclusion
    options := some (.order .breadthFirst)
    left := "a"
    right := "--direction" }

def orderedInvocation : Invocation :=
  { config := none
    format := .lines
    withProgram := false
    request := .pair orderedRequest }

/-- Two options are refused however they are written, and an operand is no option. -/
theorem both_options_beside_one :
    (run emptySurroundings bothArguments).status = 2 ∧
    (run emptySurroundings bothArguments).out = "" ∧
    parse orderedArguments = .ok orderedInvocation ∧
    (∃ text, OccursWith .order text orderedArguments ∧ Order.ofText text = .ok .breadthFirst) ∧
    ∀ direction, ¬∃ text, OccursWith .direction text orderedArguments ∧
      Direction.ofText text = .ok direction := by
  obtain ⟨rejects, tells, -⟩ := option_flags_are_never_dropped
  have direction : Occurs .direction bothArguments :=
    ⟨["render", "--order=lex", "-r", "EXPL", "INCL"], _, rfl, by decide, .alone _⟩
  have order : Occurs .order bothArguments :=
    ⟨["render"], _, rfl, by decide, .attached "lex" _⟩
  have noHelp : ¬AsksHelp bothArguments := no_help_of_words (by decide)
  obtain ⟨status, out⟩ := rejects emptySurroundings bothArguments direction order noHelp
  have accepted : parse orderedArguments = .ok orderedInvocation := rfl
  obtain ⟨ofDirection, ofOrder, -⟩ := tells _ _ _ accepted (.pair orderedRequest)
  refine ⟨status, out, accepted, (ofOrder .breadthFirst).mp rfl, ?_⟩
  intro direction
  rw [← ofDirection direction]
  nofun

end AutomataRequest
