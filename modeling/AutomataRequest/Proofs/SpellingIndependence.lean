import AutomataRequest.Proofs.CommandLine.GivenValues
import AutomataRequest.Proofs.LookupLanguage
import AutomataRequest.Proofs.PairLine
import AutomataRequest.Proofs.RunStages

/-!
# Spellings leave no trace

An encoding, an operation, a direction and an order may each be given in many spellings, but all
that is kept of a spelling is the variant that it names. So a part of a command line may be spelled
in another way, and written in another form, without any effect on the run. That goes for the
tables of directions as well: which of them the user took the token from cannot be seen.
-/

namespace AutomataRequest

namespace Lookup

open Text (IsCore SameLetter)

/-- A text that begins with a character that is not blank begins as what it spells. -/
theorem first_of_spells {text spelling : String} {char : Char} (spells : Spells text spelling)
    (isFirst : text.toList.head? = some char) (shown : Text.isBlank char = false) :
    ∃ letter, spelling.toList.head? = some letter ∧ SameLetter char letter := by
  obtain ⟨core, isCore, same⟩ := spells
  obtain ⟨before, after, blankBefore, blankAfter, split⟩ := isCore.surrounded
  have notBlank {chars : List Char} (blank : chars.all Text.isBlank) (member : char ∈ chars) :
      False := by
    rw [List.all_eq_true.mp blank char member] at shown
    cases shown
  rw [split] at isFirst
  cases before with
  | cons first before =>
      cases isFirst
      exact (notBlank blankBefore List.mem_cons_self).elim
  | nil =>
      generalize spelling.toList = letters at same ⊢
      cases same with
      | nil => exact (notBlank blankAfter (List.mem_of_mem_head? isFirst)).elim
      | cons sameFirst others =>
          cases isFirst
          exact ⟨_, rfl, sameFirst⟩

/-- What is spelled so looks like no flag and like no value behind an equals sign. -/
structure IsOrdinary (text : String) : Prop where
  notEmpty : text ≠ ""
  noHyphen : text.toList.head? ≠ some '-'
  noSign : text.toList.head? ≠ some '='

instance (text : String) : Decidable (IsOrdinary text) :=
  decidable_of_iff (text ≠ "" ∧ text.toList.head? ≠ some '-' ∧ text.toList.head? ≠ some '=')
    ⟨fun ⟨notEmpty, noHyphen, noSign⟩ => ⟨notEmpty, noHyphen, noSign⟩,
      fun ordinary => ⟨ordinary.notEmpty, ordinary.noHyphen, ordinary.noSign⟩⟩

/-- A character that is no letter is the same in every case. -/
theorem same_letter_of_mark {mark letter : Char} (noCapital : mark ∉ Text.capitals)
    (noSmall : mark ∉ Text.smalls) (same : SameLetter mark letter) : letter = mark := by
  rcases same with same | isPair | isPair
  · exact same.symm
  · exact absurd (List.of_mem_zip isPair).1 noCapital
  · exact absurd (List.of_mem_zip isPair).2 noSmall

theorem ordinary_of_spells {text spelling : String} (ordinary : IsOrdinary spelling)
    (spells : Spells text spelling) : IsOrdinary text := by
  have beginsAlike {mark : Char} (shown : Text.isBlank mark = false)
      (noCapital : mark ∉ Text.capitals) (noSmall : mark ∉ Text.smalls)
      (isFirst : text.toList.head? = some mark) : spelling.toList.head? = some mark := by
    obtain ⟨letter, isLetter, same⟩ := first_of_spells spells isFirst shown
    rw [isLetter, same_letter_of_mark noCapital noSmall same]
  refine ⟨?_, ?_, ?_⟩
  · rintro rfl
    rw [spells_iff_fold_case] at spells
    have noLetters : spelling.toList = [] := List.map_eq_nil_iff.mp spells
    exact ordinary.notEmpty (String.toList_eq_nil_iff.mp noLetters)
  · intro isFirst
    exact ordinary.noHyphen (beginsAlike rfl (by decide) (by decide) isFirst)
  · intro isFirst
    exact ordinary.noSign (beginsAlike rfl (by decide) (by decide) isFirst)

theorem names_of_read {Variant : Type} {all : List Variant} {spellings : Variant → List String}
    {text : String} {unknown : Fault} {variant : Variant}
    (isRead : (find? all spellings text).elim (.error unknown) Except.ok = .ok variant) :
    Names spellings text variant := by
  cases found : find? all spellings text with
  | none =>
      rw [found] at isRead
      cases isRead
  | some other =>
      rw [found] at isRead
      cases isRead
      have spelled := List.find?_some found
      exact (any_spells_iff text variant).mp spelled

theorem ordinary_of_names {Variant : Type} {spellings : Variant → List String} {text : String}
    {variant : Variant} (ordinary : ∀ spelling ∈ spellings variant, IsOrdinary spelling)
    (names : Names spellings text variant) : IsOrdinary text := by
  obtain ⟨spelling, member, spells⟩ := names
  exact ordinary_of_spells (ordinary spelling member) spells

end Lookup

open Lookup (IsOrdinary)

theorem Encoding.ordinary_of_read {text : String} {encoding : Encoding}
    (isRead : ofText text = .ok encoding) : IsOrdinary text := by
  rw [of_text_eq] at isRead
  refine Lookup.ordinary_of_names ?_ (Lookup.names_of_read isRead)
  cases encoding <;> decide

theorem Operation.ordinary_of_read {text : String} {operation : Operation}
    (isRead : ofText text = .ok operation) : IsOrdinary text := by
  rw [of_text_eq] at isRead
  refine Lookup.ordinary_of_names ?_ (Lookup.names_of_read isRead)
  cases operation <;> decide

theorem Direction.ordinary_of_read {text : String} {direction : Direction}
    (isRead : ofText text = .ok direction) : IsOrdinary text := by
  rw [of_text_eq] at isRead
  refine Lookup.ordinary_of_names ?_ (Lookup.names_of_read isRead)
  cases direction <;> decide

theorem Order.ordinary_of_read {text : String} {order : Order}
    (isRead : ofText text = .ok order) : IsOrdinary text := by
  rw [of_text_eq] at isRead
  refine Lookup.ordinary_of_names ?_ (Lookup.names_of_read isRead)
  cases order <;> decide

namespace CommandLine

/-- Two texts that are read as the same variant where they are given. -/
inductive SameVariant : Slot → String → String → Prop
  | encoding {text text' : String} {encoding : Encoding} (first : Encoding.ofText text = .ok encoding)
      (second : Encoding.ofText text' = .ok encoding) :
      SameVariant (.ofFlag .encoding) text text'
  | direction {text text' : String} {direction : Direction}
      (first : Direction.ofText text = .ok direction)
      (second : Direction.ofText text' = .ok direction) :
      SameVariant (.ofFlag .direction) text text'
  | order {text text' : String} {order : Order} (first : Order.ofText text = .ok order)
      (second : Order.ofText text' = .ok order) : SameVariant (.ofFlag .order) text text'
  | operation {text text' : String} {operation : Operation}
      (first : Operation.ofText text = .ok operation)
      (second : Operation.ofText text' = .ok operation) :
      SameVariant (.ofPlace .operation) text text'

/-- A part that gives the same variant in another spelling. A flag may be written in another
form, and with its text as an argument of its own or not. -/
inductive Part.Respells : Part → Part → Prop
  | same (part : Part) : Respells part part
  | separate {flag : Flag} {word word' : String} {form : Form} {text text' : String}
      (isWord : flag.IsWord word') (same : SameVariant (.ofFlag flag) text text') :
      Respells (.flag flag word form text) (.flag flag word' .separate text')
  | attached {flag : Flag} {word word' : String} {form : Form} {text text' : String}
      (isWord : flag.IsWord word') (same : SameVariant (.ofFlag flag) text text') :
      Respells (.flag flag word form text) (.flag flag word' .attached text')
  | joined {flag : Flag} {word word' : String} {form : Form} {text text' : String}
      (isShort : flag.IsShortWord word') (same : SameVariant (.ofFlag flag) text text') :
      Respells (.flag flag word form text) (.flag flag word' .joined text')
  | plain {place : Place} {text text' : String} (same : SameVariant (.ofPlace place) text text') :
      Respells (.plain place text) (.plain place text')

namespace SameVariant

variable {slot : Slot} {flag : Flag} {place : Place} {text text' : String}

theorem ordinary (same : SameVariant slot text text') : IsOrdinary text' := by
  cases same with
  | encoding first second => exact Encoding.ordinary_of_read second
  | direction first second => exact Direction.ordinary_of_read second
  | order first second => exact Order.ordinary_of_read second
  | operation first second => exact Operation.ordinary_of_read second

theorem takes_value (same : SameVariant (.ofFlag flag) text text') : flag.takesValue := by
  cases same <;> rfl

theorem add_flag (same : SameVariant (.ofFlag flag) text text') (given : Given) :
    given.addFlag flag text' = given.addFlag flag text := by
  cases same with
  | encoding first second | direction first second | order first second =>
      simp only [Given.addFlag, Given.setFlag, first, second, Given.checked]

theorem add_place (same : SameVariant (.ofPlace place) text text') (given : Given) :
    given.addPlace place [text'] = given.addPlace place [text] := by
  cases same with
  | operation first second => simp only [Given.addPlace, first, second, Given.checked]

end SameVariant

theorem shape_of_ordinary {text : String} (ordinary : IsOrdinary text) :
    Shape.ofText text = .plain := by
  have noHyphen := ordinary.noHyphen
  unfold Shape.ofText
  split
  case h_4 => rfl
  all_goals
    rename_i isText
    rw [isText] at noHyphen
    exact absurd rfl noHyphen

namespace Part.Respells

variable {layout : Layout} {point next : Point} {part part' : Part}

/-- The step: the other spelling is read at the same point, and it leads to the same. -/
theorem takes (respells : part.Respells part') (takes : layout.TakesPart point part next) :
    layout.TakesPart point part' next := by
  cases respells with
  | same => exact takes
  | separate isWord same =>
      cases takes with
      | flag member fits =>
          exact .flag member
            (.separate same.takes_value isWord (shape_of_ordinary same.ordinary))
  | attached isWord same =>
      cases takes with
      | flag member fits => exact .flag member (.attached same.takes_value isWord)
  | joined isShort same =>
      cases takes with
      | flag member fits =>
          exact .flag member
            (.joined same.takes_value isShort same.ordinary.notEmpty same.ordinary.noSign)
  | plain same =>
      cases takes with
      | plain isNext isPlain => exact .plain isNext (.inr (shape_of_ordinary same.ordinary))

theorem add (respells : part.Respells part') (given : Given) :
    given.addPart part' = given.addPart part := by
  cases respells with
  | same => rfl
  | separate isWord same => exact same.add_flag given
  | attached isWord same => exact same.add_flag given
  | joined isShort same => exact same.add_flag given
  | plain same => exact same.add_place given

end Part.Respells

section

variable {layout : Layout} {point : Point} {parts respelled : List Part}

/-- The run: so it is for all parts of a line. -/
theorem takes_respelled (respells : List.Forall₂ Part.Respells parts respelled)
    (takes : layout.Takes point parts) : layout.Takes point respelled := by
  induction respells generalizing point with
  | nil => exact .nil point
  | cons head tail ih =>
      cases takes with
      | cons step rest => exact .cons (head.takes step) (ih rest)

theorem add_respelled (respells : List.Forall₂ Part.Respells parts respelled) (given : Given) :
    given.addParts respelled = given.addParts parts := by
  induction respells generalizing given with
  | nil => rfl
  | cons head tail ih =>
      simp only [Given.addParts, List.foldlM_cons, head.add given] at ih ⊢
      simp only [ih]

end

end CommandLine

namespace Operation

theorem direction_text (operation : Operation) (encoding : Encoding) (direction : Direction) :
    operation.optionText (some encoding) (.direction direction) =
      "dir=" ++ (if encoding = .explicitFa ∧ operation = .simulation then direction.automatonToken
        else direction.treeToken) := by
  by_cases usesTable : UsesAutomatonTable encoding operation
  · obtain ⟨rfl, rfl⟩ := usesTable
    rfl
  · have otherTable : ¬(encoding = .explicitFa ∧ operation = .simulation) := usesTable
    rw [option_text_without_encoding usesTable, if_neg otherTable]
    cases operation <;> rfl

end Operation

open CommandLine

/-- The directions of a line come out in the table of the encoding and the operation. -/
theorem command_tokens_of_direction {command : Command} {tokens : List String}
    {direction : Direction} (options : command.options = some (.direction direction))
    (answered : command.tokens = .ok tokens) :
    tokens = ["-r", command.encoding.token, command.operation.token, "-o",
      "dir=" ++ (if command.encoding = .explicitFa ∧ command.operation = .simulation then
        direction.automatonToken else direction.treeToken)] ++ command.operands := by
  obtain ⟨-, rfl⟩ := (command_tokens_ok_iff command tokens).mp answered
  rw [options, Option.map_some, Operation.direction_text]
  rfl

theorem pair_tokens_of_direction {request : PairRequest} {tokens : List String}
    {direction : Direction} (options : request.options = some (.direction direction))
    (answered : request.tokens = .ok tokens) :
    tokens = [request.operation.token, "-o", "dir=" ++ direction.treeToken, request.left,
      request.right] := by
  rw [pair_tokens_eq, accepted_ok_iff] at answered
  rw [answered.2, options, Option.map_some]
  have noTable : request.operation.optionText none (.direction direction) =
      "dir=" ++ direction.treeToken := by
    cases request.operation <;> rfl
  rw [noTable]
  rfl

/-- Every accepted line is global flags, a subcommand and parts. Whatever spellings of the same
variants its parts are given, in whatever form, the run is the same. A direction is written in the
table of the encoding and the operation, wherever its own spelling is from. -/
theorem run_sees_variants_only (surroundings : Surroundings) {args : List String}
    {invocation : Invocation} (accepted : parse args = .ok invocation) :
    (∃ line : Line, line.IsRead ∧ line.arguments = args) ∧
    ∀ line : Line, line.IsRead → line.arguments = args →
      (∀ parts, List.Forall₂ Part.Respells line.parts parts →
        ({ line with parts } : Line).IsRead ∧
          run surroundings ({ line with parts } : Line).arguments = run surroundings args) ∧
      ∀ text direction, Gives line.parts .direction text → Direction.ofText text = .ok direction →
        (∀ command tokens, invocation.request = .render command → command.tokens = .ok tokens →
          tokens = ["-r", command.encoding.token, command.operation.token, "-o",
            "dir=" ++ (if command.encoding = .explicitFa ∧ command.operation = .simulation then
              direction.automatonToken else direction.treeToken)] ++ command.operands) ∧
        ∀ request tokens, invocation.request = .pair request → request.tokens = .ok tokens →
          tokens = [request.operation.token, "-o", "dir=" ++ direction.treeToken, request.left,
            request.right] := by
  refine ⟨line_of_accepted accepted, ?_⟩
  rintro line isRead rfl
  constructor
  · intro parts respells
    have respelledRead : ({ line with parts } : Line).IsRead :=
      ⟨isRead.globals, takes_respelled respells isRead.takes⟩
    have sameParse : parse ({ line with parts } : Line).arguments = parse line.arguments :=
      Line.parse_same_given isRead respelledRead rfl rfl (add_respelled respells {})
    refine ⟨respelledRead, ?_⟩
    rw [run, run, sameParse]
  · intro text direction gives reads
    obtain ⟨given, isGiven, -, asked⟩ := line.given_of_accepted isRead accepted
    have isDirection : given.direction = some direction :=
      ((direction_setting.records isGiven).value direction).mpr ⟨text, gives, reads⟩
    have isOption : given.options = some (.direction direction) := by
      rw [Given.options, isDirection]
    constructor
    · intro command tokens isRequest answered
      rw [isRequest] at asked
      exact command_tokens_of_direction
        ((Given.options_of_request asked (.render command)).trans isOption) answered
    · intro request tokens isRequest answered
      rw [isRequest] at asked
      exact pair_tokens_of_direction
        ((Given.options_of_request asked (.pair request)).trans isOption) answered

def plainLine : Line :=
  { before := ["--format", "shell"]
    subcommand := .render
    parts :=
      [.flag .direction "--direction" .separate "up", .flag .encoding "-r" .separate "EFA",
        .plain .operation "SIM", .escape, .plain .operands "up"] }

/-- Names for tokens, other letters, blanks, and other forms of the flags. -/
def respelledParts : List Part :=
  [.flag .direction "--direction" .attached " Forward\t", .flag .encoding "-r" .joined "explicit_FA",
    .plain .operation "\nsimulation", .escape, .plain .operands "up"]

def plainInvocation : Invocation :=
  { config := none
    format := .shell
    withProgram := false
    request := .render
      { encoding := .explicitFa
        operation := .simulation
        options := some (.direction .forward)
        operands := ["up"] } }

theorem plain_line_is_read : plainLine.IsRead where
  globals := .cons (.separate .format "shell" rfl rfl rfl) .nil
  takes :=
    .cons (.flag (by decide) (.separate rfl (.inl rfl) rfl))
      (.cons (.flag (by decide) (.separate rfl (.inr ⟨'r', rfl, rfl⟩) rfl))
        (.cons (.plain rfl (.inr rfl)) (.cons .escape (.cons (.plain rfl (.inl rfl)) (.nil _)))))

theorem respelled_parts_respell : List.Forall₂ Part.Respells plainLine.parts respelledParts :=
  .cons (.attached (.inl rfl) (.direction rfl rfl))
    (.cons (.joined ⟨'r', rfl, rfl⟩ (.encoding rfl rfl))
      (.cons (.plain (.operation rfl rfl)) (.cons (.same _) (.cons (.same _) .nil))))

/-- The direction is given by a token of the one table and printed by that of the other; only the
operand stays as it was spelled. -/
theorem respelled_line_runs_alike :
    parse plainLine.arguments = .ok plainInvocation ∧
    run emptySurroundings
        ["--format", "shell", "render", "--direction= Forward\t", "-rexplicit_FA", "\nsimulation",
          "--", "up"] =
      run emptySurroundings
        ["--format", "shell", "render", "--direction", "up", "-r", "EFA", "SIM", "--", "up"] ∧
    ∀ tokens, Command.tokens
        { encoding := .explicitFa
          operation := .simulation
          options := some (.direction .forward)
          operands := ["up"] } = .ok tokens →
      tokens = ["-r", "EFA", "SIM", "-o", "dir=FWD", "up"] := by
  have accepted : parse plainLine.arguments = .ok plainInvocation := rfl
  obtain ⟨respells, inTable⟩ :=
    (run_sees_variants_only emptySurroundings accepted).2 plainLine plain_line_is_read rfl
  refine ⟨accepted, (respells respelledParts respelled_parts_respell).2, ?_⟩
  intro tokens answered
  exact (inTable "up" .forward ⟨_, _, List.mem_cons_self⟩ rfl).1 _ tokens rfl answered

end AutomataRequest
