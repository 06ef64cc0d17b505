import AutomataRequest.Proofs.CommandLine.GivenValues

/-!
# Where flags stand

Whether a flag is given, and with which text, can be told from the arguments of an accepted line
alone. Before the two hyphens an argument that looks like a flag is one, so it begins a part, and
no part that is something else begins so.
-/

namespace AutomataRequest.CommandLine

/-- The arguments begin so somewhere before the two hyphens. -/
def BeforeEscape (begins : List String → Prop) (args : List String) : Prop :=
  ∃ skipped rest, args = skipped ++ rest ∧ "--" ∉ skipped ∧ begins rest

inductive BeginsWithFlag (flag : Flag) : List String → Prop
  | alone (rest : List String) : BeginsWithFlag flag (flag.word :: rest)
  | attached (text : String) (rest : List String) :
      BeginsWithFlag flag ((flag.word ++ "=" ++ text) :: rest)

inductive BeginsWithText (flag : Flag) (text : String) : List String → Prop
  | separate (rest : List String) : BeginsWithText flag text (flag.word :: text :: rest)
  | attached (rest : List String) : BeginsWithText flag text ((flag.word ++ "=" ++ text) :: rest)

/-- The flag occurs as an option. -/
def Occurs (flag : Flag) : List String → Prop := BeforeEscape (BeginsWithFlag flag)

/-- The flag is given with a text. -/
def OccursWith (flag : Flag) (text : String) : List String → Prop :=
  BeforeEscape (BeginsWithText flag text)

/-- Only the long flag is a beginning of this kind. -/
def IsForFlag (flag : Flag) (begins : List String → Prop) : Prop :=
  ∀ args, begins args → ∃ word rest, args = word :: rest ∧ Shape.IsLong flag word

theorem flag_is_for_flag (flag : Flag) : IsForFlag flag (BeginsWithFlag flag) := by
  intro args begins
  cases begins with
  | alone rest => exact ⟨_, rest, rfl, Flag.long_word_iff.mpr rfl⟩
  | attached text rest => exact ⟨_, rest, rfl, Flag.long_attached_iff.mpr rfl⟩

theorem text_is_for_flag (flag : Flag) (text : String) :
    IsForFlag flag (BeginsWithText flag text) := by
  intro args begins
  cases begins with
  | separate rest => exact ⟨_, _, rfl, Flag.long_word_iff.mpr rfl⟩
  | attached rest => exact ⟨_, rest, rfl, Flag.long_attached_iff.mpr rfl⟩

section

variable {begins : List String → Prop} {flag : Flag} {word : String} {words rest : List String}

theorem before_escape_cons_iff :
    BeforeEscape begins (word :: rest) ↔
      begins (word :: rest) ∨ word ≠ "--" ∧ BeforeEscape begins rest := by
  constructor
  · rintro ⟨skipped, later, split, notEscaped, isLater⟩
    cases skipped with
    | nil =>
        rw [split]
        exact .inl isLater
    | cons first skipped =>
        obtain ⟨rfl, rfl⟩ := List.cons.inj split
        rw [List.mem_cons, not_or] at notEscaped
        exact .inr ⟨Ne.symm notEscaped.1, skipped, later, rfl, notEscaped.2, isLater⟩
  · rintro (here | ⟨notEscape, skipped, later, rfl, notEscaped, isLater⟩)
    · exact ⟨[], _, rfl, List.not_mem_nil, here⟩
    · refine ⟨word :: skipped, later, rfl, ?_, isLater⟩
      rw [List.mem_cons, not_or]
      exact ⟨Ne.symm notEscape, notEscaped⟩

theorem before_escape_append (notEscaped : "--" ∉ words) (later : BeforeEscape begins rest) :
    BeforeEscape begins (words ++ rest) := by
  obtain ⟨skipped, rest, rfl, notSkipped, isRest⟩ := later
  refine ⟨words ++ skipped, rest, (List.append_assoc _ _ _).symm, ?_, isRest⟩
  rw [List.mem_append, not_or]
  exact ⟨notEscaped, notSkipped⟩

namespace IsForFlag

variable (isFor : IsForFlag flag begins)

include isFor

theorem not_nil : ¬BeforeEscape begins [] := by
  rintro ⟨skipped, rest, split, -, isRest⟩
  obtain ⟨word, later, rfl, _⟩ := isFor rest isRest
  exact List.append_ne_nil_of_right_ne_nil skipped (List.cons_ne_nil _ _) split.symm

theorem first_long (here : begins (word :: rest)) : Shape.IsLong flag word := by
  obtain ⟨first, later, same, isLong⟩ := isFor _ here
  obtain ⟨rfl, -⟩ := List.cons.inj same
  exact isLong

theorem skip (notLong : ∀ word ∈ words, ¬Shape.IsLong flag word)
    (found : BeforeEscape begins (words ++ rest)) : BeforeEscape begins rest := by
  induction words with
  | nil => exact found
  | cons word words ih =>
      obtain ⟨first, others⟩ := List.forall_mem_cons.mp notLong
      rcases before_escape_cons_iff.mp found with here | ⟨_, later⟩
      · exact absurd (isFor.first_long here) first
      · exact ih others later

end IsForFlag

end

/-! Parts and arguments. -/

theorem plain_not_long {flag : Flag} {values : List String}
    (plain : ∀ value ∈ values, Shape.ofText value = .plain) :
    ∀ value ∈ values, ¬Shape.IsLong flag value :=
  fun value member isLong => isLong.not_plain (plain value member)

theorem plain_not_escape {values : List String}
    (plain : ∀ value ∈ values, Shape.ofText value = .plain) : "--" ∉ values := by
  intro member
  exact absurd (plain _ member) (by decide)

namespace Layout

variable {layout : Layout} {point : Point} {parts : List Part} {begins : List String → Prop}
  {flag : Flag} {word text : String} {form : Form}

/-- What stands before the two hyphens and begins with a flag is a part. -/
theorem part_of_found (isFor : IsForFlag flag begins) (takes : layout.Takes point parts)
    (flagsRead : point.plainOnly = false)
    (found : BeforeEscape begins (parts.flatMap Part.arguments)) :
    ∃ word form text after, Part.flag flag word form text ∈ parts ∧ form.Fits flag word text ∧
      begins (form.write word text ++ after) := by
  induction takes with
  | nil point => exact absurd found isFor.not_nil
  | @cons point next part parts step rest ih =>
      rw [List.flatMap_cons] at found
      have later (flagsRead : next.plainOnly = false)
          (found : BeforeEscape begins (parts.flatMap Part.arguments)) :
          ∃ word form text after, Part.flag flag word form text ∈ part :: parts ∧
            form.Fits flag word text ∧ begins (form.write word text ++ after) := by
        obtain ⟨word, form, text, after, member, isPart⟩ := ih flagsRead found
        exact ⟨word, form, text, after, List.mem_cons_of_mem _ member, isPart⟩
      cases step with
      | @flag filled other word text form member fits =>
          obtain ⟨first, more, isWritten, opens, plain⟩ := fits.write_eq
          rw [Part.arguments, isWritten, List.cons_append] at found
          rcases before_escape_cons_iff.mp found with here | ⟨_, behind⟩
          · have isFlag : other = flag := opens.ofLong flag (isFor.first_long here)
            subst isFlag
            rw [← List.cons_append, ← isWritten] at here
            exact ⟨word, form, text, _, List.mem_cons_self, fits, here⟩
          · exact later rfl (isFor.skip (plain_not_long plain) behind)
      | @plain point place text isNext isPlain =>
          have shape : Shape.ofText text = .plain := by
            rw [flagsRead] at isPlain
            exact isPlain.resolve_left Bool.false_ne_true
          exact later flagsRead
            (isFor.skip (plain_not_long (List.forall_mem_singleton.mpr shape)) found)
      | escape =>
          rcases before_escape_cons_iff.mp found with here | ⟨notEscape, _⟩
          · exact absurd rfl (isFor.first_long here).not_escape
          · exact absurd rfl notEscape

theorem no_flag_behind_escape (takes : layout.Takes point parts)
    (plainOnly : point.plainOnly = true) : Part.flag flag word form text ∉ parts := by
  induction takes with
  | nil point => exact List.not_mem_nil
  | cons step rest ih =>
      rw [List.mem_cons, not_or]
      cases step with
      | flag member fits => cases plainOnly
      | plain isNext isPlain => exact ⟨nofun, ih plainOnly⟩
      | escape => cases plainOnly

/-- A flag that is a part is found before the two hyphens. -/
theorem found_of_part (takes : layout.Takes point parts) (flagsRead : point.plainOnly = false)
    (member : Part.flag flag word form text ∈ parts)
    (here : form.Fits flag word text → ∀ after, begins (form.write word text ++ after)) :
    BeforeEscape begins (parts.flatMap Part.arguments) := by
  induction takes with
  | nil point => cases member
  | @cons point next part parts step rest ih =>
      rw [List.flatMap_cons]
      rcases List.mem_cons.mp member with rfl | behind
      · cases step with
        | flag member fits => exact ⟨[], _, rfl, List.not_mem_nil, here fits _⟩
      · cases step with
        | @flag filled other word text form member fits =>
            obtain ⟨first, more, isWritten, opens, plain⟩ := fits.write_eq
            refine before_escape_append ?_ (ih rfl behind)
            rw [Part.arguments, isWritten, List.mem_cons, not_or]
            exact ⟨Ne.symm opens.notEscape, plain_not_escape plain⟩
        | @plain point place text isNext isPlain =>
            have shape : Shape.ofText text = .plain := by
              rw [flagsRead] at isPlain
              exact isPlain.resolve_left Bool.false_ne_true
            refine before_escape_append ?_ (ih flagsRead behind)
            exact plain_not_escape (List.forall_mem_singleton.mpr shape)
        | escape => exact absurd behind (no_flag_behind_escape rest rfl)

end Layout

theorem global_arguments_words {args : List String} (globals : GlobalArguments args) :
    ∀ word ∈ args, word ≠ "--" ∧ ∀ flag, Shape.IsLong flag word → flag.isGlobal := by
  have ofFlag {flag : Flag} (isGlobal : flag.isGlobal) {word : String} (opens : flag.Opens word) :
      word ≠ "--" ∧ ∀ other, Shape.IsLong other word → other.isGlobal := by
    refine ⟨opens.notEscape, ?_⟩
    intro other isLong
    rw [← opens.ofLong other isLong]
    exact isGlobal
  induction globals with
  | nil => exact List.forall_mem_nil _
  | cons head rest ih =>
      refine List.forall_mem_append.mpr ⟨?_, ih⟩
      cases head with
      | program =>
          exact List.forall_mem_singleton.mpr (ofFlag rfl (Flag.word_opens (.inl rfl)))
      | attached flag value isGlobal isValued =>
          exact List.forall_mem_singleton.mpr (ofFlag isGlobal (Flag.attached_opens (.inl rfl)))
      | separate flag value isGlobal isValued isPlain =>
          have plain := List.forall_mem_singleton.mpr isPlain
          refine List.forall_mem_cons.mpr ⟨ofFlag isGlobal (Flag.word_opens (.inl rfl)), ?_⟩
          refine List.forall_mem_singleton.mpr ⟨?_, ?_⟩
          · rintro rfl
            cases isPlain
          · intro other isLong
            exact absurd isPlain isLong.not_plain

/-- A flag that only subcommands have, without a short form. -/
structure Flag.IsOption (flag : Flag) : Prop where
  notGlobal : flag.isGlobal = false
  longOnly : flag.short? = none

theorem direction_is_option : Flag.direction.IsOption := ⟨rfl, rfl⟩

theorem order_is_option : Flag.order.IsOption := ⟨rfl, rfl⟩

theorem Form.Fits.of_option {flag : Flag} {word text : String} {form : Form}
    (isOption : flag.IsOption) (fits : form.Fits flag word text) :
    word = flag.word ∧ (form = .separate ∨ form = .attached) := by
  have notShort : ¬flag.IsShortWord word := by
    rintro ⟨letter, isLetter, -⟩
    rw [isOption.longOnly] at isLetter
    cases isLetter
  cases fits with
  | bare isProgram isWord =>
      have notGlobal := isOption.notGlobal
      rw [isProgram] at notGlobal
      cases notGlobal
  | separate isValued isWord isPlain => exact ⟨isWord.resolve_right notShort, .inl rfl⟩
  | attached isValued isWord => exact ⟨isWord.resolve_right notShort, .inr rfl⟩
  | joined isValued isShort notEmpty noSign => exact absurd isShort notShort

theorem begins_with_text_iff {flag : Flag} {text word : String} {rest : List String} :
    BeginsWithText flag text (word :: rest) ↔
      (word = flag.word ∧ ∃ after, rest = text :: after) ∨ word = flag.word ++ "=" ++ text := by
  constructor
  · generalize isCons : word :: rest = args
    rintro (after | after)
    · obtain ⟨rfl, rfl⟩ := List.cons.inj isCons
      exact .inl ⟨rfl, after, rfl⟩
    · exact .inr (List.cons.inj isCons).1
  · rintro (⟨rfl, after, rfl⟩ | rfl)
    · exact .separate after
    · exact .attached rest

theorem attached_ne_word (flag : Flag) (text : String) : flag.word ++ "=" ++ text ≠ flag.word := by
  intro same
  have shape := flag.shape_of_attached text
  rw [same, flag.shape_of_word] at shape
  cases shape

theorem attached_injective {flag : Flag} {text text' : String}
    (same : flag.word ++ "=" ++ text = flag.word ++ "=" ++ text') : text = text' := by
  have shape := flag.shape_of_attached text
  rw [same, flag.shape_of_attached text'] at shape
  exact String.toList_injective (Option.some.inj (Shape.long.inj shape).2).symm

/-- An option that is written out begins with its own text and no other. -/
theorem begins_with_written_iff {flag : Flag} {word text text' : String} {form : Form}
    (isOption : flag.IsOption) (fits : form.Fits flag word text) (after : List String) :
    BeginsWithText flag text' (form.write word text ++ after) ↔ text' = text := by
  obtain ⟨rfl, rfl | rfl⟩ := fits.of_option isOption
  · simp only [Form.write, List.cons_append, begins_with_text_iff, true_and]
    constructor
    · rintro (⟨_, sameRest⟩ | isAttached)
      · exact (List.cons.inj sameRest).1.symm
      · exact absurd isAttached.symm (attached_ne_word flag text')
    · rintro rfl
      exact .inl ⟨after, rfl⟩
  · simp only [Form.write, List.cons_append, begins_with_text_iff]
    constructor
    · rintro (⟨isWord, -⟩ | isAttached)
      · exact absurd isWord (attached_ne_word flag text)
      · exact (attached_injective isAttached).symm
    · rintro rfl
      exact .inr rfl

theorem BeginsWithText.flag {flag : Flag} {text : String} {args : List String}
    (begins : BeginsWithText flag text args) : BeginsWithFlag flag args := by
  cases begins with
  | separate rest => exact .alone _
  | attached rest => exact .attached text rest

namespace Line

variable {line : Line} {flag : Flag} {text : String}

/-- An option stands behind the subcommand if it stands anywhere. -/
theorem before_escape_iff {begins : List String → Prop} (isRead : line.IsRead)
    (isOption : flag.IsOption) (isFor : IsForFlag flag begins) :
    BeforeEscape begins line.arguments ↔ BeforeEscape begins line.inside := by
  have words : ∀ word ∈ line.before ++ [line.subcommand.name],
      word ≠ "--" ∧ ¬Shape.IsLong flag word := by
    refine List.forall_mem_append.mpr ⟨?_, List.forall_mem_singleton.mpr ?_⟩
    · intro word member
      obtain ⟨notEscape, ofLong⟩ := global_arguments_words isRead.globals word member
      refine ⟨notEscape, ?_⟩
      intro isLong
      have isGlobal := ofLong flag isLong
      rw [isOption.notGlobal] at isGlobal
      cases isGlobal
    · have isPlain : Shape.ofText line.subcommand.name = .plain := by
        cases line.subcommand <;> rfl
      refine ⟨?_, fun isLong => isLong.not_plain isPlain⟩
      intro isEscape
      rw [isEscape] at isPlain
      cases isPlain
  have split : line.arguments = (line.before ++ [line.subcommand.name]) ++ line.inside := by
    rw [arguments, List.append_assoc]
    rfl
  rw [split]
  constructor
  · exact isFor.skip fun word member => (words word member).2
  · exact before_escape_append fun member => (words _ member).1 rfl

theorem occurs_with_iff (isRead : line.IsRead) (isOption : flag.IsOption) :
    OccursWith flag text line.arguments ↔ Gives line.parts flag text := by
  rw [OccursWith, before_escape_iff isRead isOption (text_is_for_flag flag text)]
  constructor
  · intro found
    obtain ⟨word, form, text', after, member, fits, begins⟩ :=
      Layout.part_of_found (text_is_for_flag flag text) isRead.takes rfl found
    rw [begins_with_written_iff isOption fits] at begins
    rw [begins]
    exact ⟨word, form, member⟩
  · rintro ⟨word, form, member⟩
    apply Layout.found_of_part isRead.takes rfl member
    intro fits after
    exact (begins_with_written_iff isOption fits after).mpr rfl

theorem occurs_iff (isRead : line.IsRead) (isOption : flag.IsOption) :
    Occurs flag line.arguments ↔ ∃ text, Gives line.parts flag text := by
  rw [Occurs, before_escape_iff isRead isOption (flag_is_for_flag flag)]
  constructor
  · intro found
    obtain ⟨word, form, text, after, member, -, -⟩ :=
      Layout.part_of_found (flag_is_for_flag flag) isRead.takes rfl found
    exact ⟨text, word, form, member⟩
  · rintro ⟨text, word, form, member⟩
    apply Layout.found_of_part isRead.takes rfl member
    intro fits after
    exact ((begins_with_written_iff isOption fits after).mpr rfl).flag

end Line

end AutomataRequest.CommandLine
