import AutomataRequest.Proofs.CommandLine.GlobalFlags

/-!
# One argument of a command line

An argument tells by its shape whether it ends the flags, is a flag, perhaps with its text, or is
plain. What it can be to a level, and what the level makes of it, is said here once; what holds of
whole lines follows from these cases, without a look at how the level tells them apart.
-/

namespace AutomataRequest.CommandLine

theorem split_value_joined (chars : List Char) :
    (splitValue chars).1 ++ (splitValue chars).2.elim [] (List.cons '=') = chars := by
  have joined := List.takeWhile_append_dropWhile (p := (· ≠ '=')) (l := chars)
  unfold splitValue
  split
  · exact List.append_nil chars
  · rename_i first value left
    have isMark : first = '=' := by
      have stops := List.head?_dropWhile_not (· ≠ '=') chars
      rw [left] at stops
      simpa using stops
    rw [left, isMark] at joined
    exact joined

namespace Shape

theorem escape_iff (text : String) : ofText text = .escape ↔ text = "--" := by
  constructor
  · unfold ofText
    split
    · rename_i isEscape
      intro _
      exact String.toList_injective isEscape
    all_goals
      intro same
      cases same
  · rintro rfl
    rfl

theorem chars_of_long {text : String} {name : List Char} {value : Option (List Char)}
    (isLong : ofText text = .long name value) :
    text.toList = '-' :: '-' :: (name ++ value.elim [] (List.cons '=')) := by
  unfold ofText at isLong
  split at isLong
  case h_2 chars isText =>
    obtain ⟨rfl, rfl⟩ := long.inj isLong
    rw [isText, split_value_joined]
  all_goals cases isLong

theorem word_of_long {text : String} {flag : Flag}
    (isLong : ofText text = .long flag.long.toList none) : text = flag.word := by
  apply String.toList_injective
  rw [chars_of_long isLong, Flag.word, String.toList_append]
  simp

theorem attached_of_long {text : String} {flag : Flag} {value : List Char}
    (isLong : ofText text = .long flag.long.toList (some value)) :
    text = flag.word ++ "=" ++ String.ofList value := by
  apply String.toList_injective
  rw [chars_of_long isLong, Flag.word]
  simp

theorem text_of_short {text : String} {letter : Char} {rest : List Char}
    (isShort : ofText text = .short letter rest) :
    text = String.ofList ['-', letter] ++ String.ofList rest := by
  apply String.toList_injective
  unfold ofText at isShort
  split at isShort
  case h_3 isText =>
    obtain ⟨rfl, rfl⟩ := short.inj isShort
    rw [isText]
    simp
  all_goals cases isShort

/-- The argument is the long flag, with a value or without. -/
def IsLong (flag : Flag) (text : String) : Prop :=
  ∃ value, ofText text = .long flag.long.toList value

theorem IsLong.not_plain {flag : Flag} {text : String} (isLong : IsLong flag text) :
    ofText text ≠ .plain := by
  obtain ⟨value, shape⟩ := isLong
  rw [shape]
  nofun

theorem IsLong.not_escape {flag : Flag} {text : String} (isLong : IsLong flag text) :
    text ≠ "--" := by
  obtain ⟨value, shape⟩ := isLong
  rintro rfl
  cases shape

end Shape

namespace Flag

variable {flag other : Flag} {word text : String}

theorem of_not_valued (isBare : ¬flag.takesValue) : flag = .help ∨ flag = .withProgram := by
  cases flag with
  | help => exact .inl rfl
  | withProgram => exact .inr rfl
  | config | format | encoding | direction | order => exact absurd rfl isBare

/-- The word is a short form of the flag. -/
def IsShortWord (flag : Flag) (word : String) : Prop :=
  ∃ letter, flag.short? = some letter ∧ word = String.ofList ['-', letter]

def IsWord (flag : Flag) (word : String) : Prop := word = flag.word ∨ flag.IsShortWord word

theorem shape_of_short (isShort : flag.IsShortWord word) (rest : String) :
    ∃ letter, flag.short? = some letter ∧ Shape.ofText (word ++ rest) = .short letter rest.toList := by
  obtain ⟨letter, isLetter, rfl⟩ := isShort
  refine ⟨letter, isLetter, ?_⟩
  cases flag with
  | help | encoding =>
      cases isLetter
      simp [Shape.ofText]
  | config | format | withProgram | direction | order => cases isLetter

theorem eq_of_short {letter : Char} (isFlag : flag.short? = some letter)
    (isOther : other.short? = some letter) : flag = other := by
  have same : flag.short? = other.short? := isFlag.trans isOther.symm
  cases flag with
  | help =>
      cases other with
      | help => rfl
      | encoding => exact absurd same (by decide)
      | config | format | withProgram | direction | order => cases isOther
  | encoding =>
      cases other with
      | encoding => rfl
      | help => exact absurd same (by decide)
      | config | format | withProgram | direction | order => cases isOther
  | config | format | withProgram | direction | order => cases isFlag

theorem eq_of_long (same : flag.long.toList = other.long.toList) : flag = other := by
  have isFlag : Layout.longFlag? ⟨[flag, other], [], false⟩ flag.long.toList = some flag :=
    Layout.long_flag_of_mem (by simp)
  have isOther : Layout.longFlag? ⟨[flag, other], [], false⟩ other.long.toList = some other :=
    Layout.long_flag_of_mem (by simp)
  rw [same, isOther] at isFlag
  exact (Option.some.inj isFlag).symm

theorem long_word_iff : Shape.IsLong flag other.word ↔ other = flag := by
  constructor
  · rintro ⟨value, shape⟩
    rw [other.shape_of_word] at shape
    exact eq_of_long (Shape.long.inj shape).1
  · rintro rfl
    exact ⟨none, other.shape_of_word⟩

theorem long_attached_iff : Shape.IsLong flag (other.word ++ "=" ++ text) ↔ other = flag := by
  constructor
  · rintro ⟨value, shape⟩
    rw [other.shape_of_attached] at shape
    exact eq_of_long (Shape.long.inj shape).1
  · rintro rfl
    exact ⟨_, other.shape_of_attached text⟩

/-- The argument does not end the flags, and it is no long flag but this one. -/
structure Opens (flag : Flag) (text : String) : Prop where
  notEscape : text ≠ "--"
  ofLong : ∀ other, Shape.IsLong other text → flag = other

theorem opens_of_long (isLong : Shape.IsLong flag text) : flag.Opens text where
  notEscape := isLong.not_escape
  ofLong := by
    rintro other ⟨value', shape'⟩
    obtain ⟨value, shape⟩ := isLong
    rw [shape] at shape'
    exact eq_of_long (Shape.long.inj shape').1

theorem short_opens (isShort : flag.IsShortWord word) (rest : String) :
    flag.Opens (word ++ rest) := by
  obtain ⟨letter, _, shape⟩ := shape_of_short isShort rest
  constructor
  · intro isEscape
    rw [isEscape] at shape
    cases shape
  · rintro other ⟨value, isLong⟩
    rw [shape] at isLong
    cases isLong

theorem word_opens (isWord : flag.IsWord word) : flag.Opens word := by
  rcases isWord with rfl | isShort
  · exact opens_of_long (long_word_iff.mpr rfl)
  · have opens := short_opens isShort ""
    rwa [String.append_empty] at opens

theorem attached_opens (isWord : flag.IsWord word) : flag.Opens (word ++ "=" ++ text) := by
  rcases isWord with rfl | isShort
  · exact opens_of_long (long_attached_iff.mpr rfl)
  · rw [String.append_assoc]
    exact short_opens isShort _

end Flag

/-- How a flag is written with its text. -/
inductive Form where
  | bare
  | separate
  | attached
  | joined
  deriving DecidableEq, Repr

namespace Form

def write (word text : String) : Form → List String
  | .bare => [word]
  | .separate => [word, text]
  | .attached => [word ++ "=" ++ text]
  | .joined => [word ++ text]

/-- The form leads back to the flag and the text. -/
inductive Fits (flag : Flag) (word : String) : Form → String → Prop
  | bare (isProgram : flag = .withProgram) (isWord : word = flag.word) : Fits flag word .bare ""
  | separate {text : String} (isValued : flag.takesValue) (isWord : flag.IsWord word)
      (isPlain : Shape.ofText text = .plain) : Fits flag word .separate text
  | attached {text : String} (isValued : flag.takesValue) (isWord : flag.IsWord word) :
      Fits flag word .attached text
  | joined {text : String} (isValued : flag.takesValue) (isShort : flag.IsShortWord word)
      (notEmpty : text ≠ "") (noSign : text.toList.head? ≠ some '=') : Fits flag word .joined text

end Form

/-- A flag opens with an argument of its own, and a value may follow. -/
theorem Form.Fits.write_eq {flag : Flag} {word text : String} {form : Form}
    (fits : form.Fits flag word text) :
    ∃ first more, form.write word text = first :: more ∧ flag.Opens first ∧
      ∀ value ∈ more, Shape.ofText value = .plain := by
  cases fits with
  | bare isProgram isWord =>
      exact ⟨word, [], rfl, Flag.word_opens (.inl isWord), List.forall_mem_nil _⟩
  | separate isValued isWord isPlain =>
      exact ⟨word, [text], rfl, Flag.word_opens isWord, List.forall_mem_singleton.mpr isPlain⟩
  | attached isValued isWord =>
      exact ⟨_, [], rfl, Flag.attached_opens isWord, List.forall_mem_nil _⟩
  | joined isValued isShort notEmpty noSign =>
      exact ⟨_, [], rfl, Flag.short_opens isShort text, List.forall_mem_nil _⟩

theorem Form.Fits.opens {flag : Flag} {word text argument : String} {form : Form}
    (fits : form.Fits flag word text) (isWritten : form.write word text = [argument]) :
    flag.Opens argument := by
  obtain ⟨first, more, isFirst, opens, -⟩ := fits.write_eq
  rw [isWritten] at isFirst
  obtain ⟨rfl, -⟩ := List.cons.inj isFirst
  exact opens

/-- What one argument can be to a level, and what the level makes of it. -/
inductive Layout.Step (layout : Layout) (reading : Reading) :
    String → Except Rejection Reading → Prop
  | plain {text : String}
      (isPlain : reading.plainOnly = true ∨ Shape.ofText text = .plain ∧ reading.awaiting = none) :
      Step layout reading text (layout.takePlain reading text)
  | value {flag : Flag} {text : String} (isPlain : Shape.ofText text = .plain)
      (isAwaited : reading.awaiting = some flag) :
      Step layout reading text (.ok (reading.takeValue flag text))
  | escape (flagsRead : reading.plainOnly = false) :
      Step layout reading "--" (.ok { reading with plainOnly := true })
  | given {flag : Flag} {word text argument : String} {form : Form}
      (flagsRead : reading.plainOnly = false) (member : flag ∈ layout.flags)
      (fits : form.Fits flag word text) (isWritten : form.write word text = [argument]) :
      Step layout reading argument ((reading.takeFlag flag text).mapError .usage)
  | awaits {flag : Flag} {word : String} (flagsRead : reading.plainOnly = false)
      (member : flag ∈ layout.flags) (isWord : flag.IsWord word) (isValued : flag.takesValue) :
      Step layout reading word ((reading.awaitValue flag).mapError .usage)
  | help {text : String} {rejection : Rejection} (flagsRead : reading.plainOnly = false)
      (isHelp : text = Flag.word .help ∨
        ∃ word rest, Flag.help.IsShortWord word ∧ text = word ++ rest) :
      Step layout reading text (.error rejection)
  | refused {text : String} {fault : UsageFault} : Step layout reading text (.error (.usage fault))

namespace Layout

variable {layout : Layout} {reading : Reading} {text : String}

theorem long_of_long_flag {name : List Char} {flag : Flag}
    (found : layout.longFlag? name = some flag) : flag.long.toList = name := by
  have isLong := List.find?_some found
  exact beq_iff_eq.mp isLong

theorem short_of_short_flag {letter : Char} {flag : Flag}
    (found : layout.shortFlag? letter = some flag) : flag.short? = some letter := by
  have isShort := List.find?_some found
  exact beq_iff_eq.mp isShort

theorem help_step (flagsRead : reading.plainOnly = false)
    (isHelp : text = Flag.word .help ∨
      ∃ word rest, Flag.help.IsShortWord word ∧ text = word ++ rest) :
    layout.Step reading text (match reading.settle with
      | .ok _ => .error .helpAsked
      | .error fault => .error (.usage fault)) := by
  cases reading.settle with
  | ok settled => exact .help flagsRead isHelp
  | error fault => exact .help flagsRead isHelp

theorem take_long_step (flagsRead : reading.plainOnly = false) {name : List Char}
    {value : Option (List Char)} (isLong : Shape.ofText text = .long name value) :
    layout.Step reading text (layout.takeLong reading name value) := by
  unfold takeLong
  cases isFlag : layout.longFlag? name with
  | none => exact .refused
  | some flag =>
      have member := List.mem_of_find?_eq_some isFlag
      rw [← long_of_long_flag isFlag] at isLong
      by_cases isValued : flag.takesValue = true
      · simp only [isValued, if_true]
        cases value with
        | some value =>
            rw [Shape.attached_of_long isLong]
            exact .given flagsRead member (.attached isValued (.inl rfl)) rfl
        | none =>
            rw [Shape.word_of_long isLong]
            exact .awaits flagsRead member (.inl rfl) isValued
      · simp only [isValued]
        cases value with
        | some value => exact .refused
        | none =>
            rcases Flag.of_not_valued isValued with rfl | rfl
            · exact help_step flagsRead (.inl (Shape.word_of_long isLong))
            · rw [Shape.word_of_long isLong]
              exact .given flagsRead member (.bare rfl rfl) rfl

theorem take_short_step (flagsRead : reading.plainOnly = false) {letter : Char} {chars : List Char}
    (isShort : Shape.ofText text = .short letter chars) :
    layout.Step reading text (layout.takeShort reading letter chars) := by
  unfold takeShort
  cases isFlag : layout.shortFlag? letter with
  | none => exact .refused
  | some flag =>
      have member := List.mem_of_find?_eq_some isFlag
      have isWord : flag.IsShortWord (String.ofList ['-', letter]) :=
        ⟨letter, short_of_short_flag isFlag, rfl⟩
      rw [Shape.text_of_short isShort]
      by_cases isValued : flag.takesValue = true
      · simp only [isValued, if_true]
        split
        · rw [String.ofList_nil, String.append_empty]
          exact .awaits flagsRead member (.inr isWord) isValued
        · rename_i value
          refine .given flagsRead member (.attached isValued (.inr isWord)) ?_
          apply congrArg (fun text => [text])
          apply String.toList_injective
          simp
        · rename_i notEmpty notSign
          refine .given flagsRead member (.joined isValued isWord ?_ ?_) rfl
          · simpa using notEmpty
          · rw [String.toList_ofList]
            intro isSign
            obtain ⟨value, rfl⟩ := List.head?_eq_some_iff.mp isSign
            exact notSign value rfl
      · simp only [isValued]
        have isHelp : flag = .help := by
          rcases Flag.of_not_valued isValued with isHelp | rfl
          · exact isHelp
          · cases short_of_short_flag isFlag
        rw [isHelp] at isWord
        exact help_step flagsRead (.inr ⟨_, _, isWord, rfl⟩)

theorem take_step (layout : Layout) (reading : Reading) (text : String) :
    layout.Step reading text (layout.take reading text) := by
  unfold take
  split
  · rename_i plainOnly
    exact .plain (.inl plainOnly)
  · rename_i notPlain
    have flagsRead : reading.plainOnly = false := Bool.eq_false_iff.mpr notPlain
    cases shape : Shape.ofText text with
    | escape =>
        rw [(Shape.escape_iff text).mp shape]
        exact .escape flagsRead
    | long name value => exact take_long_step flagsRead shape
    | short letter chars => exact take_short_step flagsRead shape
    | plain =>
        dsimp only
        split
        · rename_i isAwaited
          exact .value shape isAwaited
        · rename_i noneAwaited
          exact .plain (.inr ⟨shape, noneAwaited⟩)

end Layout

end AutomataRequest.CommandLine
