import AutomataRequest.Proofs.CommandLine.AcceptedLines

/-!
# The parts of a command line

What stands behind a subcommand falls into parts: a flag with its text, a plain argument, or the
two hyphens. A level holds in the end what its parts say one after the other, however they are
written, and it is at fault where that first fails. Whatever a level accepts is written in parts.
So a command line may be thought of as its parts, and the way of its arguments through the reader,
where values stay pending, need not be followed again.
-/

namespace AutomataRequest.CommandLine

inductive Part where
  | flag (flag : Flag) (word : String) (form : Form) (text : String)
  | plain (place : Place) (text : String)
  | escape
  deriving DecidableEq, Repr

def Part.arguments : Part → List String
  | .flag _ word form text => form.write word text
  | .plain _ text => [text]
  | .escape => ["--"]

theorem Part.arguments_ne_nil (part : Part) : part.arguments ≠ [] := by
  cases part with
  | flag flag word form text => cases form <;> exact List.cons_ne_nil _ _
  | plain place text => exact List.cons_ne_nil _ _
  | escape => exact List.cons_ne_nil _ _

/-- Where a level stands between two parts. -/
structure Point where
  plainOnly : Bool
  filled : Nat

namespace Point

def start : Point := ⟨false, 0⟩

def filling (point : Point) (place : Place) : Point :=
  { point with filled := if place.takesMany then point.filled else point.filled + 1 }

end Point

namespace Layout

/-- What one part may be, and where it leads. -/
inductive TakesPart (layout : Layout) : Point → Part → Point → Prop
  | flag {filled : Nat} {flag : Flag} {word text : String} {form : Form}
      (member : flag ∈ layout.flags) (fits : form.Fits flag word text) :
      TakesPart layout ⟨false, filled⟩ (.flag flag word form text) ⟨false, filled⟩
  | plain {point : Point} {place : Place} {text : String}
      (isNext : layout.places[point.filled]? = some place)
      (isPlain : point.plainOnly = true ∨ Shape.ofText text = .plain) :
      TakesPart layout point (.plain place text) (point.filling place)
  | escape {filled : Nat} : TakesPart layout ⟨false, filled⟩ .escape ⟨true, filled⟩

inductive Takes (layout : Layout) : Point → List Part → Prop
  | nil (point : Point) : Takes layout point []
  | cons {point next : Point} {part : Part} {parts : List Part}
      (step : layout.TakesPart point part next) (rest : layout.Takes next parts) :
      Takes layout point (part :: parts)

end Layout

namespace Given

def addPart (given : Given) : Part → Except UsageFault Given
  | .flag flag _ _ text => given.addFlag flag text
  | .plain place text => given.addPlace place [text]
  | .escape => .ok given

def addParts (given : Given) (parts : List Part) : Except UsageFault Given :=
  parts.foldlM addPart given

end Given

/-! Reading the parts. -/

namespace Reading

structure At (point : Point) (reading : Reading) : Prop where
  plain : reading.plainOnly = point.plainOnly
  noneAwaited : reading.awaiting = none
  filled : reading.filled = point.filled

/-- The level goes on at a point and with this due, or it is at fault as this is. -/
inductive Reaches (point : Point) (held : Except UsageFault Given) :
    Except Rejection Reading → Prop
  | ok {next : Reading} (here : next.At point) (isDue : next.due = held) :
      Reaches point held (.ok next)
  | error {fault : UsageFault} (fails : held = .error fault) :
      Reaches point held (.error (.usage fault))

theorem start_at : At .start {} := ⟨rfl, rfl, rfl⟩

theorem At.is_open {reading : Reading} {filled : Nat} (here : reading.At ⟨false, filled⟩) :
    reading.IsOpen := ⟨here.plain, here.noneAwaited⟩

variable {reading : Reading} {point : Point}

theorem take_flag_reaches (here : reading.At point) (flag : Flag) (text : String) :
    Reaches point (reading.due >>= fun given => given.addFlag flag text)
      ((reading.takeFlag flag text).mapError .usage) := by
  rw [take_flag_eq, ← bind_assoc]
  cases reading.due >>= fun given => given.addFlag flag text with
  | error fault => exact .error rfl
  | ok after => exact .ok ⟨here.plain, rfl, here.filled⟩ rfl

theorem take_plain_reaches (here : reading.At point) (place : Place) (text : String) :
    Reaches (point.filling place) (reading.due >>= fun given => given.addPlace place [text])
      ((reading.takePlain place text).mapError .usage) := by
  by_cases joins : place = .operands ∧ ∃ texts, reading.pending = some (.ofPlace .operands, texts)
  · obtain ⟨rfl, texts, isPending⟩ := joins
    rw [Layout.join_operand isPending]
    refine .ok ⟨here.plain, rfl, here.filled⟩ ?_
    simp only [due, isPending, Given.addPlace, ← List.append_assoc]
    rfl
  · have apart (isOperands : place = .operands) (texts : List String) :
        reading.pending ≠ some (.ofPlace .operands, texts) :=
      fun isPending => joins ⟨isOperands, texts, isPending⟩
    rw [take_plain_apart text apart]
    cases reading.due with
    | error fault => exact .error rfl
    | ok given =>
        refine .ok ⟨here.plain, rfl, ?_⟩ rfl
        rw [Point.filling, ← here.filled]

end Reading

namespace Layout

variable {layout : Layout} {reading : Reading} {flag : Flag} {word text : String}

theorem short_flag_of_mem (member : flag ∈ layout.flags) {letter : Char}
    (isShort : flag.short? = some letter) : layout.shortFlag? letter = some flag := by
  cases found : layout.shortFlag? letter with
  | none =>
      have noFlag := List.find?_eq_none.mp found flag member
      rw [isShort] at noFlag
      exact absurd (beq_self_eq_true _) noFlag
  | some other => rw [Flag.eq_of_short (short_of_short_flag found) isShort]

theorem take_short_word (isOpen : reading.IsOpen) (member : flag ∈ layout.flags)
    (isShort : flag.IsShortWord word) (rest : String) :
    ∃ letter, layout.shortFlag? letter = some flag ∧
      layout.take reading (word ++ rest) = layout.takeShort reading letter rest.toList := by
  obtain ⟨letter, isLetter, shape⟩ := Flag.shape_of_short isShort rest
  refine ⟨letter, short_flag_of_mem member isLetter, ?_⟩
  simp only [take, isOpen.flagsRead, Bool.false_eq_true, if_false, shape]

theorem take_word (isOpen : reading.IsOpen) (member : flag ∈ layout.flags)
    (isWord : flag.IsWord word) (isValued : flag.takesValue) :
    layout.take reading word = (reading.awaitValue flag).mapError .usage := by
  rcases isWord with rfl | isShort
  · exact take_awaiting isOpen member isValued
  · obtain ⟨letter, isFlag, taken⟩ := take_short_word isOpen member isShort ""
    rw [String.append_empty] at taken
    rw [taken, takeShort, isFlag]
    exact if_pos isValued

theorem take_attached_word (isOpen : reading.IsOpen) (member : flag ∈ layout.flags)
    (isWord : flag.IsWord word) (isValued : flag.takesValue) (text : String) :
    layout.take reading (word ++ "=" ++ text) =
      (reading.takeFlag flag text).mapError .usage := by
  rcases isWord with rfl | isShort
  · exact take_attached isOpen member isValued text
  · have signed : ("=" ++ text).toList = '=' :: text.toList := by simp
    obtain ⟨letter, isFlag, taken⟩ := take_short_word isOpen member isShort ("=" ++ text)
    rw [String.append_assoc, taken, signed, takeShort, isFlag]
    refine (if_pos isValued).trans ?_
    change (reading.takeFlag flag (String.ofList text.toList)).mapError Rejection.usage = _
    rw [String.ofList_toList]

theorem take_joined_word (isOpen : reading.IsOpen) (member : flag ∈ layout.flags)
    (isShort : flag.IsShortWord word) (isValued : flag.takesValue) (notEmpty : text ≠ "")
    (noSign : text.toList.head? ≠ some '=') :
    layout.take reading (word ++ text) = (reading.takeFlag flag text).mapError .usage := by
  obtain ⟨letter, isFlag, taken⟩ := take_short_word isOpen member isShort text
  rw [taken, takeShort, isFlag]
  refine (if_pos isValued).trans ?_
  split
  · rename_i isEmpty
    exact absurd (String.toList_eq_nil_iff.mp isEmpty) notEmpty
  · rename_i value signed
    rw [signed] at noSign
    exact absurd rfl noSign
  · rw [String.ofList_toList]

theorem take_plain_eq (noneAwaited : reading.awaiting = none)
    (isPlain : reading.plainOnly = true ∨ Shape.ofText text = .plain) :
    layout.take reading text = layout.takePlain reading text := by
  unfold take
  split
  · rfl
  · rename_i flagsRead
    rw [isPlain.resolve_left flagsRead, noneAwaited]

/-- The step: reading a part and adding what it says come to the same. -/
theorem read_part {point next : Point} {part : Part} (here : reading.At point)
    (takes : layout.TakesPart point part next) :
    Reading.Reaches next (reading.due >>= fun given => given.addPart part)
      (layout.readAll reading part.arguments) := by
  cases takes with
  | @flag filled flag word text form member fits =>
      have isOpen := here.is_open
      cases fits with
      | bare isProgram isWord =>
          rw [isProgram] at isWord member ⊢
          rw [Part.arguments, Form.write, read_all_singleton, isWord,
            take_bare isOpen member rfl (by decide)]
          exact Reading.take_flag_reaches here _ _
      | separate isValued isWord isPlain =>
          rw [Part.arguments, Form.write,
            read_separate isOpen (take_word isOpen member isWord isValued) isPlain]
          cases reading.due with
          | error fault => exact .error rfl
          | ok given => exact .ok ⟨here.plain, here.noneAwaited, here.filled⟩ rfl
      | attached isValued isWord =>
          rw [Part.arguments, Form.write, read_all_singleton,
            take_attached_word isOpen member isWord isValued]
          exact Reading.take_flag_reaches here _ _
      | joined isValued isShort notEmpty noSign =>
          rw [Part.arguments, Form.write, read_all_singleton,
            take_joined_word isOpen member isShort isValued notEmpty noSign]
          exact Reading.take_flag_reaches here _ _
  | @plain _ place text isNext isPlain =>
      rw [← here.plain] at isPlain
      rw [← here.filled] at isNext
      rw [Part.arguments, read_all_singleton, take_plain_eq here.noneAwaited isPlain, takePlain,
        isNext]
      exact Reading.take_plain_reaches here place text
  | escape =>
      rw [Part.arguments, read_all_singleton, take_escape here.is_open]
      refine .ok ⟨rfl, here.noneAwaited, here.filled⟩ ?_
      cases isDue : reading.due with
      | error fault => exact isDue
      | ok given => exact isDue

/-- The run: a level holds in the end what its parts say. -/
theorem read_parts {point : Point} {parts : List Part} (takes : layout.Takes point parts)
    (here : reading.At point) :
    layout.readDue reading (parts.flatMap Part.arguments) =
      (reading.due >>= fun given => given.addParts parts).mapError .usage := by
  induction takes generalizing reading with
  | nil point =>
      have nothing : (reading.due >>= fun given => given.addParts []) = reading.due := by
        cases reading.due <;> rfl
      rw [nothing]
      rfl
  | cons step rest ih =>
      rename_i point next part parts
      have added : (reading.due >>= fun given => given.addParts (part :: parts)) =
          (reading.due >>= fun given => given.addPart part) >>= fun given =>
            given.addParts parts := by
        simp only [Given.addParts, List.foldlM_cons, bind_assoc]
      rw [List.flatMap_cons, read_due_append, added]
      have reaches := read_part here step
      generalize layout.readAll reading part.arguments = attempt at reaches
      generalize (reading.due >>= fun given => given.addPart part) = held at reaches ⊢
      cases reaches with
      | error fails =>
          rw [fails]
          rfl
      | ok there isDue =>
          rw [← isDue]
          exact ih there

end Layout

end AutomataRequest.CommandLine
