import AutomataRequest.Proofs.LookupLanguage
import AutomataRequest.Proofs.OptionToken
import Mathlib.Data.List.Basic

/-!
# Messages that tell faults apart

A message opens with words of its own and goes on with the texts that the fault is about. No text
can reach back into the opening, so a message can be read back: what stands behind the opening is
the text. Where more than one text is put in, the ones in the middle have to be words, or they
could not be told from what stands around them. Those that come from here are.
-/

namespace AutomataRequest

namespace Fault

/-! Reading a message back. -/

/-- What comes behind a text that stands in front. The recursion is on that text, so that a known
text is taken off whatever comes behind it. -/
def behind? : List Char → List Char → Option (List Char)
  | [], rest => some rest
  | char :: front, char' :: rest => if char = char' then behind? front rest else none
  | _ :: _, [] => none

/-- The openings of messages about one text, each with the fault that is about the text. -/
def openings : List (String × (String → Fault)) :=
  [("Unknown encoding: ", .unknownEncoding), ("Unknown operation: ", .unknownOperation),
    ("Unknown direction: ", .unknownDirection), ("Unknown order: ", .unknownOrder),
    ("Invalid configuration: ", .invalidConfig), ("Serialization error: ", .serialization),
    ("I/O error: ", .io)]

def ofOpened? (chars : List Char) : Option Fault :=
  openings.findSome? fun opening =>
    (behind? opening.1.toList chars).map fun rest => opening.2 (String.ofList rest)

/-- The word between two texts, and what comes behind the second. -/
def wordBetween? (before after chars : List Char) : Option (String × List Char) := do
  let fromWord ← behind? before chars
  let rest ← behind? after (fromWord.dropWhile (· ≠ ' '))
  return (String.ofList (fromWord.takeWhile (· ≠ ' ')), rest)

/-- Two words, each in front of a fixed text, and what comes last. -/
def wordsBetween? (opening between closing : String) (chars : List Char) :
    Option (String × String × String) := do
  let (first, rest) ← wordBetween? opening.toList between.toList chars
  let (second, rest) ← wordBetween? [] closing.toList rest
  return (first, second, String.ofList rest)

def ofMissing? (chars : List Char) : Option Fault :=
  (wordsBetween? "Operation " " requires " " options but none were given" chars).map
    fun (operation, expected, _) => .missingOptions operation expected

def ofOtherShape? (chars : List Char) : Option Fault :=
  (wordsBetween? "Operation " " expects " " options, got " chars).map
    fun (operation, expected, found) => .invalidOptionsShape operation expected found

def ofMessage? (message : String) : Option Fault :=
  (ofOpened? message.toList).or ((ofMissing? message.toList).or (ofOtherShape? message.toList))

/-- The texts in the middle of a message are words. -/
def NamesWords : Fault → Prop
  | .missingOptions operation expected | .invalidOptionsShape operation expected _ =>
      ' ' ∉ operation.toList ∧ ' ' ∉ expected.toList
  | .unknownEncoding _ | .unknownOperation _ | .unknownDirection _ | .unknownOrder _
  | .invalidConfig _ | .serialization _ | .io _ => True

theorem behind_append (front rest : List Char) : behind? front (front ++ rest) = some rest := by
  induction front with
  | nil => rfl
  | cons char front induction => rw [List.cons_append, behind?, if_pos rfl, induction]

/-! A word reaches up to the first blank. -/

section

variable {word : List Char} (isWord : ' ' ∉ word)
include isWord

theorem no_blank_in_word : ∀ char ∈ word, decide (char ≠ ' ') = true := by
  intro char member
  exact decide_eq_true (ne_of_mem_of_not_mem member isWord)

theorem take_word (rest : List Char) : (word ++ ' ' :: rest).takeWhile (· ≠ ' ') = word := by
  rw [List.takeWhile_append_of_pos (no_blank_in_word isWord)]
  simp

theorem drop_word (rest : List Char) :
    (word ++ ' ' :: rest).dropWhile (· ≠ ' ') = ' ' :: rest := by
  rw [List.dropWhile_append_of_pos (no_blank_in_word isWord)]
  simp

end

section

variable {opening first second between closing : String}

theorem word_between_eq {word : String} {chars : List Char} (isWord : ' ' ∉ word.toList)
    (begins : chars.head? = some ' ') (before after : List Char) :
    wordBetween? before after (before ++ (word.toList ++ chars)) =
      (behind? after chars).map (word, ·) := by
  obtain ⟨rest, rfl⟩ := List.head?_eq_some_iff.mp begins
  simp only [wordBetween?, behind_append, Option.bind_eq_bind, Option.bind_some, take_word isWord,
    drop_word isWord, String.ofList_toList]
  cases behind? after (' ' :: rest) <;> rfl

theorem words_between_of_words (isWord : ' ' ∉ first.toList) (isWord' : ' ' ∉ second.toList)
    (begins : between.toList.head? = some ' ') (begins' : closing.toList.head? = some ' ')
    (last : String) :
    wordsBetween? opening between closing
        (opening ++ first ++ between ++ second ++ closing ++ last).toList =
      some (first, second, last) := by
  have beginsBehind (rest : List Char) : (between.toList ++ rest).head? = some ' ' := by
    rw [List.head?_append, begins]
    rfl
  have beginsBehind' (rest : List Char) : (closing.toList ++ rest).head? = some ' ' := by
    rw [List.head?_append, begins']
    rfl
  have closes := word_between_eq isWord' (beginsBehind' last.toList) [] closing.toList
  rw [behind_append, List.nil_append] at closes
  simp only [wordsBetween?, String.toList_append, List.append_assoc]
  rw [word_between_eq isWord (beginsBehind _), behind_append]
  simp only [Option.map_some, Option.bind_eq_bind, Option.bind_some, closes, String.ofList_toList,
    Option.pure_def]

/-- Another text behind the first word is noticed. -/
theorem words_between_of_other {other : String} (isWord : ' ' ∉ first.toList)
    (begins : other.toList.head? = some ' ')
    (apart : ∀ rest, behind? between.toList (other.toList ++ rest) = none)
    (second third last : String) :
    wordsBetween? opening between closing
        (opening ++ first ++ other ++ second ++ third ++ last).toList = none := by
  have beginsBehind (rest : List Char) : (other.toList ++ rest).head? = some ' ' := by
    rw [List.head?_append, begins]
    rfl
  simp only [wordsBetween?, String.toList_append, List.append_assoc]
  rw [word_between_eq isWord (beginsBehind _), apart]
  rfl

end

/-! Every message is read back. -/

theorem of_message_opened (opening : String) (fault : String → Fault)
    (opens : ∀ rest, ofOpened? (opening.toList ++ rest) = some (fault (String.ofList rest)))
    (text : String) : ofMessage? (opening ++ text) = some (fault text) := by
  rw [ofMessage?, String.toList_append, opens, String.ofList_toList]
  rfl

section

variable {operation expected : String}

/-- A message about options opens like none about one text. -/
theorem not_opened (first second third fourth last : String) :
    ofOpened? ("Operation " ++ first ++ second ++ third ++ fourth ++ last).toList = none := by
  simp only [String.toList_append, List.append_assoc]
  rfl

theorem of_message_missing (isWord : ' ' ∉ operation.toList) (isWord' : ' ' ∉ expected.toList) :
    ofMessage? (missingOptions operation expected).message =
      some (.missingOptions operation expected) := by
  have isMessage : (missingOptions operation expected).message =
      "Operation " ++ operation ++ " requires " ++ expected ++ " options but none were given" ++
        "" := String.append_empty.symm
  rw [isMessage, ofMessage?, not_opened, ofMissing?, words_between_of_words isWord isWord' rfl rfl]
  rfl

theorem of_message_other_shape (isWord : ' ' ∉ operation.toList) (isWord' : ' ' ∉ expected.toList)
    (found : String) :
    ofMessage? (invalidOptionsShape operation expected found).message =
      some (.invalidOptionsShape operation expected found) := by
  have isMessage : (invalidOptionsShape operation expected found).message =
      "Operation " ++ operation ++ " expects " ++ expected ++ " options, got " ++ found := rfl
  have notRequires (rest : List Char) :
      behind? " requires ".toList (" expects ".toList ++ rest) = none := rfl
  rw [isMessage, ofMessage?, not_opened, ofMissing?,
    words_between_of_other isWord rfl notRequires, ofOtherShape?,
    words_between_of_words isWord isWord' rfl rfl]
  rfl

end

theorem of_message_message {fault : Fault} (namesWords : fault.NamesWords) :
    ofMessage? fault.message = some fault := by
  cases fault with
  | unknownEncoding token =>
      exact of_message_opened "Unknown encoding: " .unknownEncoding (fun _ => rfl) token
  | unknownOperation token =>
      exact of_message_opened "Unknown operation: " .unknownOperation (fun _ => rfl) token
  | unknownDirection token =>
      exact of_message_opened "Unknown direction: " .unknownDirection (fun _ => rfl) token
  | unknownOrder token =>
      exact of_message_opened "Unknown order: " .unknownOrder (fun _ => rfl) token
  | missingOptions operation expected => exact of_message_missing namesWords.1 namesWords.2
  | invalidOptionsShape operation expected found =>
      exact of_message_other_shape namesWords.1 namesWords.2 found
  | invalidConfig text =>
      exact of_message_opened "Invalid configuration: " .invalidConfig (fun _ => rfl) text
  | serialization text =>
      exact of_message_opened "Serialization error: " .serialization (fun _ => rfl) text
  | io text => exact of_message_opened "I/O error: " .io (fun _ => rfl) text

/-! The faults that arise here. -/

/-- A fault is what a lookup or an option says of what it was given, or it passes on the message of
a configuration, of a text that is no request, or of the files. -/
inductive Arises : Fault → Prop
  | encoding {text : String} {fault : Fault} (refused : Encoding.ofText text = .error fault) :
      Arises fault
  | operation {text : String} {fault : Fault} (refused : Operation.ofText text = .error fault) :
      Arises fault
  | direction {text : String} {fault : Fault} (refused : Direction.ofText text = .error fault) :
      Arises fault
  | order {text : String} {fault : Fault} (refused : Order.ofText text = .error fault) :
      Arises fault
  | options {operation : Operation} {encoding : Option Encoding} {options : Option Options}
      {fault : Fault} (refused : operation.optionToken encoding options = .error fault) :
      Arises fault
  | invalidConfig (message : String) : Arises (.invalidConfig message)
  | serialization (message : String) : Arises (.serialization message)
  | io (message : String) : Arises (.io message)

theorem unknown_of_lookup {Variant : Type} {found : Option Variant} {unknown fault : Fault}
    (refused : found.elim (.error unknown) Except.ok = .error fault) : fault = unknown := by
  cases found with
  | none =>
      cases refused
      rfl
  | some variant => cases refused

theorem shape_fault_names_words (operation : Operation) (options : Option Options) :
    (operation.shapeFault options).NamesWords := by
  have isWord : ' ' ∉ operation.name.toList ∧ ' ' ∉ operation.expectedName.toList := by
    cases operation <;> decide
  cases options with
  | none => exact isWord
  | some given => exact isWord

theorem names_words_of_arises {fault : Fault} (arises : fault.Arises) : fault.NamesWords := by
  cases arises with
  | encoding refused =>
      rw [Encoding.of_text_eq] at refused
      rw [unknown_of_lookup refused]
      trivial
  | operation refused =>
      rw [Operation.of_text_eq] at refused
      rw [unknown_of_lookup refused]
      trivial
  | direction refused =>
      rw [Direction.of_text_eq] at refused
      rw [unknown_of_lookup refused]
      trivial
  | order refused =>
      rw [Order.of_text_eq] at refused
      rw [unknown_of_lookup refused]
      trivial
  | @options operation encoding options fault refused =>
      rw [Operation.option_token_eq] at refused
      by_cases accepted : operation.Accepts options
      · rw [if_pos accepted] at refused
        cases refused
      · rw [if_neg accepted] at refused
        cases refused
        exact shape_fault_names_words operation options
  | invalidConfig message => trivial
  | serialization message => trivial
  | io message => trivial

end Fault

/-- Two faults that arise here are worded alike only if they are one and the same. -/
theorem message_identifies_fault {first second : Fault} (firstArises : first.Arises)
    (secondArises : second.Arises) : first.message = second.message ↔ first = second := by
  constructor
  · intro sameMessage
    have readFirst := Fault.of_message_message (Fault.names_words_of_arises firstArises)
    have readSecond := Fault.of_message_message (Fault.names_words_of_arises secondArises)
    rw [sameMessage, readSecond] at readFirst
    exact (Option.some.inj readFirst).symm
  · rintro rfl
    rfl

/-- The whole message of a fault of options, given as the name of an order. -/
def imitation : String := "Operation union expects no options, got order"

theorem imitated_message_is_not_taken :
    Order.ofText imitation = .error (.unknownOrder imitation) ∧
    Operation.union.optionToken none (some (.order .depthFirst)) =
      .error (.invalidOptionsShape "union" "no" "order") ∧
    (Fault.invalidOptionsShape "union" "no" "order").message = imitation ∧
    (Fault.unknownOrder imitation).message ≠
      (Fault.invalidOptionsShape "union" "no" "order").message := by
  have unknown : Order.ofText imitation = .error (.unknownOrder imitation) := rfl
  have refused : Operation.union.optionToken none (some (.order .depthFirst)) =
      .error (.invalidOptionsShape "union" "no" "order") := rfl
  refine ⟨unknown, refused, rfl, ?_⟩
  intro sameMessage
  cases (message_identifies_fault (.order unknown) (.options refused)).mp sameMessage

/-- Were a name in the middle no word, two faults could be worded alike. -/
example :
    (Fault.invalidOptionsShape "union" "a" "b options, got c").message =
      (Fault.invalidOptionsShape "union" "a options, got b" "c").message := rfl

end AutomataRequest
