import AutomataRequest.Json.Reader

/-!
# JSON texts

The grammar of JSON, as a relation between a text and the value that it is written for. A value
can be written in many ways: with space between its parts, and with any character of a string
escaped. Surrogates come in pairs only, so every string is a string of characters. Members of an
object are kept in their order, and a key may come twice.
-/

namespace AutomataRequest.Json

inductive Value where
  | null
  | boolean (value : Bool)
  | number (numeral : List Char)
  | string (text : String)
  | array (items : List Value)
  | object (members : List (String × Value))

/-- Insignificant space. -/
def Spaces (chars : List Char) : Prop := ∀ char ∈ chars, char ∈ [' ', '\t', '\n', '\r']

instance (chars : List Char) : Decidable (Spaces chars) :=
  List.decidableBAll (· ∈ [' ', '\t', '\n', '\r']) chars

theorem spaces_nil : Spaces [] := by
  intro char member
  cases member

/-! Strings. -/

/-- A hexadecimal digit, in either case. -/
def IsHexDigit (digit : Char) (value : Nat) : Prop :=
  value < 16 ∧ (digit = Nat.digitChar value ∨ digit = (Nat.digitChar value).toUpper)

/-- Four hexadecimal digits, the highest first. -/
inductive FourDigits : List Char → Nat → Prop
  | digits {a b c d : Char} {i j k l : Nat} (first : IsHexDigit a i) (second : IsHexDigit b j)
      (third : IsHexDigit c k) (last : IsHexDigit d l) :
      FourDigits [a, b, c, d] (((i * 16 + j) * 16 + k) * 16 + l)

/-- The letters of the short escapes. -/
def shortEscapes : List (Char × Char) :=
  [('"', '"'), ('\\', '\\'), ('/', '/'), ('b', '\x08'), ('f', '\x0c'), ('n', '\n'), ('r', '\r'),
    ('t', '\t')]

/-- What may be written for one character of a string. The digits of an escape are a code unit of
UTF-16, and a character beyond the first 65536 has two of them. -/
inductive WritesChar : List Char → Char → Prop
  | plain {char : Char} (notQuote : char ≠ '"') (notBackslash : char ≠ '\\')
      (printed : 0x20 ≤ char.toNat) : WritesChar [char] char
  | short {letter char : Char} (named : (letter, char) ∈ shortEscapes) :
      WritesChar ['\\', letter] char
  | unit {digits : List Char} {char : Char} (isUnit : FourDigits digits char.toNat) :
      WritesChar ('\\' :: 'u' :: digits) char
  | pair {first second : List Char} {char : Char} (beyond : 0x10000 ≤ char.toNat)
      (leading : FourDigits first (0xD800 + (char.toNat - 0x10000) / 0x400))
      (trailing : FourDigits second (0xDC00 + (char.toNat - 0x10000) % 0x400)) :
      WritesChar ('\\' :: 'u' :: first ++ '\\' :: 'u' :: second) char

inductive WritesChars : List Char → List Char → Prop
  | nil : WritesChars [] []
  | cons {first rest : List Char} {char : Char} {chars : List Char}
      (writesFirst : WritesChar first char) (writesRest : WritesChars rest chars) :
      WritesChars (first ++ rest) (char :: chars)

def WritesString (text : List Char) (string : String) : Prop :=
  ∃ inner, WritesChars inner string.toList ∧ text = '"' :: (inner ++ ['"'])

/-! Numbers. -/

def Digits (chars : List Char) : Prop :=
  chars ≠ [] ∧ ∀ char ∈ chars, Number.isDecimalDigit char = true

/-- A sign, an integer without leading zeros, a fraction and an exponent. -/
inductive Numeral : List Char → Prop
  | parts {sign whole fraction exponent : List Char}
      (isSign : sign = [] ∨ sign = ['-'])
      (isWhole : Digits whole ∧ (whole.head? = some '0' → whole = ['0']))
      (isFraction : fraction = [] ∨ ∃ digits, Digits digits ∧ fraction = '.' :: digits)
      (isExponent : exponent = [] ∨ ∃ mark ∈ ['e', 'E'], ∃ sign ∈ [[], ['+'], ['-']], ∃ digits,
        Digits digits ∧ exponent = mark :: (sign ++ digits)) :
      Numeral (sign ++ whole ++ fraction ++ exponent)

/-! Values. -/

/-- A value with the space around it. -/
structure Item where
  before : List Char
  text : List Char
  after : List Char
  value : Value
  spacesBefore : Spaces before
  spacesAfter : Spaces after

def Item.chars (item : Item) : List Char := item.before ++ item.text ++ item.after

/-- A member of an object: a key with the space around it, and a value. -/
structure Entry where
  key : String
  before : List Char
  keyText : List Char
  after : List Char
  item : Item
  spacesBefore : Spaces before
  spacesAfter : Spaces after

/-- The key as it is written, with its colon. -/
def Entry.keyChars (entry : Entry) : List Char :=
  entry.before ++ entry.keyText ++ entry.after ++ [':']

def Entry.chars (entry : Entry) : List Char := entry.keyChars ++ entry.item.chars

def Entry.member (entry : Entry) : String × Value := (entry.key, entry.item.value)

/-- What stands before an element or a member that comes at a place in a list or an object. -/
def leadIn (isFirst : Bool) : List Char := if isFirst then [] else [',']

/-- The elements of a list or an object, each but the first behind a comma. -/
def listed (isFirst : Bool) : List (List Char) → List Char
  | [] => []
  | item :: items => leadIn isFirst ++ item ++ listed false items

/-- The text is written for the value. Brackets may enclose space and nothing else. -/
inductive Writes : List Char → Value → Prop
  | null : Writes ['n', 'u', 'l', 'l'] .null
  | true : Writes ['t', 'r', 'u', 'e'] (.boolean true)
  | false : Writes ['f', 'a', 'l', 's', 'e'] (.boolean false)
  | number {numeral : List Char} (isNumeral : Numeral numeral) : Writes numeral (.number numeral)
  | string {text : List Char} {string : String} (writesString : WritesString text string) :
      Writes text (.string string)
  | array {items : List Item} {gap : List Char} (spaces : Spaces gap)
      (each : ∀ item ∈ items, Writes item.text item.value) :
      Writes ('[' :: (listed true (items.map Item.chars) ++ gap ++ [']']))
        (.array (items.map Item.value))
  | object {entries : List Entry} {gap : List Char} (spaces : Spaces gap)
      (keys : ∀ entry ∈ entries, WritesString entry.keyText entry.key)
      (each : ∀ entry ∈ entries, Writes entry.item.text entry.item.value) :
      Writes ('{' :: (listed true (entries.map Entry.chars) ++ gap ++ ['}']))
        (.object (entries.map Entry.member))

/-- A whole text: a value with the space around it. -/
def IsJson (text : String) (value : Value) : Prop :=
  ∃ item : Item, text.toList = item.chars ∧ item.value = value ∧ Writes item.text item.value

/-! First characters. -/

/-- The characters with which a value can begin. -/
def Value.StartsWith : Value → Char → Prop
  | .null, char => char = 'n'
  | .boolean _, char => char = 't' ∨ char = 'f'
  | .number _, char => char = '-' ∨ Number.isDecimalDigit char = true
  | .string _, char => char = '"'
  | .array _, char => char = '['
  | .object _, char => char = '{'

theorem numeral_starts {numeral : List Char} (isNumeral : Numeral numeral) :
    ∃ char rest, numeral = char :: rest ∧ (char = '-' ∨ Number.isDecimalDigit char = true) := by
  cases isNumeral with
  | @parts sign whole fraction exponent isSign isWhole =>
      rcases isSign with rfl | rfl
      · obtain ⟨⟨notEmpty, digits⟩, _⟩ := isWhole
        obtain ⟨char, rest, rfl⟩ := List.exists_cons_of_ne_nil notEmpty
        exact ⟨char, _, rfl, .inr (digits char List.mem_cons_self)⟩
      · exact ⟨'-', _, rfl, .inl rfl⟩

theorem writes_starts {text : List Char} {value : Value} (writes : Writes text value) :
    ∃ char rest, text = char :: rest ∧ value.StartsWith char := by
  cases writes with
  | null => exact ⟨_, _, rfl, rfl⟩
  | true => exact ⟨_, _, rfl, .inl rfl⟩
  | false => exact ⟨_, _, rfl, .inr rfl⟩
  | number isNumeral => exact numeral_starts isNumeral
  | string writesString =>
      obtain ⟨_, _, rfl⟩ := writesString
      exact ⟨_, _, rfl, rfl⟩
  | array => exact ⟨_, _, rfl, rfl⟩
  | object => exact ⟨_, _, rfl, rfl⟩

theorem space_iff {char : Char} :
    Cursor.isSpace char = true ↔ char ∈ [' ', '\t', '\n', '\r'] := by
  simp [Cursor.isSpace, or_left_comm, or_assoc]

/-- No value begins with space. -/
theorem mark_of_starts {value : Value} {char : Char} (starts : value.StartsWith char) :
    Cursor.isSpace char = false := by
  rw [← Bool.not_eq_true, space_iff]
  intro space
  simp only [List.mem_cons, List.not_mem_nil, or_false] at space
  rcases space with rfl | rfl | rfl | rfl
  all_goals cases value <;> simp [Value.StartsWith, Number.isDecimalDigit] at starts

/-- No value begins where a list ends. -/
theorem ne_end_of_starts {value : Value} {char : Char} (starts : value.StartsWith char) :
    char ≠ ']' := by
  rintro rfl
  cases value <;> simp [Value.StartsWith, Number.isDecimalDigit] at starts

end AutomataRequest.Json
