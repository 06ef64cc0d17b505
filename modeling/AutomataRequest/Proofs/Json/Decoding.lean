import AutomataRequest.Proofs.Json.Grammar

/-!
# What the readers take

A reader of a known type meets a value of any type. It accepts the value exactly if the value
denotes something of its type, whatever way the value is written, and then it leaves exactly what
follows the value. So what a reader accepts can be said about values alone.
-/

namespace AutomataRequest.Json

/-! Space. -/

theorem after_all_append (position : Position) (first second : List Char) :
    position.afterAll (first ++ second) = (position.afterAll first).afterAll second := by
  simp only [Position.afterAll, List.foldl_append]

theorem after_all_nil (position : Position) : position.afterAll [] = position := rfl

theorem after_all_cons (position : Position) (char : Char) (chars : List Char) :
    position.afterAll (char :: chars) = (position.after char).afterAll chars := rfl

theorem skip_spaces_cons (char : Char) (isMark : Cursor.isSpace char = false)
    (rest : List Char) (position : Position) :
    Cursor.skipSpaces ⟨char :: rest, position⟩ = ⟨char :: rest, position⟩ := by
  simp [Cursor.skipSpaces, Cursor.skipSpacesFrom, isMark]

theorem skip_spaces_append {before : List Char} (spaces : Spaces before) (rest : List Char)
    (position : Position) :
    Cursor.skipSpaces ⟨before ++ rest, position⟩ =
      Cursor.skipSpaces ⟨rest, position.afterAll before⟩ := by
  induction before generalizing position with
  | nil => rfl
  | cons char before ih =>
      have isSpace : Cursor.isSpace char = true := space_iff.mpr (spaces char List.mem_cons_self)
      have others := ih (fun other later => spaces other (List.mem_cons_of_mem _ later))
        (position.after char)
      simp only [Cursor.skipSpaces] at others
      simp only [Cursor.skipSpaces, List.cons_append, Cursor.skipSpacesFrom, isSpace, if_true,
        others]
      rfl

theorem skip_spaces_to_mark {before : List Char} (spaces : Spaces before) (char : Char)
    (isMark : Cursor.isSpace char = false) (rest : List Char) (position : Position) :
    Cursor.skipSpaces ⟨before ++ char :: rest, position⟩ =
      ⟨char :: rest, position.afterAll before⟩ := by
  rw [skip_spaces_append spaces, skip_spaces_cons char isMark]

/-! Strings. -/

/-- A reader takes a text for a value: wherever the text stands, it gives the value and leaves
what follows the text. -/
def Reads {Value : Type} (read : Cursor → Except Failure (Value × Cursor)) (text : List Char)
    (value : Value) : Prop :=
  ∀ (rest : List Char) (position : Position),
    read ⟨text ++ rest, position⟩ = .ok (value, ⟨rest, position.afterAll text⟩)

theorem hex_value_of_digit {digit : Char} {value : Nat} (isDigit : IsHexDigit digit value) :
    Number.hexValue? digit = some value ∧ digit.utf8Size = 1 := by
  have lower : ∀ value < 16, Number.hexValue? (Nat.digitChar value) = some value ∧
      (Nat.digitChar value).utf8Size = 1 := by decide
  have upper : ∀ value < 16, Number.hexValue? (Nat.digitChar value).toUpper = some value ∧
      (Nat.digitChar value).toUpper.utf8Size = 1 := by decide
  obtain ⟨small, rfl | rfl⟩ := isDigit
  · exact lower value small
  · exact upper value small

theorem reads_four {digits : List Char} {value : Nat} (four : FourDigits digits value) :
    Reads readFourDigits digits value := by
  cases four with
  | @digits a b c d i j k l first second third last =>
      obtain ⟨isFirst, firstSize⟩ := hex_value_of_digit first
      obtain ⟨isSecond, secondSize⟩ := hex_value_of_digit second
      obtain ⟨isThird, thirdSize⟩ := hex_value_of_digit third
      obtain ⟨isLast, lastSize⟩ := hex_value_of_digit last
      intro rest position
      have size : Text.byteCount [a, b, c, d] = 4 := by
        simp [Text.byteCount, firstSize, secondSize, thirdSize, lastSize]
      have value : fourDigits? [a, b, c, d] = some (((i * 16 + j) * 16 + k) * 16 + l) := by
        simp [fourDigits?, isFirst, isSecond, isThird, isLast, Number.digitsValue, Nat.mul_comm]
      simp [readFourDigits, Cursor.eatMany, size, value]

theorem reads_unit_escape {digits : List Char} {char : Char}
    (isUnit : FourDigits digits char.toNat) : Reads readUnicodeEscape digits char := by
  intro rest position
  have valid : char.toNat < 0xD800 ∨ 0xDFFF < char.toNat ∧ char.toNat < 0x110000 := char.valid
  have notTrailing : isTrailing char.toNat = false := by
    simp only [isTrailing, Bool.and_eq_false_iff, decide_eq_false_iff_not]
    omega
  have notLeading : isLeading char.toNat = false := by
    simp only [isLeading, Bool.and_eq_false_iff, decide_eq_false_iff_not]
    omega
  simp only [readUnicodeEscape, reads_four isUnit rest position, bind, Except.bind,
    notTrailing, notLeading, Char.ofNat_toNat]
  rfl

/-- The code units of a character beyond the first 65536. -/
theorem surrogates_of_char {char : Char} (beyond : 0x10000 ≤ char.toNat) {leading trailing : Nat}
    (leadingUnit : leading = 0xD800 + (char.toNat - 0x10000) / 0x400)
    (trailingUnit : trailing = 0xDC00 + (char.toNat - 0x10000) % 0x400) :
    isTrailing leading = false ∧ isLeading leading = true ∧ isTrailing trailing = true ∧
      joinSurrogates leading trailing = char := by
  have valid : char.toNat < 0xD800 ∨ 0xDFFF < char.toNat ∧ char.toNat < 0x110000 := char.valid
  have same : 0x10000 + (leading - 0xD800) * 0x400 + (trailing - 0xDC00) = char.toNat := by omega
  refine ⟨?_, ?_, ?_, ?_⟩
  · simp only [isTrailing, Bool.and_eq_false_iff, decide_eq_false_iff_not]
    omega
  · simp only [isLeading, Bool.and_eq_true, decide_eq_true_eq]
    omega
  · simp only [isTrailing, Bool.and_eq_true, decide_eq_true_eq]
    omega
  · rw [joinSurrogates, same, Char.ofNat_toNat]

theorem reads_pair_escape {first second : List Char} {char : Char}
    (beyond : 0x10000 ≤ char.toNat)
    (leading : FourDigits first (0xD800 + (char.toNat - 0x10000) / 0x400))
    (trailing : FourDigits second (0xDC00 + (char.toNat - 0x10000) % 0x400)) :
    Reads readUnicodeEscape (first ++ '\\' :: 'u' :: second) char := by
  intro rest position
  obtain ⟨notTrailing, isLeading, isTrailing, joined⟩ := surrogates_of_char beyond rfl rfl
  have readFirst := reads_four leading ('\\' :: 'u' :: (second ++ rest)) position
  have readSecond := reads_four trailing rest
    (((position.afterAll first).after '\\').after 'u')
  simp only [readUnicodeEscape, List.append_assoc, List.cons_append, readFirst, bind, Except.bind,
    notTrailing, isLeading, readMark, if_true, Cursor.eat, readSecond, isTrailing, joined,
    after_all_append]
  rfl

theorem reads_simple_escape {letter char : Char} (notUnicode : letter ≠ 'u')
    (named : simpleEscape? letter = some char) :
    Reads readStringChar ['\\', letter] (some char) := by
  intro rest position
  simp only [readStringChar, readEscape, Cursor.eat, List.cons_append, List.nil_append,
    if_neg notUnicode, named]
  rfl

theorem reads_plain_char {char : Char} (notQuote : char ≠ '"') (notBackslash : char ≠ '\\')
    (shown : ¬ char.toNat < 0x20) : Reads readStringChar [char] (some char) := by
  intro rest position
  simp only [readStringChar, Cursor.eat, List.cons_append, List.nil_append, if_neg notQuote,
    if_neg notBackslash, if_neg shown]
  rfl

theorem named_escape {letter char : Char} (named : (letter, char) ∈ shortEscapes) :
    letter ≠ 'u' ∧ simpleEscape? letter = some char := by
  have all : ∀ escape ∈ shortEscapes, escape.1 ≠ 'u' ∧ simpleEscape? escape.1 = some escape.2 := by
    decide
  exact all _ named

/-- However a character is written, it is read. -/
theorem reads_char {text : List Char} {char : Char} (writes : WritesChar text char) :
    Reads readStringChar text (some char) := by
  cases writes with
  | plain notQuote notBackslash printed =>
      exact reads_plain_char notQuote notBackslash (Nat.not_lt.mpr printed)
  | short named => exact reads_simple_escape (named_escape named).1 (named_escape named).2
  | unit isUnit =>
      intro rest position
      have escape := reads_unit_escape isUnit rest ((position.after '\\').after 'u')
      simp only [readStringChar, readEscape, Cursor.eat, List.cons_append, escape]
      rfl
  | @pair first second _ beyond leading trailing =>
      intro rest position
      have escape := reads_pair_escape beyond leading trailing rest
        ((position.after '\\').after 'u')
      simp only [List.append_assoc, List.cons_append] at escape
      simp only [readStringChar, readEscape, Cursor.eat, List.append_assoc, List.cons_append,
        escape]
      rfl

/-- The step of the reader, free of what its termination needs. -/
theorem read_string_chars_eq (cursor : Cursor) :
    readStringChars cursor =
      match readStringChar cursor with
      | .error failure => .error failure
      | .ok (none, next) => .ok ([], next)
      | .ok (some char, next) =>
          match readStringChars next with
          | .error failure => .error failure
          | .ok (chars, last) => .ok (char :: chars, last) := by
  conv => lhs; rw [readStringChars]
  split
  · rename_i read
    simp only [read]
  · rename_i read
    simp only [read]
  · rename_i char next read
    cases others : readStringChars next with
    | error failure => simp only [read, others]
    | ok chars => simp only [read, others]

theorem reads_chars {text chars : List Char} (writes : WritesChars text chars) :
    Reads readStringChars (text ++ ['"']) chars := by
  induction writes with
  | nil =>
      intro rest position
      rw [read_string_chars_eq]
      rfl
  | @cons first others char chars writesFirst _ ih =>
      intro rest position
      have readFirst := reads_char writesFirst (others ++ ['"'] ++ rest) position
      have readOthers := ih rest (position.afterAll first)
      rw [List.append_assoc first, List.append_assoc first, read_string_chars_eq, readFirst,
        after_all_append]
      simp only [readOthers]

theorem reads_closed_string {inner : List Char} {string : String}
    (writes : WritesChars inner string.toList) : Reads readString (inner ++ ['"']) string := by
  intro rest position
  simp only [readString, reads_chars writes rest position, String.ofList_toList]

/-! Values. -/

theorem ok_bind_iff {First Second : Type} {read : Except Failure First}
    {next : First → Except Failure Second} {result : Second} :
    (read >>= next) = .ok result ↔ ∃ first, read = .ok first ∧ next first = .ok result := by
  cases read <;> simp [bind, Except.bind]

/-- A reader decodes what values denote: it accepts a value exactly if it denotes something, and
leaves what follows the value. -/
def Decodes {Result : Type} (read : Cursor → Except Failure (Result × Cursor))
    (Denotes : Value → Result → Prop) : Prop :=
  ∀ ⦃before text : List Char⦄ ⦃value : Value⦄, Spaces before → Writes text value →
    ∀ (rest : List Char) (position : Position) (result : Result) (cursor : Cursor),
      read ⟨before ++ (text ++ rest), position⟩ = .ok (result, cursor) ↔
        cursor = ⟨rest, (position.afterAll before).afterAll text⟩ ∧ Denotes value result

/-- Reads a value and wraps it. -/
def wrapping {Value Wrapped : Type} (wrap : Value → Wrapped)
    (read : Cursor → Except Failure (Value × Cursor)) (cursor : Cursor) :
    Except Failure (Wrapped × Cursor) :=
  (read cursor).map (Prod.map wrap id)

section

variable {Result Wrapped : Type} {wrap : Result → Wrapped}
  {read : Cursor → Except Failure (Result × Cursor)} {Denotes : Value → Result → Prop}

theorem bind_eq_wrapping (cursor : Cursor) :
    (do let (value, next) ← read cursor; return (wrap value, next)) =
      wrapping wrap read cursor := by
  rw [wrapping]
  cases read cursor <;> rfl

theorem wrapping_ok_iff {cursor next : Cursor} {wrapped : Wrapped} :
    wrapping wrap read cursor = .ok (wrapped, next) ↔
      ∃ value, read cursor = .ok (value, next) ∧ wrapped = wrap value := by
  simp only [← bind_eq_wrapping, ok_bind_iff, Prod.exists, pure, Except.pure, Except.ok.injEq,
    Prod.mk.injEq]
  constructor
  · rintro ⟨value, _, isRead, rfl, rfl⟩
    exact ⟨value, isRead, rfl⟩
  · rintro ⟨value, isRead, rfl⟩
    exact ⟨value, next, isRead, rfl, rfl⟩

theorem Decodes.of_iff {Denotes' : Value → Result → Prop} (decodes : Decodes read Denotes)
    (same : ∀ value result, Denotes value result ↔ Denotes' value result) :
    Decodes read Denotes' := by
  intro before text value spaces writes rest position result cursor
  rw [decodes spaces writes, same]

theorem Decodes.wrapped (wrap : Result → Wrapped) (decodes : Decodes read Denotes) :
    Decodes (wrapping wrap read) fun value wrapped =>
      ∃ result, Denotes value result ∧ wrapped = wrap result := by
  intro before text value spaces writes rest position wrapped cursor
  simp only [wrapping_ok_iff, decodes spaces writes, and_assoc, exists_and_left]

end

/-- What a reader finds behind the space is the first character of the value. -/
theorem skip_spaces_to_value {before text : List Char} {value : Value} (spaces : Spaces before)
    (writes : Writes text value) (rest : List Char) (position : Position) :
    ∃ char tail, text = char :: tail ∧ value.StartsWith char ∧
      Cursor.skipSpaces ⟨before ++ (text ++ rest), position⟩ =
        ⟨char :: (tail ++ rest), position.afterAll before⟩ := by
  obtain ⟨char, tail, rfl, starts⟩ := writes_starts writes
  refine ⟨char, tail, rfl, starts, ?_⟩
  rw [List.cons_append, skip_spaces_to_mark spaces char (mark_of_starts starts)]

theorem string_of_starts {value : Value} (starts : value.StartsWith '"') :
    ∃ string, value = .string string := by
  cases value <;> simp_all [Value.StartsWith, Number.isDecimalDigit]

theorem null_of_starts {value : Value} (starts : value.StartsWith 'n') : value = .null := by
  cases value <;> simp_all [Value.StartsWith, Number.isDecimalDigit]

theorem array_of_starts {value : Value} (starts : value.StartsWith '[') :
    ∃ items, value = .array items := by
  cases value <;> simp_all [Value.StartsWith, Number.isDecimalDigit]

theorem object_of_starts {value : Value} (starts : value.StartsWith '{') :
    ∃ members, value = .object members := by
  cases value <;> simp_all [Value.StartsWith, Number.isDecimalDigit]

theorem decodes_text (expected : String) :
    Decodes (readText expected) fun value text => value = .string text := by
  intro before text value spaces writes rest position result cursor
  obtain ⟨char, tail, isText, starts, skipped⟩ :=
    skip_spaces_to_value spaces writes rest position
  simp only [readText, skipped]
  split
  · rename_i isQuote
    cases isQuote
    obtain ⟨string, rfl⟩ := string_of_starts starts
    cases writes with
    | string writesString =>
        obtain ⟨inner, writesInner, same⟩ := writesString
        cases isText
        cases same
        have read := reads_closed_string writesInner rest ((position.afterAll before).after '"')
        simp only [Cursor.eat, read, Except.ok.injEq, Prod.mk.injEq, Value.string.injEq]
        exact and_comm.trans (and_congr_left' eq_comm)
  · rename_i isEmpty
    cases isEmpty
  · rename_i isOther _
    have notString : value ≠ .string result := by
      rintro rfl
      cases starts
      exact isOther _ rfl
    simp [notString]

theorem read_null_letters (rest : List Char) (position : Position) :
    readLiteral "null".toList ⟨'n' :: (['u', 'l', 'l'] ++ rest), position⟩ =
      .ok ⟨rest, position.afterAll ['n', 'u', 'l', 'l']⟩ := rfl

theorem read_null_iff (expected : String) {before text : List Char} {value : Value}
    (spaces : Spaces before) (writes : Writes text value) (rest : List Char)
    (position : Position) (cursor : Cursor) :
    readNull expected ⟨before ++ (text ++ rest), position⟩ = .ok cursor ↔
      cursor = ⟨rest, (position.afterAll before).afterAll text⟩ ∧ value = .null := by
  obtain ⟨char, tail, isText, starts, skipped⟩ :=
    skip_spaces_to_value spaces writes rest position
  simp only [readNull, skipped]
  split
  · rename_i isNull
    cases isNull
    cases null_of_starts starts
    cases writes with
    | null =>
        cases isText
        rw [read_null_letters, Except.ok.injEq, eq_comm, eq_self, and_true]
  · rename_i isEmpty
    cases isEmpty
  · rename_i isOther _
    have notNull : value ≠ .null := by
      rintro rfl
      cases starts
      exact isOther _ rfl
    simp [notNull]

/-- Null denotes nothing, and anything else what the reader says. -/
theorem decodes_optional {Result : Type} {read : Cursor → Except Failure (Result × Cursor)}
    {Denotes : Value → Result → Prop} (decodes : Decodes read Denotes)
    (nullDenotesNone : ∀ result, ¬ Denotes .null result) :
    Decodes (readOptional read) fun value result =>
      (value = .null ∧ result = none) ∨ ∃ inner, Denotes value inner ∧ result = some inner := by
  intro before text value spaces writes rest position result cursor
  obtain ⟨char, tail, isText, starts, skipped⟩ :=
    skip_spaces_to_value spaces writes rest position
  simp only [readOptional, skipped]
  split
  · rename_i isNull
    cases isNull
    cases null_of_starts starts
    cases writes with
    | null =>
        cases isText
        simp only [read_null_letters, ok_bind_iff, nullDenotesNone]
        simp [pure, Except.pure, and_comm, eq_comm]
  · rename_i isOther
    have notNull : value ≠ .null := by
      rintro rfl
      cases starts
      exact isOther _ rfl
    have decoded := decodes.wrapped some spaces_nil writes rest (position.afterAll before) result
      cursor
    rw [isText] at decoded
    simp only [bind_eq_wrapping, notNull, false_and, false_or, isText]
    exact decoded

/-! Lists of strings. -/

theorem enclosed_ok_iff {Result : Type} {close : Cursor → Closing}
    {content : Except Failure (Result × Cursor)} {result : Result} {cursor : Cursor} :
    enclosed close content = .ok (result, cursor) ↔
      ∃ stop, content = .ok (result, stop) ∧ close stop = ⟨cursor, none⟩ := by
  cases content with
  | error failure => cases failure <;> simp [enclosed]
  | ok taken =>
      obtain ⟨value, stop⟩ := taken
      simp only [enclosed, Except.ok.injEq, Prod.mk.injEq, and_assoc, exists_and_left,
        exists_eq_left']
      rcases close stop with ⟨after, _ | failure⟩ <;> simp

/-- An element is found behind the comma and the space that stand before it. -/
theorem next_element_of_item (isFirst : Bool) {before : List Char} (spaces : Spaces before)
    {item : Item} (writes : Writes item.text item.value) (rest : List Char)
    (position : Position) :
    nextElement isFirst
        ⟨before ++ (leadIn isFirst ++ (item.before ++ (item.text ++ rest))), position⟩ =
      .ok (some ⟨item.text ++ rest,
        ((position.afterAll before).afterAll (leadIn isFirst)).afterAll item.before⟩) := by
  obtain ⟨char, tail, isText, starts⟩ := writes_starts writes
  have notEnd := ne_end_of_starts starts
  have skipped := skip_spaces_to_mark item.spacesBefore char (mark_of_starts starts)
    (tail ++ rest)
  rw [isText, List.cons_append]
  cases isFirst with
  | true =>
      simp only [nextElement, leadIn, if_true, List.nil_append, skip_spaces_append spaces, skipped]
      rfl
  | false =>
      have atComma := skip_spaces_to_mark spaces ',' rfl
        (item.before ++ char :: (tail ++ rest)) position
      simp only [nextElement, leadIn, Bool.false_eq_true, if_false, List.cons_append,
        List.nil_append, atComma, Cursor.eat, skipped]
      simp [notEnd, Position.afterAll]

theorem read_items_iff {items : List Item}
    (each : ∀ item ∈ items, Writes item.text item.value) {gap : List Char} (isGap : Spaces gap)
    {bound : Nat} (enough : items.length ≤ bound) (isFirst : Bool) {before : List Char}
    (spaces : Spaces before) (rest : List Char) (position : Position) (texts : List String)
    (cursor : Cursor) :
    (∃ stop, readTextItems bound isFirst ⟨before ++ (listed isFirst (items.map Item.chars) ++
        (gap ++ ']' :: rest)), position⟩ = .ok (texts, stop) ∧ stop.skipSpaces = cursor) ↔
      cursor = ⟨']' :: rest, ((position.afterAll before).afterAll
        (listed isFirst (items.map Item.chars))).afterAll gap⟩ ∧
        items.map Item.value = texts.map Value.string := by
  induction items generalizing bound isFirst before position texts with
  | nil =>
      have skipped : Cursor.skipSpaces ⟨before ++ (gap ++ ']' :: rest), position⟩ =
          ⟨']' :: rest, (position.afterAll before).afterAll gap⟩ := by
        rw [skip_spaces_append spaces, skip_spaces_to_mark isGap ']' rfl]
      have stops : readTextItems bound isFirst ⟨before ++ (gap ++ ']' :: rest), position⟩ =
          .ok ([], ⟨before ++ (gap ++ ']' :: rest), position⟩) := by
        cases bound with
        | zero => rfl
        | succ bound =>
            simp only [readTextItems, nextElement, skipped]
            rfl
      simp only [List.map_nil, listed, List.nil_append, stops, Except.ok.injEq, Prod.mk.injEq,
        and_assoc, exists_and_left, exists_eq_left', skipped]
      rw [and_comm]
      simp [Position.afterAll, eq_comm]
  | cons item items ih =>
      obtain ⟨bound, rfl⟩ : ∃ fewer, bound = fewer + 1 :=
        Nat.exists_eq_succ_of_ne_zero (by rintro rfl; simp at enough)
      have fewer : items.length ≤ bound := by simpa using enough
      have writes := each item List.mem_cons_self
      have element := next_element_of_item isFirst spaces writes
        (item.after ++ (listed false (items.map Item.chars) ++ (gap ++ ']' :: rest))) position
      have text := decodes_text "a string" spaces_nil writes
        (item.after ++ (listed false (items.map Item.chars) ++ (gap ++ ']' :: rest)))
        (((position.afterAll before).afterAll (leadIn isFirst)).afterAll item.before)
      have others := ih (fun other later => each other (List.mem_cons_of_mem _ later)) fewer false
        item.spacesAfter
      simp only [List.nil_append, after_all_nil] at text
      simp only [List.map_cons, listed, Item.chars, List.append_assoc, after_all_append] at others ⊢
      simp only [readTextItems, element, ok_bind_iff, Except.ok.injEq, exists_eq_left', Prod.exists,
        text]
      constructor
      · rintro ⟨_, ⟨first, _, ⟨rfl, isText⟩, texts, _, readOthers, same⟩, stopped⟩
        cases same
        obtain ⟨rfl, areTexts⟩ := (others _ _).mp ⟨_, readOthers, stopped⟩
        simp [isText, areTexts]
      · rintro ⟨rfl, areTexts⟩
        cases texts with
        | nil => cases areTexts
        | cons first texts =>
            obtain ⟨isText, areTexts⟩ := List.cons.inj areTexts
            obtain ⟨stop, readOthers, stopped⟩ := (others _ texts).mpr ⟨rfl, areTexts⟩
            exact ⟨stop, ⟨first, _, ⟨rfl, isText⟩, texts, stop, readOthers, rfl⟩, stopped⟩

theorem length_le_listed_items {items : List Item}
    (each : ∀ item ∈ items, Writes item.text item.value) (isFirst : Bool) :
    items.length ≤ (listed isFirst (items.map Item.chars)).length := by
  induction items generalizing isFirst with
  | nil => exact Nat.zero_le _
  | cons item items ih =>
      have others := ih (fun other later => each other (List.mem_cons_of_mem _ later)) false
      obtain ⟨char, tail, isText, _⟩ := writes_starts (each item List.mem_cons_self)
      simp only [List.map_cons, listed, Item.chars, isText, List.length_append, List.length_cons]
      omega

theorem close_list_of_stop {stop : Cursor} {rest : List Char} {position : Position}
    (stopped : stop.skipSpaces = ⟨']' :: rest, position⟩) :
    closeList stop = ⟨⟨rest, position.after ']'⟩, none⟩ := by
  simp only [closeList, stopped, Cursor.eat]

theorem decodes_texts :
    Decodes readTexts fun value texts => value = .array (texts.map Value.string) := by
  intro before text value spaces writes rest position texts cursor
  obtain ⟨char, tail, isText, starts, skipped⟩ :=
    skip_spaces_to_value spaces writes rest position
  simp only [readTexts, skipped]
  split
  · rename_i isBracket
    cases isBracket
    obtain ⟨values, rfl⟩ := array_of_starts starts
    cases writes with
    | @array items gap isGap each =>
        cases isText
        simp only [Cursor.eat, List.append_assoc, List.cons_append, List.nil_append]
        have enough : items.length ≤
            (listed true (items.map Item.chars) ++ (gap ++ ']' :: rest)).length + 1 := by
          have := length_le_listed_items each true
          rw [List.length_append]
          omega
        have items := read_items_iff each isGap enough true spaces_nil rest
          ((position.afterAll before).after '[') texts
        rw [enclosed_ok_iff]
        constructor
        · rintro ⟨stop, readItems, closed⟩
          obtain ⟨stopped, areTexts⟩ := (items stop.skipSpaces).mp ⟨stop, readItems, rfl⟩
          rw [close_list_of_stop stopped] at closed
          cases closed
          simp [areTexts, Position.afterAll]
        · rintro ⟨rfl, areTexts⟩
          obtain ⟨stop, readItems, stopped⟩ := (items _).mpr ⟨rfl, Value.array.inj areTexts⟩
          refine ⟨stop, readItems, ?_⟩
          rw [close_list_of_stop stopped]
          simp [Position.afterAll]
  · rename_i isEmpty
    cases isEmpty
  · rename_i isOther _
    have notArray : value ≠ .array (texts.map Value.string) := by
      rintro rfl
      cases starts
      exact isOther _ rfl
    simp [notArray]

/-! Whole texts. -/

/-- A whole text is read as whatever its value denotes: the space after the value is all that is
left. -/
theorem read_whole_iff {Result : Type} {read : Cursor → Except Failure (Result × Cursor)}
    {Denoted : Result → Prop} {text : String} {item : Item} (isText : text.toList = item.chars)
    (taken : ∀ result cursor,
      read ⟨item.before ++ (item.text ++ item.after), .start⟩ = .ok (result, cursor) ↔
        cursor = ⟨item.after, (Position.start.afterAll item.before).afterAll item.text⟩ ∧
          Denoted result)
    (result : Result) : readWhole read text = .ok result ↔ Denoted result := by
  have whole : Cursor.ofText text = ⟨item.before ++ (item.text ++ item.after), .start⟩ := by
    rw [Cursor.ofText, isText, Item.chars, List.append_assoc]
  have skipped (position : Position) :
      (Cursor.skipSpaces ⟨item.after, position⟩).rest.isEmpty = true := by
    have atEnd := skip_spaces_append item.spacesAfter [] position
    rw [List.append_nil] at atEnd
    rw [atEnd]
    rfl
  simp only [readWhole, whole, ok_bind_iff, Prod.exists, taken]
  constructor
  · rintro ⟨other, cursor, ⟨rfl, denoted⟩, accepted⟩
    simp only [skipped, if_true] at accepted
    cases accepted
    exact denoted
  · intro denoted
    refine ⟨result, _, ⟨rfl, denoted⟩, ?_⟩
    simp only [skipped, if_true]
    rfl

/-- What a reader decodes of a whole JSON text. -/
theorem Decodes.whole {Result : Type} {read : Cursor → Except Failure (Result × Cursor)}
    {Denotes : Value → Result → Prop} (decodes : Decodes read Denotes) {text : String}
    {value : Value} (isJson : IsJson text value) (result : Result) :
    readWhole read text = .ok result ↔ Denotes value result := by
  obtain ⟨item, isText, rfl, writes⟩ := isJson
  exact read_whole_iff isText (decodes item.spacesBefore writes item.after .start) result

end AutomataRequest.Json
