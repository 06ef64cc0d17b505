import AutomataRequest.Json.CommandText
import AutomataRequest.Proofs.Json.Decoding

/-!
# What the readers of names take

A name stands alone or is the only key of an object. The reader of a variant takes either, so it
decodes what values name; options are such an object with a name under the key of their kind.
-/

namespace AutomataRequest.Json

/-- Names tell the variants of a list apart, and every variant is in the list. -/
def FindsByName {Variant : Type} (variants : List Variant) (name : Variant → String) : Prop :=
  ∀ variant, (variants.find? fun other => name other == name variant) = some variant

theorem encodings_by_name : FindsByName Encoding.all Encoding.name := by
  intro encoding
  cases encoding <;> rfl

theorem operations_by_name : FindsByName Operation.all Operation.name := by
  intro operation
  cases operation <;> rfl

theorem directions_by_name : FindsByName Direction.all Direction.name := by
  intro direction
  cases direction <;> rfl

theorem orders_by_name : FindsByName Order.all Order.name := by
  intro order
  cases order <;> rfl

theorem options_kinds_by_name : FindsByName OptionsKind.all OptionsKind.name := by
  intro kind
  cases kind <;> rfl

/-- A name stands alone or is the only key of an object, with null under it. -/
def Value.Names (value : Value) (name : String) : Prop :=
  value = .string name ∨ value = .object [(name, .null)]

/-- Options are an object whose only key is their kind. -/
def Value.IsOptions (value : Value) (options : Options) : Prop :=
  ∃ inner : Value, value = .object [(options.kind.name, inner)] ∧ inner.Names options.valueName

theorem read_colon_behind {spaces : List Char} (isSpace : Spaces spaces) (rest : List Char)
    (position : Position) :
    readColon ⟨spaces ++ ':' :: rest, position⟩ =
      .ok ⟨rest, (position.afterAll spaces).after ':'⟩ := by
  simp only [readColon, skip_spaces_to_mark isSpace ':' rfl, Cursor.eat]

section

variable {Variant Result : Type} {variants : List Variant} {name : Variant → String}

theorem variant_named_ok_iff (finds : FindsByName variants name) {text : String}
    {cursor : Cursor} {variant : Variant} :
    variantNamed variants name text cursor = .ok variant ↔ text = name variant := by
  constructor
  · intro isNamed
    rw [variantNamed] at isNamed
    split at isNamed
    · rename_i found
      cases isNamed
      have sameName := List.find?_some found
      exact (beq_iff_eq.mp sameName).symm
    · cases isNamed
  · rintro rfl
    simp only [variantNamed, finds variant]

theorem decodes_variant_name (finds : FindsByName variants name) :
    Decodes (readVariantName variants name) fun value variant =>
      value = .string (name variant) := by
  intro before text value spaces writes rest position variant cursor
  simp only [readVariantName, ok_bind_iff, Prod.exists, decodes_text _ spaces writes,
    variant_named_ok_iff finds, pure, Except.pure, Except.ok.injEq, Prod.mk.injEq]
  constructor
  · rintro ⟨_, _, ⟨rfl, rfl⟩, _, rfl, rfl, rfl⟩
    exact ⟨rfl, rfl⟩
  · rintro ⟨rfl, rfl⟩
    exact ⟨_, _, ⟨rfl, rfl⟩, _, rfl, rfl, rfl⟩

theorem read_variant_key_iff (finds : FindsByName variants name) {entry : Entry}
    (writesKey : WritesString entry.keyText entry.key) (rest : List Char) (position : Position)
    (variant : Variant) (cursor : Cursor) :
    readVariantKey variants name ⟨entry.keyChars ++ rest, position⟩ = .ok (variant, cursor) ↔
      cursor = ⟨rest, position.afterAll entry.keyChars⟩ ∧ entry.key = name variant := by
  have named := decodes_variant_name finds spaces_nil (.string writesKey)
    (entry.after ++ ':' :: rest) (position.afterAll entry.before)
  obtain ⟨inner, _, isKey⟩ := writesKey
  have skipped := skip_spaces_to_mark entry.spacesBefore '"' rfl
    (inner ++ ['"'] ++ (entry.after ++ ':' :: rest)) position
  simp only [readVariantKey, Entry.keyChars, isKey, List.append_assoc, List.cons_append,
    List.nil_append] at skipped named ⊢
  simp only [skipped, ok_bind_iff, Prod.exists, named, Value.string.injEq]
  constructor
  · rintro ⟨_, _, ⟨rfl, sameName⟩, _, colon, same⟩
    rw [read_colon_behind entry.spacesAfter] at colon
    cases colon
    cases same
    simp [sameName, Position.afterAll]
  · rintro ⟨rfl, sameName⟩
    refine ⟨_, _, ⟨rfl, sameName⟩, _, read_colon_behind entry.spacesAfter _ _, ?_⟩
    simp [pure, Except.pure, Position.afterAll]

/-- The object of a variant ends behind its only member. -/
theorem read_variant_end_iff {spaces gap : List Char} (isSpace : Spaces spaces)
    (isGap : Spaces gap) (items : List (List Char)) (rest : List Char) (position : Position)
    (cursor : Cursor) :
    readVariantEnd ⟨spaces ++ (listed false items ++ (gap ++ '}' :: rest)), position⟩ =
        .ok cursor ↔
      cursor = ⟨rest, ((position.afterAll spaces).afterAll gap).after '}'⟩ ∧ items = [] := by
  cases items with
  | nil =>
      have skipped : Cursor.skipSpaces ⟨spaces ++ (gap ++ '}' :: rest), position⟩ =
          ⟨'}' :: rest, (position.afterAll spaces).afterAll gap⟩ := by
        rw [skip_spaces_append isSpace, skip_spaces_to_mark isGap '}' rfl]
      simp [readVariantEnd, listed, skipped, Cursor.eat, eq_comm]
  | cons item items =>
      have skipped := skip_spaces_to_mark isSpace ',' rfl
        (item ++ (listed false items ++ (gap ++ '}' :: rest))) position
      simp [readVariantEnd, listed, leadIn, skipped]

theorem read_variant_members_iff (finds : FindsByName variants name)
    {content : Variant → Cursor → Except Failure (Result × Cursor)}
    {Content : Variant → Value → Result → Prop}
    (decodesContent : ∀ variant, Decodes (content variant) (Content variant))
    {entries : List Entry} {gap : List Char} (isGap : Spaces gap)
    (keys : ∀ entry ∈ entries, WritesString entry.keyText entry.key)
    (each : ∀ entry ∈ entries, Writes entry.item.text entry.item.value)
    (rest : List Char) (position : Position) (result : Result) (cursor : Cursor) :
    (do
        let (variant, cursor) ← readVariantKey variants name
          ⟨listed true (entries.map Entry.chars) ++ (gap ++ '}' :: rest), position⟩
        let (value, cursor) ← content variant cursor
        return (value, ← readVariantEnd cursor)) = .ok (result, cursor) ↔
      cursor = ⟨rest, ((position.afterAll (listed true (entries.map Entry.chars))).afterAll
        gap).after '}'⟩ ∧
        ∃ variant inner, entries.map Entry.member = [(name variant, inner)] ∧
          Content variant inner result := by
  cases entries with
  | nil =>
      have skipped := skip_spaces_to_mark isGap '}' rfl rest position
      simp [readVariantKey, listed, skipped, bind, Except.bind]
  | cons entry entries =>
      have key := read_variant_key_iff finds (keys entry List.mem_cons_self)
        (entry.item.chars ++ (listed false (entries.map Entry.chars) ++ (gap ++ '}' :: rest)))
        position
      have value (variant : Variant) := decodesContent variant entry.item.spacesBefore
        (each entry List.mem_cons_self)
        (entry.item.after ++ (listed false (entries.map Entry.chars) ++ (gap ++ '}' :: rest)))
        (position.afterAll entry.keyChars)
      have ends := read_variant_end_iff entry.item.spacesAfter isGap (entries.map Entry.chars) rest
      simp only [List.map_cons, listed, leadIn, if_true, List.nil_append, Entry.chars, Item.chars,
        List.append_assoc] at key value ends ⊢
      simp only [ok_bind_iff, Prod.exists, key]
      constructor
      · rintro ⟨variant, _, ⟨rfl, sameName⟩, _, _, isValue, _, isEnd, same⟩
        obtain ⟨rfl, denotes⟩ := (value variant _ _).mp isValue
        obtain ⟨rfl, isLast⟩ := (ends _ _).mp isEnd
        cases same
        cases List.map_eq_nil_iff.mp isLast
        refine ⟨?_, variant, entry.item.value, ?_, denotes⟩
        · simp [listed, Position.afterAll]
        · simp [Entry.member, sameName]
      · rintro ⟨rfl, variant, inner, isMember, denotes⟩
        simp only [Entry.member, List.cons.injEq, Prod.mk.injEq, List.map_eq_nil_iff] at isMember
        obtain ⟨⟨sameName, rfl⟩, rfl⟩ := isMember
        refine ⟨variant, _, ⟨rfl, sameName⟩, _, _, (value variant _ _).mpr ⟨rfl, denotes⟩, _,
          (ends _ _).mpr ⟨rfl, rfl⟩, ?_⟩
        simp [listed, Position.afterAll, pure, Except.pure]

/-- A variant stands alone or is the only key of an object. -/
theorem decodes_variant (finds : FindsByName variants name)
    {content alone : Variant → Cursor → Except Failure (Result × Cursor)}
    {Content : Variant → Value → Result → Prop} {Alone : Variant → Result → Prop}
    (decodesContent : ∀ variant, Decodes (content variant) (Content variant))
    (acceptsAlone : ∀ variant cursor result next,
      alone variant cursor = .ok (result, next) ↔ next = cursor ∧ Alone variant result) :
    Decodes (readVariant variants name content alone) fun value result =>
      ∃ variant, (value = .string (name variant) ∧ Alone variant result) ∨
        ∃ inner, value = .object [(name variant, inner)] ∧ Content variant inner result := by
  intro before text value spaces writes rest position result cursor
  obtain ⟨char, tail, isText, starts, skipped⟩ :=
    skip_spaces_to_value spaces writes rest position
  simp only [readVariant, skipped]
  split
  · -- An object.
    rename_i isBrace
    cases isBrace
    obtain ⟨members, rfl⟩ := object_of_starts starts
    cases writes with
    | @object entries gap isGap keys each =>
        cases isText
        have inside := read_variant_members_iff finds decodesContent isGap keys each rest
          ((position.afterAll before).after '{') result cursor
        simp only [Cursor.eat, List.append_assoc, List.cons_append, List.nil_append]
        rw [inside]
        simp [Position.afterAll]
  · -- A name.
    rename_i isQuote
    cases isQuote
    obtain ⟨string, rfl⟩ := string_of_starts starts
    have named := decodes_variant_name finds spaces_nil writes rest
      (position.afterAll before)
    simp only [isText, List.nil_append, List.cons_append] at named
    simp only [ok_bind_iff, Prod.exists, named, acceptsAlone, isText]
    constructor
    · rintro ⟨variant, _, ⟨rfl, isName⟩, rfl, denotes⟩
      exact ⟨rfl, variant, .inl ⟨isName, denotes⟩⟩
    · rintro ⟨rfl, variant, ⟨isName, denotes⟩ | ⟨_, isObject, _⟩⟩
      · exact ⟨variant, _, ⟨rfl, isName⟩, rfl, denotes⟩
      · cases isObject
  · rename_i isEmpty
    cases isEmpty
  · rename_i notBrace notQuote _
    have noVariant : ¬ ∃ variant, (value = .string (name variant) ∧ Alone variant result) ∨
        ∃ inner, value = .object [(name variant, inner)] ∧ Content variant inner result := by
      rintro ⟨_, ⟨rfl, _⟩ | ⟨_, rfl, _⟩⟩
      · cases starts
        exact notQuote _ rfl
      · cases starts
        exact notBrace _ rfl
    simp [noVariant]

theorem decodes_name (finds : FindsByName variants name) :
    Decodes (readName variants name) fun value variant => value.Names (name variant) := by
  have decodesNothing (variant : Variant) :
      Decodes (fun cursor => do return (variant, ← readNull "unit" cursor))
        fun value result => value = .null ∧ result = variant := by
    intro before text value spaces writes rest position result cursor
    simp only [ok_bind_iff, read_null_iff _ spaces writes, pure, Except.pure, Except.ok.injEq,
      Prod.mk.injEq]
    constructor
    · rintro ⟨_, ⟨rfl, isNull⟩, rfl, rfl⟩
      exact ⟨rfl, isNull, rfl⟩
    · rintro ⟨rfl, isNull, rfl⟩
      exact ⟨_, ⟨rfl, isNull⟩, rfl, rfl⟩
  have acceptsAlone (variant : Variant) (cursor : Cursor) (result : Variant) (next : Cursor) :
      (.ok (variant, cursor) : Read Variant) = .ok (result, next) ↔
        next = cursor ∧ result = variant := by
    simp [and_comm, eq_comm]
  refine (decodes_variant finds decodesNothing acceptsAlone).of_iff ?_
  intro value result
  constructor
  · rintro ⟨_, ⟨isName, rfl⟩ | ⟨_, isObject, rfl, rfl⟩⟩
    · exact .inl isName
    · exact .inr isObject
  · rintro (isName | isObject)
    · exact ⟨result, .inl ⟨isName, rfl⟩⟩
    · exact ⟨result, .inr ⟨_, isObject, rfl, rfl⟩⟩

end

theorem decodes_direction :
    Decodes readDirection fun value direction => value.Names direction.name :=
  decodes_name directions_by_name

theorem decodes_order : Decodes readOrder fun value order => value.Names order.name :=
  decodes_name orders_by_name

/-- The values under the name of a kind. -/
theorem decodes_options_of_kind (kind : OptionsKind) :
    Decodes (fun cursor => match kind with
      | .direction => wrapping Options.direction readDirection cursor
      | .order => wrapping Options.order readOrder cursor)
      fun value options => options.kind = kind ∧ value.Names options.valueName := by
  cases kind with
  | direction =>
      refine (decodes_direction.wrapped Options.direction).of_iff ?_
      intro value options
      constructor
      · rintro ⟨direction, named, rfl⟩
        exact ⟨rfl, named⟩
      · rintro ⟨isKind, named⟩
        cases options with
        | direction direction => exact ⟨direction, named, rfl⟩
        | order => cases isKind
  | order =>
      refine (decodes_order.wrapped Options.order).of_iff ?_
      intro value options
      constructor
      · rintro ⟨order, named, rfl⟩
        exact ⟨rfl, named⟩
      · rintro ⟨isKind, named⟩
        cases options with
        | direction => cases isKind
        | order order => exact ⟨order, named, rfl⟩

theorem decodes_options :
    Decodes readOptions fun value options => value.IsOptions options := by
  have refusesAlone (kind : OptionsKind) (cursor : Cursor) (options : Options) (next : Cursor) :
      (.error (.unplaced (.mismatch (.wrongType .unitVariant "newtype variant")) cursor) :
        Read Options) = .ok (options, next) ↔ next = cursor ∧ False := by
    simp
  have decodes := decodes_variant options_kinds_by_name decodes_options_of_kind refusesAlone
  have sameReader : readOptions = readVariant OptionsKind.all OptionsKind.name _ _ := rfl
  simp only [bind_eq_wrapping] at sameReader
  rw [sameReader]
  refine decodes.of_iff ?_
  intro value options
  constructor
  · rintro ⟨_, ⟨_, isFalse⟩ | ⟨inner, isObject, rfl, named⟩⟩
    · exact isFalse.elim
    · exact ⟨inner, isObject, named⟩
  · rintro ⟨inner, isObject, named⟩
    exact ⟨_, .inr ⟨inner, isObject, rfl, named⟩⟩

end AutomataRequest.Json
