import AutomataRequest.Json.ReadNumber
import AutomataRequest.Json.ReadText

/-!
Reading JSON values of known types. A value of another type is read far enough to name it.
A list or object is closed even after its content was refused, because a failure without a
position takes the one that is reached in this way.
-/

namespace AutomataRequest.Json

def readLiteral : List Char → Cursor → Except Failure Cursor
  | [], cursor => .ok cursor
  | letter :: letters, cursor =>
      match cursor.rest with
      | [] => .error (.here .endInValue cursor)
      | char :: _ =>
          if char = letter then readLiteral letters cursor.eat
          else .error (.next .expectedLiteral cursor)

/-- Reads a value that is not of the expected type; the content of a list or an object is
left unread. -/
def readFound (cursor : Cursor) : Except Failure (Found × Cursor) :=
  match cursor.rest with
  | 'n' :: _ => do return (.null, ← readLiteral "null".toList cursor)
  | 't' :: _ => do return (.boolean true, ← readLiteral "true".toList cursor)
  | 'f' :: _ => do return (.boolean false, ← readLiteral "false".toList cursor)
  | '"' :: _ => do
      let (text, cursor) ← readString cursor.eat
      return (.string text, cursor)
  | '[' :: _ => .ok (.sequence, cursor)
  | '{' :: _ => .ok (.map, cursor)
  | '-' :: _ => readNumber true cursor.eat
  | char :: _ =>
      if Number.isDecimalDigit char then readNumber false cursor
      else .error (.next .expectedValue cursor)
  | [] => .error (.next .expectedValue cursor)

def wrongType (expected : String) (cursor : Cursor) : Failure :=
  match readFound cursor with
  | .ok (found, cursor) => .here (.mismatch (.wrongType found expected)) cursor
  | .error failure => failure

def readText (expected : String) (cursor : Cursor) : Except Failure (String × Cursor) :=
  let cursor := cursor.skipSpaces
  match cursor.rest with
  | '"' :: _ => readString cursor.eat
  | [] => .error (.next .endInValue cursor)
  | _ => .error (wrongType expected cursor)

def readNull (expected : String) (cursor : Cursor) : Except Failure Cursor :=
  let cursor := cursor.skipSpaces
  match cursor.rest with
  | 'n' :: _ => readLiteral "null".toList cursor
  | [] => .error (.next .endInValue cursor)
  | _ => .error (wrongType expected cursor)

def readColon (cursor : Cursor) : Except Failure Cursor :=
  let cursor := cursor.skipSpaces
  match cursor.rest with
  | ':' :: _ => .ok cursor.eat
  | [] => .error (.next .endInObject cursor)
  | _ => .error (.next .expectedColon cursor)

/-- Null is no value; anything else is a value. -/
def readOptional {Value : Type} (read : Cursor → Except Failure (Value × Cursor))
    (cursor : Cursor) : Except Failure (Option Value × Cursor) :=
  let cursor := cursor.skipSpaces
  match cursor.rest with
  | 'n' :: _ => do return (none, ← readLiteral "null".toList cursor)
  | _ => do
      let (value, cursor) ← read cursor
      return (some value, cursor)

/-- The variant that bears a name exactly. -/
def variantNamed {Variant : Type} (variants : List Variant) (name : Variant → String)
    (text : String) (cursor : Cursor) : Except Failure Variant :=
  match variants.find? fun variant => name variant == text with
  | some variant => .ok variant
  | none => .error (.here (.mismatch (.unknownVariant text (variants.map name))) cursor)

def readVariantName {Variant : Type} (variants : List Variant) (name : Variant → String)
    (cursor : Cursor) : Except Failure (Variant × Cursor) := do
  let (text, cursor) ← readText "variant identifier" cursor
  let variant ← variantNamed variants name text cursor
  return (variant, cursor)

def readVariantEnd (cursor : Cursor) : Except Failure Cursor :=
  let cursor := cursor.skipSpaces
  match cursor.rest with
  | '}' :: _ => .ok cursor.eat
  | [] => .error (.here .endInObject cursor)
  | _ => .error (.here .expectedValue cursor)

/-- The key of a variant that is written as an object, with the cursor after its colon. -/
def readVariantKey {Variant : Type} (variants : List Variant) (name : Variant → String)
    (cursor : Cursor) : Except Failure (Variant × Cursor) :=
  let cursor := cursor.skipSpaces
  match cursor.rest with
  | '"' :: _ => do
      let (variant, cursor) ← readVariantName variants name cursor
      return (variant, ← readColon cursor)
  | '}' :: _ => .error (.next .expectedValue cursor)
  | [] => .error (.next .endInObject cursor)
  | _ => .error (.next .keyNotString cursor)

/-- Reads a variant, as its name or as an object whose only key is the name. `content` reads
the value of the key, and `alone` says what a name without an object is. -/
def readVariant {Variant Value : Type} (variants : List Variant) (name : Variant → String)
    (content : Variant → Cursor → Except Failure (Value × Cursor))
    (alone : Variant → Cursor → Except Failure (Value × Cursor))
    (cursor : Cursor) : Except Failure (Value × Cursor) :=
  let cursor := cursor.skipSpaces
  match cursor.rest with
  | '{' :: _ => do
      let (variant, cursor) ← readVariantKey variants name cursor.eat
      let (value, cursor) ← content variant cursor
      return (value, ← readVariantEnd cursor)
  | '"' :: _ => do
      let (variant, cursor) ← readVariantName variants name cursor
      alone variant cursor
  | [] => .error (.next .endInValue cursor)
  | _ => .error (.next .expectedValue cursor)

/-- A variant that is a name and nothing else: in an object its value is null. -/
def readName {Variant : Type} (variants : List Variant) (name : Variant → String) :
    Cursor → Except Failure (Variant × Cursor) :=
  readVariant variants name
    (fun variant cursor => do return (variant, ← readNull "unit" cursor))
    (fun variant cursor => .ok (variant, cursor))

/-- A cursor at the next element of a list, or none at the closing bracket. -/
def nextElement (isFirst : Bool) (cursor : Cursor) : Except Failure (Option Cursor) :=
  let cursor := cursor.skipSpaces
  match cursor.rest with
  | [] => .error (.next .endInList cursor)
  | ']' :: _ => .ok none
  | char :: _ =>
      if isFirst then .ok (some cursor)
      else if char = ',' then
        let cursor := cursor.eat.skipSpaces
        match cursor.rest with
        | [] => .error (.next .endInValue cursor)
        | ']' :: _ => .error (.next .trailingComma cursor)
        | _ => .ok (some cursor)
      else .error (.next .expectedListEnd cursor)

/-- The next key of an object with the cursor after it, or none at the closing brace. -/
def nextKey (isFirst : Bool) (cursor : Cursor) : Except Failure (Option String × Cursor) :=
  let key (cursor : Cursor) : Except Failure (Option String × Cursor) := do
    let (text, cursor) ← readString cursor.eat
    return (some text, cursor)
  let cursor := cursor.skipSpaces
  match cursor.rest with
  | [] => .error (.next .endInObject cursor)
  | '}' :: _ => .ok (none, cursor)
  | char :: _ =>
      if isFirst then
        if char = '"' then key cursor else .error (.next .keyNotString cursor)
      else if char = ',' then
        let cursor := cursor.eat.skipSpaces
        match cursor.rest with
        | [] => .error (.next .endInValue cursor)
        | '"' :: _ => key cursor
        | '}' :: _ => .error (.next .trailingComma cursor)
        | _ => .error (.next .keyNotString cursor)
      else .error (.next .expectedObjectEnd cursor)

/-- What closing a list or an object comes to, and the cursor it leaves in either case. -/
structure Closing where
  cursor : Cursor
  failure : Option Failure

def closeList (cursor : Cursor) : Closing :=
  let cursor := cursor.skipSpaces
  match cursor.rest with
  | ']' :: _ => ⟨cursor.eat, none⟩
  | ',' :: _ =>
      let cursor := cursor.eat.skipSpaces
      match cursor.rest with
      | ']' :: _ => ⟨cursor, some (.next .trailingComma cursor)⟩
      | _ => ⟨cursor, some (.next .trailingCharacters cursor)⟩
  | [] => ⟨cursor, some (.next .endInList cursor)⟩
  | _ => ⟨cursor, some (.next .trailingCharacters cursor)⟩

def closeObject (cursor : Cursor) : Closing :=
  let cursor := cursor.skipSpaces
  match cursor.rest with
  | '}' :: _ => ⟨cursor.eat, none⟩
  | ',' :: _ => ⟨cursor, some (.next .trailingComma cursor)⟩
  | [] => ⟨cursor, some (.next .endInObject cursor)⟩
  | _ => ⟨cursor, some (.next .trailingCharacters cursor)⟩

/-- Closes a list or an object after its content. A failure of the content comes first and is
placed where closing has led. -/
def enclosed {Value : Type} (close : Cursor → Closing)
    (content : Except Failure (Value × Cursor)) : Except Failure (Value × Cursor) :=
  match content with
  | .ok (value, cursor) =>
      let closing := close cursor
      match closing.failure with
      | none => .ok (value, closing.cursor)
      | some failure => .error failure
  | .error (.unplaced cause cursor) => .error (.here cause (close cursor).cursor)
  | .error failure => .error failure

/-- Reads the texts of a list up to its closing bracket; `bound` is at least their number. -/
def readTextItems : Nat → Bool → Cursor → Except Failure (List String × Cursor)
  | 0, _, cursor => .ok ([], cursor)
  | bound + 1, isFirst, cursor => do
      match ← nextElement isFirst cursor with
      | none => return ([], cursor)
      | some cursor =>
          let (text, cursor) ← readText "a string" cursor
          let (texts, cursor) ← readTextItems bound false cursor
          return (text :: texts, cursor)

/-- Reads a list of texts. A text takes more than one character, so their number is bounded by
what is left. -/
def readTexts (cursor : Cursor) : Except Failure (List String × Cursor) :=
  let cursor := cursor.skipSpaces
  match cursor.rest with
  | '[' :: rest => enclosed closeList (readTextItems (rest.length + 1) true cursor.eat)
  | [] => .error (.next .endInValue cursor)
  | _ => .error (wrongType "a sequence" cursor)

def readWhole {Value : Type} (read : Cursor → Except Failure (Value × Cursor))
    (text : String) : Except Failure Value := do
  let (value, cursor) ← read (Cursor.ofText text)
  let cursor := cursor.skipSpaces
  if cursor.rest.isEmpty then return value
  else .error (.next .trailingCharacters cursor)

end AutomataRequest.Json
