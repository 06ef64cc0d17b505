import AutomataRequest.Json.Cursor
import AutomataRequest.Mismatch

/-!
Why a JSON text is refused. A failure has a cause and, nearly always, a position; one that is
noticed only once a value has been read gets its position from the value that encloses it.
-/

namespace AutomataRequest.Json

/-- Numbers with an exponent of the first digit from -5 to 15 are written without an exponent,
and a halfway digit goes to the even neighbour. -/
def floatStyle : Number.FloatStyle := ⟨some (-5), some 15, .toEven⟩

inductive Cause where
  | endInValue
  | endInList
  | endInObject
  | endInString
  | expectedColon
  | expectedListEnd
  | expectedObjectEnd
  | expectedValue
  | expectedLiteral
  | trailingComma
  | trailingCharacters
  | keyNotString
  | controlCharacter
  | invalidEscape
  | loneSurrogate
  | unfinishedSurrogate
  | invalidNumber
  | numberOutOfRange
  | mismatch (value : Mismatch)
  deriving DecidableEq, Repr

def Cause.message : Cause → String
  | .endInValue => "EOF while parsing a value"
  | .endInList => "EOF while parsing a list"
  | .endInObject => "EOF while parsing an object"
  | .endInString => "EOF while parsing a string"
  | .expectedColon => "expected `:`"
  | .expectedListEnd => "expected `,` or `]`"
  | .expectedObjectEnd => "expected `,` or `\x7d`"
  | .expectedValue => "expected value"
  | .expectedLiteral => "expected ident"
  | .trailingComma => "trailing comma"
  | .trailingCharacters => "trailing characters"
  | .keyNotString => "key must be a string"
  | .controlCharacter => "control character (\\u0000-\\u001F) found while parsing a string"
  | .invalidEscape => "invalid escape"
  | .loneSurrogate => "lone leading surrogate in hex escape"
  | .unfinishedSurrogate => "unexpected end of hex escape"
  | .invalidNumber => "invalid number"
  | .numberOutOfRange => "number out of range"
  | .mismatch value => value.message floatStyle

/-- An unplaced failure keeps the cursor, so that the enclosing value can place it. -/
inductive Failure where
  | placed (cause : Cause) (position : Position)
  | unplaced (cause : Cause) (cursor : Cursor)
  deriving DecidableEq, Repr

namespace Failure

/-- A failure at what has been read. -/
def here (cause : Cause) (cursor : Cursor) : Failure := .placed cause cursor.position

/-- A failure at the byte that comes next. -/
def next (cause : Cause) (cursor : Cursor) : Failure := .placed cause cursor.nextByte

def message : Failure → String
  | .placed cause position =>
      cause.message ++ " at line " ++ Number.natText position.line ++ " column " ++
        Number.natText position.column
  | .unplaced cause _ => cause.message

end Failure

abbrev Read (Value : Type) := Except Failure (Value × Cursor)

end AutomataRequest.Json
