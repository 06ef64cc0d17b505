import AutomataRequest.Number.Decimal
import AutomataRequest.Text.Quoted

/-!
Values that do not fit. A text may be well formed and still hold a value of the wrong type, a
name that is not known or a key too many; the wording is the same in every format.
-/

namespace AutomataRequest

/-- What stands where something else was expected. -/
inductive Found where
  | null
  | boolean (value : Bool)
  | integer (value : Int)
  | floating (value : Number.Binary64)
  | string (value : String)
  | sequence
  | map
  | unitVariant
  deriving DecidableEq, Repr

/-- Formats differ only in how they write a floating point number. -/
def Found.description (style : Number.FloatStyle) : Found → String
  | .null => "null"
  | .boolean true => "boolean `true`"
  | .boolean false => "boolean `false`"
  | .integer value => "integer `" ++ Number.intText value ++ "`"
  | .floating value => "floating point `" ++ style.text value ++ "`"
  | .string value => "string " ++ Text.quote value
  | .sequence => "sequence"
  | .map => "map"
  | .unitVariant => "unit variant"

/-- Names in backquotes, as a choice. -/
def nameChoice : List String → String
  | [] => ""
  | [only] => "`" ++ only ++ "`"
  | [first, second] => "`" ++ first ++ "` or `" ++ second ++ "`"
  | names => "one of " ++ ", ".intercalate (names.map fun name => "`" ++ name ++ "`")

inductive Mismatch where
  | unknownVariant (found : String) (expected : List String)
  | unknownField (found : String) (expected : List String)
  | duplicateField (name : String)
  | missingField (name : String)
  | tooFewElements (count : Nat) (expected : String)
  | wrongType (found : Found) (expected : String)
  deriving DecidableEq, Repr

def Mismatch.message (style : Number.FloatStyle) : Mismatch → String
  | .unknownVariant found expected =>
      "unknown variant `" ++ found ++ "`, expected " ++ nameChoice expected
  | .unknownField found expected =>
      "unknown field `" ++ found ++ "`, expected " ++ nameChoice expected
  | .duplicateField name => "duplicate field `" ++ name ++ "`"
  | .missingField name => "missing field `" ++ name ++ "`"
  | .tooFewElements count expected =>
      "invalid length " ++ Number.natText count ++ ", expected " ++ expected
  | .wrongType found expected =>
      "invalid type: " ++ found.description style ++ ", expected " ++ expected

end AutomataRequest
