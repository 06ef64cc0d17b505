import AutomataRequest.Encoding
import AutomataRequest.Operation
import AutomataRequest.Fault
import AutomataRequest.Text.Blank
import AutomataRequest.Text.LetterCase

/-!
Reading a variant back from a text. A variant has a few spellings; blanks around the text and
the case of its ASCII letters do not matter, and a text that spells nothing is reported as it
was given, blanks included.
-/

namespace AutomataRequest

namespace Lookup

/-- The text without its outer blanks is the spelling, up to the case of ASCII letters. -/
def spells (text spelling : String) : Bool :=
  Text.sameLetters spelling.toList (Text.trim text.toList)

/-- The first of the variants that has the text among its spellings. -/
def find? {Variant : Type} (variants : List Variant) (spellings : Variant → List String)
    (text : String) : Option Variant :=
  variants.find? fun variant => (spellings variant).any (spells text)

end Lookup

namespace Encoding

def spellings (encoding : Encoding) : List String := [encoding.token, encoding.name]

def ofText (text : String) : Except Fault Encoding :=
  match Lookup.find? all spellings text with
  | some encoding => .ok encoding
  | none => .error (.unknownEncoding text)

end Encoding

namespace Operation

def spellings (operation : Operation) : List String := [operation.token, operation.name]

def ofText (text : String) : Except Fault Operation :=
  match Lookup.find? all spellings text with
  | some operation => .ok operation
  | none => .error (.unknownOperation text)

end Operation

namespace Direction

/-- A direction may be given by a token of either table, whatever the encoding. -/
def spellings (direction : Direction) : List String :=
  [direction.automatonToken, direction.treeToken, direction.name]

def ofText (text : String) : Except Fault Direction :=
  match Lookup.find? all spellings text with
  | some direction => .ok direction
  | none => .error (.unknownDirection text)

end Direction

namespace Order

def spellings (order : Order) : List String := [order.token, order.name]

def ofText (text : String) : Except Fault Order :=
  match Lookup.find? all spellings text with
  | some order => .ok order
  | none => .error (.unknownOrder text)

end Order

end AutomataRequest
