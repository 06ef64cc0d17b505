/-!
The length of texts in bytes of UTF-8, in which places in a text are told.
-/

namespace AutomataRequest.Text

def byteCount : List Char → Nat
  | [] => 0
  | char :: rest => char.utf8Size + byteCount rest

end AutomataRequest.Text
