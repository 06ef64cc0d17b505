/-!
Blank characters and trimming. Blank means the Unicode property White_Space, 25
characters in all, so a no-break space and a line separator are blank as well.
-/

namespace AutomataRequest.Text

def isBlank (char : Char) : Bool :=
  let code := char.toNat
  (0x09 ≤ code && code ≤ 0x0D) || code == 0x20 || code == 0x85 || code == 0xA0 ||
    code == 0x1680 || (0x2000 ≤ code && code ≤ 0x200A) || code == 0x2028 || code == 0x2029 ||
    code == 0x202F || code == 0x205F || code == 0x3000

def trimLeading (chars : List Char) : List Char := chars.dropWhile isBlank

/-- Drops the blanks at both ends and keeps those inside. -/
def trim (chars : List Char) : List Char :=
  (trimLeading (trimLeading chars).reverse).reverse

def isAllBlank (text : String) : Bool := text.toList.all isBlank

end AutomataRequest.Text
