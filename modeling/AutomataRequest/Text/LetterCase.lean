/-!
Comparison that ignores the case of the letters A to Z and of no other letter: a
long s is not an s, and a dotless i is not an i.
-/

namespace AutomataRequest.Text

def foldCase (chars : List Char) : List Char := chars.map Char.toLower

def sameLetters (left right : List Char) : Bool := foldCase left == foldCase right

theorem same_letters_iff (left right : List Char) :
    sameLetters left right = true ↔ foldCase left = foldCase right := by
  simp [sameLetters]

end AutomataRequest.Text
