import AutomataRequest.Number.Decimal

/-!
Styled texts. A text is made up of parts, each in a style of its own. Where styles are shown, a
part stands between the sequence that sets its style and the one that resets all styles; a part in
no style has no sequences, nor has any part where styles are not shown.
-/

namespace AutomataRequest.Text

inductive Color where
  | red
  | green
  | yellow
  | blue
  | purple
  deriving DecidableEq, Repr

def Color.code : Color → Nat
  | .red => 31
  | .green => 32
  | .yellow => 33
  | .blue => 34
  | .purple => 35

inductive Style where
  | none
  | dimmed
  | italic
  | colored (color : Color)
  deriving DecidableEq, Repr

def Style.code? : Style → Option Nat
  | .none => Option.none
  | .dimmed => some 2
  | .italic => some 3
  | .colored color => some color.code

def resetCode : Nat := 0

/-- What a terminal takes as the order to set a style. -/
def styleSequence (code : Nat) : String := "\x1b[" ++ Number.natText code ++ "m"

structure StyledPart where
  style : Style := .none
  text : String
  deriving DecidableEq, Repr

def StyledPart.written (part : StyledPart) (styled : Bool) : String :=
  match part.style.code? with
  | some code =>
      if styled then styleSequence code ++ part.text ++ styleSequence resetCode else part.text
  | none => part.text

@[simp] theorem StyledPart.written_unstyled (part : StyledPart) :
    part.written false = part.text := by
  unfold StyledPart.written
  cases part.style.code? <;> rfl

def writtenParts (parts : List StyledPart) (styled : Bool) : String :=
  String.join (parts.map fun part => part.written styled)

end AutomataRequest.Text
