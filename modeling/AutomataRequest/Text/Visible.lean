/-!
Texts as a terminal without styles shows them. Escape sequences are left out, control characters
too, and blanks stay wherever they are shown. A blank inside a sequence is shown, and so is
what follows it up to the next hidden character, where the sequence goes on.
-/

namespace AutomataRequest.Text

/-- What may come next in an escape sequence. -/
inductive EscapePart where
  | outside
  /-- The character that tells what kind of sequence it is. -/
  | kind
  /-- The last character of a short sequence. -/
  | last
  /-- The rest of a control sequence, up to its letter. -/
  | control
  /-- The parameters of a device text. -/
  | deviceStart
  | deviceParameters
  | deviceMarks
  /-- A text that a terminator byte ends. -/
  | hiddenText
  /-- The text of a title, which a bell ends. -/
  | title
  deriving DecidableEq, Repr

def isEscape (char : Char) : Bool := char.toNat == 27

/-- These two break off every sequence. -/
def isCancel (char : Char) : Bool := char.toNat == 24 || char.toNat == 26

def isBell (char : Char) : Bool := char.toNat == 7

def isBeyondAscii (char : Char) : Bool := 128 ≤ char.toNat

def isBetween (first last : Char) (char : Char) : Bool := first ≤ char && char ≤ last

def isBlankControl (char : Char) : Bool :=
  char == '\t' || char == '\n' || char == '\x0c' || char == '\r'

def isShown (char : Char) : Bool :=
  isBeyondAscii char || isBetween ' ' '~' char || isBlankControl char

/-- One of the bytes of the character is the terminator of a hidden text. -/
def hasTerminator (char : Char) : Bool := (String.utf8EncodeChar char).contains 0x9C

namespace EscapePart

def afterKind (char : Char) : EscapePart :=
  if char = '[' then control
  else if char = ']' then title
  else if char = 'P' then deviceStart
  else if char = 'X' || char = '^' || char = '_' then hiddenText
  else if isBetween ' ' '/' char then last
  else if isBetween '0' '~' char then outside
  else kind

/-- The part after a character that a sequence takes in. -/
def next (part : EscapePart) (char : Char) : EscapePart :=
  if isEscape char then kind
  else if isCancel char then outside
  else match part with
    | outside => outside
    | kind => afterKind char
    | last => if isBetween '0' '~' char then outside else last
    | control => if isBetween '@' '~' char then outside else control
    | deviceStart =>
        if isBetween ' ' '/' char then deviceMarks
        else if isBetween '0' '?' char then deviceParameters
        else if isBetween '@' '~' char then hiddenText
        else deviceStart
    | deviceParameters =>
        if isBetween ' ' '/' char then deviceMarks
        else if isBetween '<' '~' char then hiddenText
        else deviceParameters
    | deviceMarks => if isBetween '0' '~' char then hiddenText else deviceMarks
    | hiddenText => if hasTerminator char then outside else hiddenText
    | title => if isBell char then outside else title

def shows (part : EscapePart) (char : Char) : Bool :=
  match part with
  | outside => isShown char
  | kind | last | control => isBlankControl char
  | deviceStart | deviceParameters | deviceMarks | hiddenText | title => false

end EscapePart

/-- How far a terminal is: the open sequence, and whether it shows characters all the same. -/
structure Terminal where
  part : EscapePart := .outside
  isShowing : Bool := false
  deriving DecidableEq, Repr

namespace Terminal

def start : Terminal := {}

def shows (terminal : Terminal) (char : Char) : Bool :=
  if terminal.isShowing then isShown char else terminal.part.shows char

/-- A character beyond ASCII that is shown ends every sequence; another one leaves it open. -/
def after (terminal : Terminal) (char : Char) : Terminal :=
  if terminal.shows char then ⟨if isBeyondAscii char then .outside else terminal.part, true⟩
  else ⟨terminal.part.next char, false⟩

def visible (terminal : Terminal) : List Char → List Char
  | [] => []
  | char :: rest =>
      if terminal.shows char then char :: (terminal.after char).visible rest
      else (terminal.after char).visible rest

def afterAll (terminal : Terminal) (chars : List Char) : Terminal := chars.foldl after terminal

end Terminal

/-- A piece of a message. Marks put an escape sequence before and behind a piece, and so they end
whatever sequence is open there. -/
inductive Piece where
  | plain (text : String)
  | marked (text : String)
  deriving DecidableEq, Repr

def visiblePieces : Terminal → List Piece → String
  | _, [] => ""
  | terminal, .plain text :: rest =>
      String.ofList (terminal.visible text.toList) ++
        visiblePieces (terminal.afterAll text.toList) rest
  | _, .marked text :: rest =>
      String.ofList (Terminal.start.visible text.toList) ++ visiblePieces .start rest

/-- What a terminal without styles shows of a message. -/
def visible (pieces : List Piece) : String := visiblePieces .start pieces

end AutomataRequest.Text
