import AutomataRequest.Json.Text
import AutomataRequest.Log.Event
import AutomataRequest.Text.Quoted
import AutomataRequest.Text.Styled

/-!
Log lines. An event is written as one line behind the moment at which it is written, for a reader
or as a JSON object for a program. Texts that come from outside are quoted or escaped, so no event
takes two lines. A line for a reader is styled unless colors are forbidden; the sequences that set
the styles are all that a line has of control characters.
-/

namespace AutomataRequest.Log

/-- A moment by the clock, in universal time. -/
structure Moment where
  year : Int
  month : Nat
  day : Nat
  hour : Nat
  minute : Nat
  second : Nat
  microsecond : Nat
  deriving DecidableEq, Repr

namespace Moment

/-- A number with zeros in front, so that it has some digits at least. -/
def padded (width value : Nat) : String :=
  let digits := Nat.toDigits 10 value
  String.ofList (List.replicate (width - digits.length) '0' ++ digits)

/-- A year of more than four digits has a sign, and so has one before the first. -/
def yearText (year : Int) : String :=
  if 9999 < year then "+" ++ Number.natText year.natAbs
  else if year < 0 then "-" ++ padded 4 year.natAbs
  else padded 4 year.natAbs

def dateText (moment : Moment) : String :=
  "-".intercalate [yearText moment.year, padded 2 moment.month, padded 2 moment.day]

def timeText (moment : Moment) : String :=
  ":".intercalate [padded 2 moment.hour, padded 2 moment.minute, padded 2 moment.second] ++ "." ++
    padded 6 moment.microsecond

def text (moment : Moment) : String := moment.dateText ++ "T" ++ moment.timeText ++ "Z"

end Moment

/-- What the clocks show when a line is written: the moment, and how many milliseconds the call
has taken by then. -/
structure Reading where
  moment : Moment
  elapsed : Nat
  deriving DecidableEq, Repr

inductive LineStyle where
  | plain
  | json
  deriving DecidableEq, Repr

/-- Styles are shown unless the variable that forbids colors is set to some text. -/
def showsStyles (noColor : Option String) : Bool := (noColor.getD "").isEmpty

namespace Level

/-- What stands in front of a short level, so that all take equally many places. -/
def margin : Level → String
  | .warn | .info => " "
  | .error | .debug | .trace => ""

def color : Level → Text.Color
  | .error => .red
  | .warn => .yellow
  | .info => .green
  | .debug => .blue
  | .trace => .purple

end Level

def Value.plainText (elapsed : String) : Value → String
  | .text value => Text.quote value
  | value => value.bare elapsed

/-- Counts are JSON numbers and everything else is a JSON string. -/
def Value.jsonText (elapsed : String) : Value → String
  | .count value => Number.natText value
  | value => Json.encodeText (value.bare elapsed)

namespace Event

/-- The message and the fields, the fields as `name=value`. -/
def plainEntries (event : Event) (elapsed : String) : List (List Text.StyledPart) :=
  event.message.toList.map (fun message => [{ text := message }]) ++
    event.fields.map fun field =>
      [{ style := .italic, text := field.1 }, { style := .dimmed, text := "=" },
        { text := field.2.plainText elapsed }]

/-- What stands behind the level: the target and the entries. -/
def plainParts (event : Event) (elapsed : String) : List Text.StyledPart :=
  [{ text := " " }, { style := .dimmed, text := event.target },
    { style := .dimmed, text := ":" }, { text := " " }] ++
    [{ text := " " }].intercalate (event.plainEntries elapsed)

def plainLine (event : Event) (styled : Bool) (reading : Reading) : String :=
  Text.writtenParts
    ([{ style := .dimmed, text := reading.moment.text }, { text := " " },
      { style := .colored event.level.color, text := event.level.margin ++ event.level.label }] ++
      event.plainParts (Number.natText reading.elapsed)) styled

/-- What stands behind the moment. -/
def jsonMembers (event : Event) (elapsed : String) : List (String × String) :=
  [("level", Json.encodeText event.level.label),
    ("fields", Json.encodeObject
      (event.message.toList.map (fun message => ("message", Json.encodeText message)) ++
        event.fields.map fun field => (field.1, field.2.jsonText elapsed))),
    ("target", Json.encodeText event.target)]

def jsonLine (event : Event) (reading : Reading) : String :=
  Json.encodeObject (("timestamp", Json.encodeText reading.moment.text) ::
    event.jsonMembers (Number.natText reading.elapsed))

end Event

/-- An event and the style in which it is written. -/
structure Line where
  style : LineStyle
  event : Event
  deriving DecidableEq, Repr

namespace Line

/-- A line for a program is never styled. -/
def written (line : Line) (styled : Bool) (reading : Reading) : String :=
  match line.style with
  | .plain => line.event.plainLine styled reading
  | .json => line.event.jsonLine reading

/-- What a line says of its event alone, whenever it is written: without the moment, the blank in
front of a short level, and styles. -/
def text (line : Line) (elapsed : String) : String :=
  match line.style with
  | .plain =>
      line.event.level.label ++ Text.writtenParts (line.event.plainParts elapsed) false
  | .json => Json.encodeObject (line.event.jsonMembers elapsed)

/-- Without styles nothing but the moment and the margin comes before what a line for a reader says,
and what one for a program says has the moment put in behind its first bracket. -/
theorem written_with_text (event : Event) (reading : Reading) :
    let elapsed := Number.natText reading.elapsed
    (Line.mk .plain event).written false reading =
      reading.moment.text ++ " " ++ event.level.margin ++ (Line.mk .plain event).text elapsed ∧
    ∃ rest, (Line.mk .json event).text elapsed = "\x7b" ++ rest ∧
      (Line.mk .json event).written false reading =
        "\x7b" ++ Json.encodeText "timestamp" ++ ":" ++ Json.encodeText reading.moment.text ++
          "," ++ rest := by
  intro elapsed
  constructor
  · simp only [written, text, elapsed, Event.plainLine, Text.writtenParts, List.map_append,
      List.map_cons, List.map_nil, String.join_append, String.join_cons, String.join_nil,
      Text.StyledPart.written_unstyled, String.append_empty, String.append_assoc]
  · exact Json.encode_object_cons "timestamp" (Json.encodeText reading.moment.text) _ _

end Line

end AutomataRequest.Log
