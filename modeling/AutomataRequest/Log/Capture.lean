import AutomataRequest.Log.Event

/-!
Captured logs: what a test asks of the events that were recorded, in the order in which they
were emitted.
-/

namespace AutomataRequest.Log

abbrev Capture := List Event

namespace Event

def component? (event : Event) (elapsed : String) : Option String :=
  event.field? elapsed componentField

def call? (event : Event) (elapsed : String) : Option String :=
  event.field? elapsed callField

def event? (event : Event) (elapsed : String) : Option String :=
  event.field? elapsed eventField

end Event

namespace Capture

/-- The text that stands for a measured duration: a call takes less than a millisecond. -/
def noTime : String := "0"

def eventsFor (capture : Capture) (call : String) : Capture :=
  capture.filter fun event => event.call? noTime == some call

/-- How many events have a field with the given text. -/
def countField (capture : Capture) (name text : String) : Nat :=
  (capture.filter fun event => event.field? noTime name == some text).length

def hasEvent (capture : Capture) (call event : String) : Bool :=
  capture.any fun found => found.call? noTime == some call && found.event? noTime == some event

/-- What an assertion says about an event that is not there. -/
def missingMessage (capture : Capture) (call event : String) : String :=
  "Expected event op=" ++ call ++ " event=" ++ event ++ " not found in " ++
    Number.natText capture.length ++ " captured events"

end Capture

end AutomataRequest.Log
