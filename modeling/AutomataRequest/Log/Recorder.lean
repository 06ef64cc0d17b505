import AutomataRequest.Log.Filter
import AutomataRequest.Log.Line

/-!
Recorders. A recorder turns the events that its filter admits into lines of one style, in the
order in which they were emitted.
-/

namespace AutomataRequest.Log

structure Recorder where
  style : LineStyle
  filter : Filter
  deriving DecidableEq, Repr

namespace Recorder

def lines (recorder : Recorder) (events : List Event) : List Line :=
  (events.filter recorder.filter.admits).map fun event => ⟨recorder.style, event⟩

end Recorder

end AutomataRequest.Log
