import AutomataRequest.Log.Call
import AutomataRequest.Log.Capture

/-!
Sessions of calls. A capture keeps the events of the calls that were made while it lasted, those
of an earlier call before those of a later one, and every call answers.
-/

namespace AutomataRequest

/-- A call of the library, by a command or by a pair. -/
inductive Call where
  | command (command : Command)
  | pair (request : PairRequest)
  deriving DecidableEq, Repr

namespace Call

def name : Call → String
  | .command _ => Log.commandCall
  | .pair _ => Log.pairCall

/-- The answer of a call whose events nobody looks at. -/
def tokens : Call → Except Fault (List String)
  | .command given => given.tokens
  | .pair given => given.tokens

def serialize : Call → Logged (Except Fault (List String))
  | .command given => given.serialize
  | .pair given => given.serialize

end Call

namespace Log.Capture

/-- What is captured once a call was made, and the answer of the call. -/
def record (capture : Capture) (call : Call) : Capture × Except Fault (List String) :=
  let logged := call.serialize
  (capture ++ logged.events, logged.result)

def recordAll (capture : Capture) :
    List Call → Capture × List (Except Fault (List String))
  | [] => (capture, [])
  | call :: rest =>
      let (capture, result) := capture.record call
      let (capture, results) := recordAll capture rest
      (capture, result :: results)

end Log.Capture

end AutomataRequest
