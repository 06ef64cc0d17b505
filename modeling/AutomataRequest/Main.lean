import AutomataRequest.Run
import Mathlib.Tactic.DeprecateTo

/-!
The command line program. It reads the files that its arguments name, runs, and writes what
the run leaves behind. The calendar comes in with the library that is imported for it.
-/

namespace AutomataRequest

def readFault : IO.Error → ReadFault
  | .noFileOrDirectory .. => .missing
  | .inappropriateType .. => .directory
  | error => .other (toString error)

def readPath (path : String) : IO (String × Except ReadFault ByteArray) := do
  match ← (IO.FS.readBinFile path).toBaseIO with
  | .ok bytes => return (path, .ok bytes)
  | .error error => return (path, .error (readFault error))

def readClock : IO Log.Moment := do
  let now ← Std.Time.Timestamp.now
  let date := Std.Time.PlainDateTime.ofWallTime (.ofDuration now.toDurationSinceUnixEpoch)
  return {
    year := date.year.toInt
    month := date.month.val.toNat
    day := date.day.val.toNat
    hour := date.hour.val.toNat
    minute := date.minute.val.toNat
    second := date.second.val.toNat
    microsecond := date.nanosecond.val.toNat / 1000 }

end AutomataRequest

open AutomataRequest

def main (args : List String) : IO UInt32 := do
  let begun ← IO.monoMsNow
  let paths := match CommandLine.parse args with
    | .ok invocation => invocation.paths
    | .error _ => []
  let contents ← paths.mapM readPath
  let input ←
    if paths.contains inputName then (← IO.getStdin).readBinToEnd else pure ByteArray.empty
  let outcome := run
    { files := fun path => (contents.lookup path).getD (.error .missing)
      input
      logVariable := ← IO.getEnv "RUST_LOG" }
    args
  let reading : Log.Reading :=
    { moment := ← readClock
      elapsed := (← IO.monoMsNow) - begun }
  let styled := Log.showsStyles (← IO.getEnv "NO_COLOR")
  for line in outcome.log do
    IO.eprintln (line.written styled reading)
  IO.eprint outcome.err
  IO.print outcome.out
  return UInt32.ofNat outcome.status
