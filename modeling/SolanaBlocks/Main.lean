import SolanaBlocks.CommandLine.Duration
import SolanaBlocks.CommandLine.Run

/-!
# The program

Runs the command line on the files and the environment of the process, and writes what the run
leaves behind. No refinement service can be reached from here.
-/

namespace SolanaBlocks.CommandLine

/-- The fault behind an error of the system. -/
def fileFaultOf : IO.Error → FileFault
  | .noFileOrDirectory .. => .missing
  | .permissionDenied .. => .forbidden
  | .invalidArgument _ 36 _ => .longName
  | .inappropriateType _ code _ => if code = 21 then .folder else .fileOnTheWay
  | error => .other (toString error)

/-- Reads a text file. -/
def readTextFile (path : String) : IO (Except FileFault String) := do
  if let some fault := pathFault? path then return .error fault
  try
    let bytes ← IO.FS.readBinFile path
    match String.fromUTF8? bytes with
    | some text => return .ok text
    | none => return .error .notText
  catch error => return .error (fileFaultOf error)

/-- What surrounds the process. -/
def processSurroundings : Surroundings IO where
  readFile := readTextFile
  getVariable name := IO.getEnv name
  service := unreachable

/-- Pauses for some milliseconds, day by day. -/
def pause (length : Nat) : IO Unit := do
  let day := 86400000
  for _ in [0 : length / day] do IO.sleep day.toUInt32
  IO.sleep (length % day).toUInt32

/-- Writes what a run leaves behind that began at some time, in nanoseconds. -/
def writeOutcome (outcome : Outcome) (start : Nat) : IO Unit := do
  (← IO.getStdout).putStr outcome.output
  let finish ← IO.monoNanosNow
  let notes ← IO.getStderr
  notes.putStr outcome.notes
  if outcome.timed then notes.putStr (timeNote (durationText (finish - start)))

end SolanaBlocks.CommandLine

open SolanaBlocks.CommandLine in
/-- Runs the program on the arguments of the process. -/
def main (arguments : List String) : IO UInt32 := do
  let start ← IO.monoNanosNow
  let outcome ← run processSurroundings arguments
  pause outcome.pauses
  writeOutcome outcome start
  return outcome.exit.toUInt32
