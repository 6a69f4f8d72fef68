import MeshAlarm.CommandLine.Invocation

/-!
# The program

The program carries out its command line. What a run prints goes to standard output, the log records
that its threshold keeps go to standard error. The lines of the input are read one at a time, and only
as long as the run breaks off without another one. What a run has written by then is the beginning of
the run with one more line, so that only the rest is written then.

## Main definitions

* `MeshAlarm.Console.write`: writes a trace
* `MeshAlarm.Console.carryOut`: carries out what a command line asks for
* `main`: the program
-/

namespace MeshAlarm.Console

open CommandLine

/-- Writes what was printed and what the threshold keeps of the log. -/
def write (threshold : Log.Level) (trace : Trace String) : IO Unit := do
  for item in trace do
    match item with
    | .emit text => IO.print text
    | .log record => if threshold.admits record.level then IO.eprintln record.line
  (← IO.getStdout).flush

/-- Ends as a run does. -/
def conclude : Ending → IO UInt32
  | .finished => return 0
  | .refused .grammar => do
    IO.eprintln "Error: the command line does not fit a command"
    return 2
  | .refused (.because message) => do
    IO.eprintln s!"Error: {message}"
    return 2
  | .aborted => do
    IO.eprintln "Aborted!"
    return 1
  | .failed fault => do
    IO.eprintln s!"Failed: {fault.message}"
    return 1

/-- The next line of standard input, none at its end. -/
def nextLine : IO (Option String) := do
  let line ← (← IO.getStdin).getLine
  if line.isEmpty then return none
  else return some (if line.endsWith "\n" then (line.dropEnd 1).toString else line)

/-- Carries out what a command line asks for, of which so many items are written already on the lines
that were read. -/
partial def carryOut (invocation : Invocation) (lines : List String) (written : Nat) :
    IO UInt32 := do
  let run := invocation.run lines
  write run.threshold (run.trace.drop written)
  if run.ending = .aborted then
    if let some line ← nextLine then
      return ← carryOut invocation (lines ++ [line]) run.trace.length
  conclude run.ending

end MeshAlarm.Console

open MeshAlarm in
/-- Carries out the command line. -/
def main (arguments : List String) : IO UInt32 :=
  Console.carryOut (.ofArguments arguments) [] 0
