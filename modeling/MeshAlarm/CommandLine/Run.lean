import MeshAlarm.CommandLine.Task
import MeshAlarm.Shell

/-!
# Runs of the program

A run carries out a task, given the lines of the input. What it prints and logs is its trace. It ends
well, or refuses the command line, or breaks off because the input ended at a prompt; and if a fault
comes up that the task does not answer for, it fails.

Each task answers for faults of its own kinds, and turns them into a refusal: decoding for those that
blame the value given, requests for what a version does not support.

## Main definitions

* `programVersion`: the version of the program
* `Ending`: how a run ends
* `decodePayload`, `printRequests`, `runEmulator`: the tasks
* `Run`: all of a run that is seen
* `Task.run`: the run of a task
* `Invocation`, `Invocation.run`: what a command line asks for, and its run
* `inputLines`: the lines of an input
-/

namespace MeshAlarm.CommandLine

/-- The version of the program. -/
def programVersion : String := "0.1.0"

/-- How a run ends. -/
inductive Ending
  /-- The task is done. -/
  | finished
  /-- The command line is not accepted. -/
  | refused (refusal : Refusal)
  /-- The input ended at a prompt. -/
  | aborted
  /-- A fault came up that the task does not answer for. -/
  | failed (fault : Fault)
  deriving DecidableEq, Repr

/-! ### Tasks -/

/-- Prints a line. -/
def printLine (line : String) : Act Unit String Unit :=
  Act.emit (line ++ "\n")

/-- Prints lines. -/
def printLines (lines : List String) : Act Unit String Unit :=
  Act.replay (lines.map fun line => .emit (line ++ "\n"))

/-- Goes on with an answer and is done then. A fault of the kinds that the task answers for refuses
the command line. -/
def refusing {β : Type} (answersFor : FaultKind → Bool) (m : Act Unit String β)
    (next : β → Act Unit String Unit) : Act Unit String Ending := do
  match ← Act.attempt m with
  | .ok answer =>
    next answer
    return .finished
  | .error fault =>
    if answersFor fault.kind then return .refused (.because fault.message) else Act.fail fault

/-- A controller that knows nothing yet of its node takes a payload. -/
def firstPayload (payload : List UInt8) : Act Controller Signal Unit := do
  Controller.registerBasics
  let _ ← Controller.receive payload

/-- Reads the packet of a payload and its event. -/
def readEvent (task : DecodeTask) : Act Unit String (Packet × Event) := do
  Act.logAll (Packet.ofHexLog task.payload)
  let packet ← Act.ofExcept (Packet.ofHex task.payload)
  Act.logAll (Event.decodeLog packet)
  let event ← Act.ofExcept ((Event.decode task.version packet).mapError .undecodable)
  return (packet, event)

/-- Prints an event, and the values that a node has after its packet alone. -/
def showEvent (task : DecodeTask) (packet : Packet) (event : Event) : Act Unit String Unit := do
  printLine event.describe
  let handler ← Act.ofExcept (Handler.create 1 task.version task.legacyLockState)
  let outcome := (firstPayload packet.encode).run { handler, registry := {} }
  Act.logAll outcome.trace.records
  printLines outcome.after.registry.rows

/-- Shows the event of a payload. -/
def decodePayload (task : DecodeTask) : Act Unit String Ending := do
  Act.log .debug s!"decode {task.payload} version {task.version}"
  refusing FaultKind.isBadValue (readEvent task) fun (packet, event) => showEvent task packet event

/-- The requests that a task asks for. -/
def requestsOf (task : RequestTask) : Except Fault (List Packet) :=
  if task.supportedGet then return [← Request.supportedGet task.version]
  else if task.version = 1 then return [← Request.get task.version]
  else
    let names := if task.names.isEmpty then choices else task.names
    names.mapM fun name => do Request.get task.version (some (← EventType.ofName name))

/-- The line of a request. -/
def requestLine (p : Packet) : String :=
  s!"{p.name} length={p.length}: {p.hex}"

/-- Prints requests. -/
def printRequests (task : RequestTask) : Act Unit String Ending :=
  refusing (· == .notSupported) (Act.ofExcept (requestsOf task)) fun packets =>
    printLines (packets.map requestLine)

/-- What an emulator is made from. -/
def EmulateTask.configuration (task : EmulateTask) : Emulator.Configuration where
  version := task.version
  supported := task.supported
  nodeId := task.nodeId
  answersGet := task.answersGet
  legacyLockState := task.legacyLockState

/-- Starts an emulator, then has it converse if it is to. -/
def runEmulator (task : EmulateTask) (input : List String) : Act Unit String Ending := do
  let (emulator, trace) ← Act.ofExcept (Emulator.create task.configuration)
  Act.replay trace
  let ended ← Act.during emulator do
    Emulator.start
    if task.interactive then Shell.converse input else return true
  return if ended then .finished else .aborted

/-- Carries out a task. -/
def Task.perform (input : List String) : Task → Act Unit String Ending
  | .version => do
    printLine programVersion
    return .finished
  | .decode task => decodePayload task
  | .request task => printRequests task
  | .emulate task => runEmulator task input

/-! ### Runs -/

/-- All of a run that is seen. -/
structure Run where
  threshold : Log.Level
  trace : Trace String
  ending : Ending

namespace Run

/-- What a run wrote. -/
def output (r : Run) : String :=
  String.join r.trace.emissions

/-- The log records of a run that its threshold keeps. -/
def records (r : Run) : List Log.Record :=
  r.trace.records.filter fun record => r.threshold.admits record.level

end Run

/-- What the program logs before it starts with a task. -/
def versionRecord : Log.Record :=
  ⟨.debug, "alarmcc version: " ++ programVersion⟩

/-- The run of a task that comes to an outcome. -/
def ofOutcome (threshold : Log.Level) (outcome : Outcome Unit String Ending) : Run where
  threshold := threshold
  trace := .log versionRecord :: outcome.trace
  ending := match outcome.result with
    | .ok ending => ending
    | .error fault => .failed fault

/-- The run of a task on the lines of the input. -/
def Task.run (task : Task) (threshold : Log.Level) (input : List String) : Run :=
  ofOutcome threshold ((task.perform input).run ())

/-! ### Command lines -/

/-- What a command line asks for. -/
structure Invocation where
  /-- The threshold for log records. -/
  threshold : Log.Level := .warning
  /-- Whether the command line names a command; only then the program logs its version. -/
  named : Bool := false
  /-- The task, or why there is none. -/
  task : Except Refusal Task

/-- The run of what a command line asks for. -/
def Invocation.run (invocation : Invocation) (input : List String) : Run :=
  match invocation.task with
  | .ok task => task.run invocation.threshold input
  | .error refusal =>
    { threshold := invocation.threshold
      trace := if invocation.named then [.log versionRecord] else []
      ending := .refused refusal }

/-- The lines of an input. Only the line feed ends a line, and the last line needs none. -/
def inputLines (input : String) : List String :=
  let lines := input.toList.splitOn '\n'
  let ended := if lines.getLast? == some [] then lines.dropLast else lines
  ended.map String.ofList

end MeshAlarm.CommandLine
