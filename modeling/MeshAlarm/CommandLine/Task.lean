import MeshAlarm.EventType.Name

/-!
# Tasks

A task is what the program is asked to do, with all its settings. Where the settings come from is not
fixed here; a task may have any of them.

Event types are set in two ways. A request names them one by one, among given choices, and looks each
name up when it comes to it. An emulator has them from a list in one text, which is refused with a
message if a name in it is unknown.

## Main definitions

* `Task`: the tasks, with their settings
* `Refusal`: why a command line is refused
* `choices`: the names of event types to choose from
* `readSupported`: the event types that a text lists
-/

namespace MeshAlarm.CommandLine

/-- Why a command line is refused: with a message of the program, or by the grammar alone. -/
inductive Refusal
  | grammar
  | because (message : String)
  deriving DecidableEq, Repr

/-- What is to be decoded. -/
structure DecodeTask where
  payload : String
  version : Int := 1
  legacyLockState : Bool := true
  deriving DecidableEq, Repr

/-- Which requests are to be printed. -/
structure RequestTask where
  version : Int := 1
  /-- The names of the event types, every choice if none is given. -/
  names : List String := []
  supportedGet : Bool := false
  deriving DecidableEq, Repr

/-- Which network is to be emulated. -/
structure EmulateTask where
  version : Int := 2
  nodeId : Int := 1
  supported : List EventType := [.smoke, .flood, .burglar]
  answersGet : Bool := true
  legacyLockState : Bool := false
  interactive : Bool := true
  deriving DecidableEq, Repr

/-- The tasks of the program. -/
inductive Task
  | version
  | decode (settings : DecodeTask)
  | request (settings : RequestTask)
  | emulate (settings : EmulateTask)
  deriving DecidableEq, Repr

/-! ### Names of event types -/

/-- The name of an event type to choose it by: its identifier in small letters. -/
def choice (t : EventType) : String :=
  String.ofList (t.identifier.toList.map Char.toLower)

/-- The names of event types to choose from. -/
def choices : List String :=
  EventType.all.map choice

/-- The parts of a text between commas, without the empty ones. -/
def commaParts (text : String) : List String :=
  ((text.toList.splitOn ',').filter (!·.isEmpty)).map String.ofList

/-- Event types by name, separated by commas. -/
def readSupported (text : String) : Except Refusal (List EventType) :=
  ((commaParts text).mapM EventType.ofName).mapError fun fault => .because fault.message

end MeshAlarm.CommandLine
