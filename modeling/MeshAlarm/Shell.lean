import MeshAlarm.Emulator
import MeshAlarm.EventType.Name
import MeshAlarm.Text.Numeral

/-!
# Interactive commands

The shell of an emulator reads one command a line. The line is read in capitals and split into
words; the first word is the command. A command that blames a value it was given is answered with an
error line, and the shell goes on. It ends at the first quit.

## Main definitions

* `Shell.Command`, `Shell.Command.ofLine`: the commands, and the command of a line
* `Shell.execute`: what a command does, and whether the shell goes on
* `Shell.respond`: the response to a line
* `Shell.converse`: the responses to lines, up to the first quit
-/

namespace MeshAlarm.Shell

/-! ### Commands -/

/-- The commands, with their arguments as they were given. -/
inductive Command
  | discover
  | poll
  | trigger (eventType parameter : String)
  | lock (alarmType : String) (level : Option String)
  | values
  | quit
  | help
  deriving DecidableEq, Repr

/-- The words of a line, in capitals. -/
def wordsOf (line : String) : List String :=
  (Text.words (Text.upperCase line.toList)).map String.ofList

/-- The command of words. A command with missing arguments asks for help, as does any other word. -/
def Command.ofWords : List String → Command
  | "D" :: _ => .discover
  | "P" :: _ => .poll
  | ["T", eventType, parameter] => .trigger eventType parameter
  | "L" :: alarmType :: rest => .lock alarmType rest.head?
  | "V" :: _ => .values
  | "Q" :: _ => .quit
  | _ => .help

/-- The command of a line. -/
def Command.ofLine (line : String) : Command :=
  .ofWords (wordsOf line)

/-- The lines of the help. -/
def helpLines : List String :=
  ["Commands:",
   "  D               : Discover supported alarm types",
   "  P               : Poll current alarm state",
   "  T <type> <param>: Trigger an event, e.g. T SMOKE 2",
   "  L <17-25> [lvl] : Send a legacy lock report",
   "  V               : Show node values",
   "  Q               : Quit"]

/-! ### Execution -/

/-- An argument that is to be an integer. -/
def integer (word : String) : Except Fault Int :=
  match Text.Numeral.readInteger? word with
  | some n => .ok n
  | none => .error (.notInteger word)

/-- The level of a lock command, one if it was left out. -/
def lockLevel : Option String → Except Fault Int
  | some word => integer word
  | none => .ok 1

/-- Does what a command says, and answers whether the shell goes on. -/
def execute : Command → Act Emulator String Bool
  | .discover => do
    Emulator.discover
    return true
  | .poll => do
    Emulator.poll
    return true
  | .trigger eventType parameter => do
    let t ← Act.ofExcept (EventType.ofName eventType)
    let n ← Act.ofExcept (integer parameter)
    let _ ← Emulator.onDevice (Device.raise t n)
    return true
  | .lock alarmType level => do
    -- Of two refused numerals the level is the one that is reported.
    let level ← Act.ofExcept (lockLevel level)
    let alarmType ← Act.ofExcept (integer alarmType)
    let _ ← Emulator.onDevice (Device.turnLock alarmType level)
    return true
  | .values => do
    Emulator.printAll (← Act.read).controller.registry.rows
    return true
  | .quit => return false
  | .help => do
    Emulator.printAll helpLines
    return true

/-- Responds to a line, and answers whether the shell goes on. -/
def respond (line : String) : Act Emulator String Bool := do
  Emulator.print s!"Got command {line}"
  match ← Act.attempt (execute (.ofLine line)) with
  | .ok goesOn => return goesOn
  | .error fault =>
    -- A fault that blames no given value ends the conversation.
    if fault.kind.isBadValue then
      Emulator.print s!"Error: {fault.message}"
      return true
    else Act.fail fault

/-! ### Conversations -/

/-- What is written before a line is read. -/
def prompt : String := "Command: "

/-- What is logged at the end. -/
def farewell : Log.Record :=
  ⟨.debug, "Stopping interactive commands"⟩

/-- Takes turns with the lines up to the first quit, and answers whether there was one. Without one
the last prompt has no line to read. -/
def converse : List String → Act Emulator String Bool
  | [] => do
    Act.emit prompt
    return false
  | line :: lines => do
    Act.emit prompt
    if ← respond line then converse lines
    else
      Act.logAll [farewell]
      return true

end MeshAlarm.Shell
