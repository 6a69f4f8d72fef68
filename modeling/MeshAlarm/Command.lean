/-!
# Commands of the alarm command class

The command class has five commands, told apart by the first byte of a payload. The transport puts
the byte of the command class in front of the payload.

## Main definitions

* `commandClassByte`: the byte of the command class
* `Command`: the commands
* `Command.byte`, `Command.ofByte?`: a command's byte and back
* `Command.identifier`, `Command.ofIdentifier?`: a command's identifier and back
* `Command.name`: the name used in log lines
-/

namespace MeshAlarm

/-- The byte of the alarm command class. -/
def commandClassByte : UInt8 := 0x71

/-- The commands of the alarm command class. -/
inductive Command
  | get
  | report
  | set
  | supportedGet
  | supportedReport
  deriving DecidableEq, Repr

namespace Command

/-- Every command, in the order of their bytes. -/
def all : List Command := [get, report, set, supportedGet, supportedReport]

/-- The byte that starts a payload of the command. -/
def byte : Command → UInt8
  | get => 0x04
  | report => 0x05
  | set => 0x06
  | supportedGet => 0x07
  | supportedReport => 0x08

/-- The command that a byte starts, if any. -/
def ofByte? (b : UInt8) : Option Command :=
  all.find? (·.byte == b)

/-- The identifier of a command. -/
def identifier : Command → String
  | get => "GET"
  | report => "REPORT"
  | set => "SET"
  | supportedGet => "SUPPORTED_GET"
  | supportedReport => "SUPPORTED_REPORT"

/-- The command of an identifier, spelled exactly. -/
def ofIdentifier? (text : String) : Option Command :=
  all.find? (·.identifier == text)

/-- The name of a command in log lines and listings. -/
def name : Command → String
  | get => "AlarmCmd_Get"
  | report => "AlarmCmd_Report"
  | set => "AlarmCmd_Set"
  | supportedGet => "AlarmCmd_SupportedGet"
  | supportedReport => "AlarmCmd_SupportedReport"

/-- The identifier of a command behind the name of the enumeration. -/
def qualified (c : Command) : String :=
  "CommandType." ++ c.identifier

/-- A command as packet descriptions show it, with its byte. -/
def describe (c : Command) : String :=
  s!"<{c.qualified}: {c.byte.toNat}>"

/-! ### Bytes and commands -/

@[simp] theorem ofByte?_byte (c : Command) : ofByte? c.byte = some c := by
  cases c <;> rfl

theorem byte_of_ofByte? {b : UInt8} {c : Command} (h : ofByte? b = some c) : c.byte = b := by
  simpa using List.find?_some h

theorem ofByte?_eq_some_iff {b : UInt8} {c : Command} : ofByte? b = some c ↔ c.byte = b :=
  ⟨byte_of_ofByte?, fun h => h ▸ ofByte?_byte c⟩

end Command

end MeshAlarm
