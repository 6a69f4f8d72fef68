import MeshAlarm.CommandLine.Arguments
import MeshAlarm.CommandLine.Run
import MeshAlarm.Text.CaseFold
import MeshAlarm.Text.Numeral

/-!
# Command lines

A command line consists of options for all commands, the name of a command, and the arguments of the
command. First the whole is split by the grammar of arguments; then values are read, those of the
options in the order of their first mention; last come missing and surplus operands.

This is one way to come to a task, and nothing about tasks and their runs rests on it. A general
library for command lines could stand in its place.

## Main definitions

* `readDecodeTask`, `readRequestTask`, `readEmulateTask`: the tasks of commands
* `Invocation.ofArguments`: what a command line asks for
-/

namespace MeshAlarm.CommandLine

/-! ### Values -/

/-- An integer within bounds. -/
def readBounded (least : Int) (greatest : Option Int) (text : String) : Except Refusal Int :=
  match Text.Numeral.readDecimal? text with
  | none => .error .grammar
  | some n =>
    if n < least ∨ greatest.any (· < n) then .error .grammar else .ok n

/-- A command class version. -/
def readVersion (text : String) : Except Refusal Int :=
  readBounded 1 none text

/-- The node id of a network with at most 232 nodes. -/
def readNodeId (text : String) : Except Refusal Int :=
  readBounded 1 (some 232) text

/-- The choice that a text is, up to case. -/
def readChoice (text : String) : Except Refusal String :=
  match choices.find? fun name => name.toList == Text.caseFold text.toList with
  | some name => .ok name
  | none => .error .grammar

/-! ### Commands -/

/-- Makes sure that no operands are given. -/
def requireNone : List String → Except Refusal Unit
  | [] => .ok ()
  | _ => .error .grammar

/-- Reads the arguments of a command. -/
def readArguments {ω : Type} (formOf : String → Option (OptionForm ω)) (arguments : List String) :
    Except Refusal (Arguments ω) :=
  match Arguments.read formOf .anywhere arguments with
  | some read => .ok read
  | none => .error .grammar

/-- The command that prints the version has no options. -/
def versionForm : String → Option (OptionForm Empty) := fun _ => none

/-- The task of the command that prints the version. -/
def readVersionTask (arguments : List String) : Except Refusal Task := do
  requireNone (← readArguments versionForm arguments).operands
  return .version

/-- The options of the command that decodes a payload. -/
inductive DecodeOption
  | version (text : String)
  | legacyLockState (on : Bool)

/-- The options of the command that decodes a payload, by name. -/
def decodeForm : String → Option (OptionForm DecodeOption)
  | "--version" => some (.valued .version)
  | "--legacy-lock-state" => some (.flag (.legacyLockState true))
  | "--no-legacy-lock-state" => some (.flag (.legacyLockState false))
  | _ => none

/-- The options that set the same setting. -/
def DecodeOption.key : DecodeOption → Nat
  | version _ => 0
  | legacyLockState _ => 1

/-- Takes an option into the settings. -/
def DecodeTask.apply (task : DecodeTask) : DecodeOption → Except Refusal DecodeTask
  | .version text => do return { task with version := ← readVersion text }
  | .legacyLockState on => return { task with legacyLockState := on }

/-- The task of the command that decodes a payload. -/
def readDecodeTask (arguments : List String) : Except Refusal Task := do
  let given ← readArguments decodeForm arguments
  let options := effective DecodeOption.key given.options
  match given.operands with
  | [payload] => return .decode (← options.foldlM DecodeTask.apply { payload })
  | _ => .error .grammar

/-- The options of the command that prints requests. -/
inductive RequestOption
  | version (text : String)
  | eventType (text : String)
  | supportedGet

/-- The options of the command that prints requests, by name. -/
def requestForm : String → Option (OptionForm RequestOption)
  | "--version" => some (.valued .version)
  | "--type" => some (.valued .eventType)
  | "--supported-get" => some (.flag .supportedGet)
  | _ => none

/-- Takes an option into the settings. Names of event types add up. -/
def RequestTask.apply (task : RequestTask) : RequestOption → Except Refusal RequestTask
  | .version text => do return { task with version := ← readVersion text }
  | .eventType text => do
    return { task with names := task.names ++ [← readChoice text] }
  | .supportedGet => return { task with supportedGet := true }

/-- Whether an option may be given repeatedly. -/
def RequestOption.addsUp : RequestOption → Bool
  | eventType _ => true
  | version _ | supportedGet => false

/-- The options that set the same setting. -/
def RequestOption.key : RequestOption → Nat
  | version _ => 0
  | eventType _ => 1
  | supportedGet => 2

/-- The options that count: the last of each that sets one setting, and every event type. -/
def RequestOption.counting (options : List RequestOption) : List RequestOption :=
  effective key (options.filter (!·.addsUp)) ++ options.filter (·.addsUp)

/-- The task of the command that prints requests. -/
def readRequestTask (arguments : List String) : Except Refusal Task := do
  let given ← readArguments requestForm arguments
  let task ← (RequestOption.counting given.options).foldlM RequestTask.apply {}
  requireNone given.operands
  return .request task

/-- The options of the command that runs an emulator. -/
inductive EmulateOption
  | version (text : String)
  | nodeId (text : String)
  | supported (text : String)
  | answersGet (on : Bool)
  | legacyLockState (on : Bool)
  | interactive (on : Bool)

/-- The options of the command that runs an emulator, by name. -/
def emulateForm : String → Option (OptionForm EmulateOption)
  | "--version" => some (.valued .version)
  | "--node-id" => some (.valued .nodeId)
  | "--supported" => some (.valued .supported)
  | "--get-supported" => some (.flag (.answersGet true))
  | "--no-get-supported" => some (.flag (.answersGet false))
  | "--legacy-lock-state" => some (.flag (.legacyLockState true))
  | "--no-legacy-lock-state" => some (.flag (.legacyLockState false))
  | "--interactive" => some (.flag (.interactive true))
  | "--no-interactive" => some (.flag (.interactive false))
  | _ => none

/-- The options that set the same setting. -/
def EmulateOption.key : EmulateOption → Nat
  | version _ => 0
  | nodeId _ => 1
  | supported _ => 2
  | answersGet _ => 3
  | legacyLockState _ => 4
  | interactive _ => 5

/-- Takes an option into the settings. -/
def EmulateTask.apply (task : EmulateTask) : EmulateOption → Except Refusal EmulateTask
  | .version text => do return { task with version := ← readVersion text }
  | .nodeId text => do return { task with nodeId := ← readNodeId text }
  | .supported text => do return { task with supported := ← readSupported text }
  | .answersGet on => return { task with answersGet := on }
  | .legacyLockState on => return { task with legacyLockState := on }
  | .interactive on => return { task with interactive := on }

/-- The task of the command that runs an emulator. -/
def readEmulateTask (arguments : List String) : Except Refusal Task := do
  let given ← readArguments emulateForm arguments
  let task ← (effective EmulateOption.key given.options).foldlM EmulateTask.apply {}
  requireNone given.operands
  return .emulate task

/-- The commands by name. -/
def command? : String → Option (List String → Except Refusal Task)
  | "version" => some readVersionTask
  | "decode" => some readDecodeTask
  | "request" => some readRequestTask
  | "emulate" => some readEmulateTask
  | _ => none

/-! ### Command lines -/

/-- The option for all commands: the name of the log threshold. -/
def commonForm : String → Option (OptionForm String)
  | "--log-level" => some (.valued id)
  | _ => none

/-- The last log threshold named. -/
def readThreshold (names : List String) : Option Log.Level :=
  match names.getLast? with
  | some name => Log.Level.ofThresholdName? name
  | none => some .warning

/-- What a command line asks for. -/
def Invocation.ofArguments (arguments : List String) : Invocation :=
  match Arguments.read commonForm .leading arguments with
  | none => { task := .error .grammar }
  | some common =>
    match readThreshold common.options, common.operands with
    | some threshold, name :: rest =>
      match command? name with
      | some read => { threshold, named := true, task := read rest }
      | none => { threshold, task := .error .grammar }
    | some threshold, [] => { threshold, task := .error .grammar }
    | none, _ => { task := .error .grammar }

end MeshAlarm.CommandLine
