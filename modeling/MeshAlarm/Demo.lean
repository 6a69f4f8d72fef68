import MeshAlarm.Emulator

/-!
# Demonstrations

Two short programs on the library: a controller that decodes the payloads of a device, and an
emulated device that is discovered, polled and set off.

## Main definitions

* `Demo.listening`: decodes a supported report and an alarm report
* `Demo.alarmRaised`: discovers and polls an emulated device
-/

namespace MeshAlarm.Demo

/-- What an action writes, from a state. -/
def written {σ β : Type} (m : Act σ String β) (s : σ) : String :=
  String.join (m.run s).trace.emissions

/-! ### Decoding reports -/

/-- A supported report of general and smoke alarms, then a smoke report from node 9. -/
def payloads : List (List UInt8) :=
  [[0x08, 0x01, 0x03], [0x05, 0x07, 0x01, 0x09, 0x00, 0x01, 0x01]]

/-- Writes decoded events and changed values. -/
def tell : Signal → Act Controller String Unit
  | .event event => Act.emit s!"Event received: {event.describe}\n"
  | .notice (.changed index content) => do
    let name := ((← Act.read).registry.find? index).elim "" (·.name)
    Act.emit s!"Value {name} changed to {Value.renderContent content}\n"
  | .notice (.added _ _) => return

/-- The controller of node 9, at version 2, that tells what it decodes. -/
def listener : Controller where
  handler := { nodeId := 9, version := 2, announcesEvents := true }
  registry := { nodeId := 9, announcesChanged := true }

/-- Takes payloads one by one. -/
def takeAll : List (List UInt8) → Act Controller Signal Unit
  | [] => return
  | payload :: rest => do
    let _ ← Controller.receive payload
    takeAll rest

/-- Decodes the payloads and writes what a listener sees. -/
def listening : String :=
  written
    (Act.inside id (fun _ c => c) tell do
      Controller.registerBasics
      takeAll payloads)
    listener

/-! ### Polling a device -/

/-- A device of version 3 at node 5 with three event types. -/
def configuration : Emulator.Configuration where
  version := 3
  supported := [.smoke, .carbonMonoxide, .flood]
  nodeId := 5

/-- Discovers and polls the device, raises a smoke alarm, and polls again. -/
def smokeAlarm : Act Emulator String Unit := do
  Emulator.start
  let _ ← Emulator.onDevice (Device.raise .smoke 2)
  Emulator.poll
  Emulator.printAll <| (← Act.read).controller.registry.entries.map fun e =>
    s!"{e.name}: {Value.renderContent e.content}"

/-- Writes what happens to a device that is polled and set off. -/
def alarmRaised : String :=
  match Emulator.create configuration with
  | .ok (emulator, trace) => String.join trace.emissions ++ written smokeAlarm emulator
  | .error fault => fault.message

end MeshAlarm.Demo
