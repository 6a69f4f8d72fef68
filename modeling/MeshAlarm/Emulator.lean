import MeshAlarm.Controller
import MeshAlarm.Device

/-!
# Emulated networks

An emulator joins an emulated device to the controller of its node. Requests go straight to the
device and its answers straight back, which stands in for the transport. What the registry announces
is printed.

## Main definitions

* `Emulator`, `Emulator.Configuration`: the two sides, and what they are made from
* `Emulator.create`: a new emulator, its values created
* `Emulator.onController`, `Emulator.onDevice`: actions of the two sides
* `Emulator.deliver`, `Emulator.send`: the way from the device and the way to it
* `Emulator.discover`, `Emulator.poll`, `Emulator.start`: the exchanges
-/

namespace MeshAlarm

/-- A device and the controller of its node. -/
structure Emulator where
  device : Device
  controller : Controller

namespace Emulator

variable {β : Type}

/-- What an emulator is made from. -/
structure Configuration where
  version : Int
  supported : List EventType
  nodeId : Int := 1
  answersGet : Bool := true
  legacyLockState : Bool := false
  deriving DecidableEq, Repr

/-! ### Printing -/

/-- Prints a line. -/
def print (line : String) : Act Emulator String Unit :=
  Act.emit (line ++ "\n")

/-- Prints lines. -/
def printAll : List String → Act Emulator String Unit
  | [] => return
  | line :: lines => do
    print line
    printAll lines

/-- The display name of a registered value. -/
def nameOf (e : Emulator) (index : Int) : String :=
  match e.controller.registry.find? index with
  | some entry => entry.name
  | none => ""

/-- Prints what the registry announces. -/
def announce : Signal → Act Emulator String Unit
  | .notice (.added index name) => print s!"Value added {index}: {name}"
  | .notice (.changed index content) => do
    let name := (← Act.read).nameOf index
    print s!"Value {name} changed to {Value.renderContent content}"
  | .event _ => return

/-! ### The two sides -/

/-- The controller acts. -/
def onController (m : Act Controller Signal β) : Act Emulator String β :=
  Act.inside (·.controller) (fun e controller => { e with controller }) announce m

/-- The controller takes a payload from the device. -/
def deliver (payload : List UInt8) : Act Emulator String Unit := do
  let handled ← onController (Controller.receive payload)
  if !handled then
    Act.log .warning s!"Unhandled payload from device: {Text.Hex.ofBytes payload}"

/-- The device acts, and the reports it sends unasked are delivered. -/
def onDevice (m : Act Device (List UInt8) β) : Act Emulator String β :=
  Act.inside (·.device) (fun e device => { e with device }) deliver m

/-- Delivers payloads in order. -/
def deliverAll : List (List UInt8) → Act Emulator String Unit
  | [] => return
  | payload :: payloads => do
    deliver payload
    deliverAll payloads

/-- Sends packets to the device, one by one, and delivers its answers to each. -/
def send : List Packet → Act Emulator String Unit
  | [] => return
  | packet :: packets => do
    Act.log .debug s!"Sending {packet.name}: {packet.hex}"
    deliverAll (← onDevice (Device.answer packet.encode))
    send packets

/-! ### Exchanges -/

/-- Asks the device for its event types, asked before or not. -/
def discover : Act Emulator String Unit := do
  Act.update fun e =>
    { e with controller.handler.discovery := .unknown }
  send (← onController (Controller.refresh { static := true }))

/-- Asks the device for its alarm state. -/
def poll : Act Emulator String Unit := do
  send (← onController (Controller.refresh { dynamic := true }))

/-- Discovers the device and polls it for the first time. -/
def start : Act Emulator String Unit := do
  discover
  poll

/-! ### New emulators -/

/-- The two sides before anything was registered. -/
def unprepared (c : Configuration) : Except Fault Emulator := do
  let handler ← Handler.create c.nodeId c.version c.legacyLockState
  return {
    device := Device.create c.version c.supported c.nodeId
    controller := {
      handler
      registry := {
        nodeId := c.nodeId
        answersGet := c.answersGet
        announcesAdded := true
        announcesChanged := true } } }

/-- A new emulator with the values that every alarm node has, and what creating them printed. -/
def create (c : Configuration) : Except Fault (Emulator × Trace String) := do
  let e ← unprepared c
  let outcome := (onController Controller.registerBasics).run e
  return (outcome.after, outcome.trace)

end Emulator

end MeshAlarm
