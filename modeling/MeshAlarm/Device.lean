import MeshAlarm.Event

/-!
# Emulated devices

An emulated device holds an alarm state and answers requests from it: a Get with a report, a
Supported Get with the event types it reports. Raising an event and turning the lock change the
state and send a report unasked. A device of version 1 knows the short report only and has no event
types to tell.

The state changes before the report is built. A device whose own node id does not fit into a byte
cannot build an extended report, so raising an event on it fails with the state changed.

## Main definitions

* `Device`, `Device.create`: the state of a device
* `Device.events`: the parameters of the reported event types
* `Device.reportFor`, `Device.supportedPacket`: the report of the present state, and of the types
* `Device.answer`: the answers to a request
* `Device.raise`, `Device.turnLock`: the events on the device
-/

namespace MeshAlarm

/-- The state of an emulated device. -/
structure Device where
  version : Int
  /-- The event types that the device reports, in the order of the table. -/
  supported : List EventType
  /-- The node id in extended reports. -/
  sourceNodeId : Int := 1
  alarmType : UInt8 := 0
  level : UInt8 := 0
  /-- The parameter of the last event of each type, zero at first. -/
  parameter : EventType → UInt8 := fun _ => 0
  /-- Whether reports are sent unasked. -/
  announces : Bool := true

namespace Device

/-- A new device. Order and repetition of the given types do not matter. -/
def create (version : Int) (supported : List EventType) (sourceNodeId : Int := 1)
    (announces : Bool := true) : Device :=
  { version, sourceNodeId, announces
    supported := EventType.all.filter fun t => supported.contains t }

/-- The parameters of the reported event types. -/
def events (d : Device) : List (EventType × UInt8) :=
  d.supported.map fun t => (t, d.parameter t)

/-- The level while an event lasts. -/
def activeLevel : UInt8 := 0xff

/-- The level when no event lasts. -/
def idleLevel : UInt8 := 0x00

/-! ### Requests -/

/-- The short report of the present state. -/
def shortReport (d : Device) : Report :=
  { alarmType := d.alarmType.toNat, level := d.level.toNat }

/-- The report of the present state, for an event type if one was selected. -/
def reportFor (d : Device) (selected : Option EventType) : Report :=
  match selected with
  | some t =>
    if d.version = 1 then d.shortReport
    else { d.shortReport with
      sourceNodeId := some d.sourceNodeId
      status := some 0
      eventType := some t.ordinal
      eventParameter := some (d.parameter t).toNat }
  | none => d.shortReport

/-- The payload of a report. -/
def payloadOf (r : Report) : Except Fault (List UInt8) :=
  r.encode.map Packet.encode

/-- The packet that tells the event types of the device. Every memory has room for their bitmap, so
that it makes no difference which one it is written in. -/
def supportedPacket (d : Device) : Except Fault Packet :=
  SupportedReport.encode .widest { supported := d.supported }

/-- The answers to a request. -/
def answer (payload : List UInt8) : Act Device (List UInt8) (List (List UInt8)) := do
  let d ← Act.read
  let request ← Event.receive d.version payload
  Act.log .debug s!"Emulated device handling {request.describe}"
  match request with
  | .supportedGet =>
    if d.version = 1 then
      Act.log .warning "Version 1 device ignoring Supported Get"
      return []
    else
      return [(← Act.ofExcept d.supportedPacket).encode]
  | .get g => return [← Act.ofExcept (payloadOf (d.reportFor g.eventType))]
  | _ =>
    Act.log .warning
      s!"Emulated device ignoring unexpected payload {Text.Hex.ofBytes payload}"
    return []

/-! ### Events on the device -/

/-- Sends a report unasked. -/
def send (payload : List UInt8) : Act Device (List UInt8) (List UInt8) := do
  Act.log .debug s!"Emulated device sending {Text.Hex.ofBytes payload}"
  if (← Act.read).announces then Act.emit payload
  return payload

/-- Makes sure that a quantity fits into a byte. -/
def requireByte (field : ByteField) (given : Int) : Except Fault UInt8 :=
  if Bytes.Fits given then .ok (UInt8.ofNat given.toNat) else .error (.outsideByte field given)

/-- The state after an event of a type. -/
def raised (t : EventType) (parameter : UInt8) (d : Device) : Device :=
  { d with
    alarmType := t.byte
    level := if parameter = 0 then idleLevel else activeLevel
    parameter := fun u => if u = t then parameter else d.parameter u }

/-- Raises an event and sends the report of it. -/
def raise (t : EventType) (parameter : Int) : Act Device (List UInt8) (List UInt8) := do
  if t ∈ (← Act.read).supported then
    let parameter ← Act.ofExcept (requireByte .eventParameter parameter)
    Act.update (raised t parameter)
    -- The report may not fit into bytes, and the new state stays all the same.
    send (← Act.ofExcept (payloadOf ((← Act.read).reportFor (some t))))
  else Act.fail (.typeNotSupported t)

/-- The state after the lock turned. -/
def turned (alarmType level : UInt8) (d : Device) : Device :=
  { d with alarmType, level }

/-- Turns the lock and sends the legacy report of it. -/
def turnLock (alarmType : Int) (level : Int := 1) : Act Device (List UInt8) (List UInt8) := do
  if LockState.Covers alarmType then
    let level ← Act.ofExcept (requireByte .lockLevel level)
    Act.update (turned (UInt8.ofNat alarmType.toNat) level)
    send (← Act.ofExcept (payloadOf (← Act.read).shortReport))
  else Act.fail (.notLockType alarmType)

end Device

end MeshAlarm
