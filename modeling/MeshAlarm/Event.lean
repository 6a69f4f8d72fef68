import MeshAlarm.Act
import MeshAlarm.Event.Get
import MeshAlarm.Event.Report
import MeshAlarm.Event.SupportedReport

/-!
# Events

An event is what a packet says: a report or a supported report from a device, or a Get or a
Supported Get to it. The command of a packet decides which; a Set carries no event. Each event
describes itself and, but for the bare one, has a packet.

## Main definitions

* `Event`: the events
* `Event.decode`, `Event.decodeLog`: the event of a packet, and what is logged on the way
* `Event.decodeAs`: the event of a packet in a layout given from outside
* `Event.encode`: the packet of an event
* `Event.ofPayload`: the event of a payload
* `Event.receive`: reads a payload and logs what is read
* `Event.kind`, `Event.describe`: the kind and the description of an event
-/

namespace MeshAlarm

/-- What a packet says. -/
inductive Event
  /-- An alarm report. -/
  | report (report : Report)
  /-- The event types that a device reports. -/
  | supported (report : SupportedReport)
  /-- A request for the alarm state. -/
  | get (get : Get)
  /-- A request for the supported event types. -/
  | supportedGet
  /-- An event of no command, which has no payload. -/
  | bare
  deriving DecidableEq, Repr

namespace Event

/-! ### Decoding -/

/-- The event of a packet at a version. -/
def decode (version : Int) (p : Packet) : Except DecodeFault Event :=
  match p.command with
  | .report => (Report.decode version p.data).map .report
  | .supportedReport => (SupportedReport.decode p.data).map .supported
  | .get => .ok (.get (Get.decode version p.data))
  | .supportedGet => .ok .supportedGet
  | .set => .error (.eventless .set)

/-- What reading the event of a packet logs. -/
def decodeLog (p : Packet) : List Log.Record :=
  match p.command with
  | .supportedReport => SupportedReport.decodeLog p.data
  | _ => []

/-- How packet data is read: as the command says, or in one layout whatever the command. -/
inductive Reading
  | byCommand
  | report
  | supported
  | get
  deriving DecidableEq, Repr

/-- The event of a packet at a version, read in a given way. -/
def decodeAs (reading : Reading) (version : Int) (p : Packet) : Except DecodeFault Event :=
  match reading with
  | .byCommand => decode version p
  | .report => (Report.decode version p.data).map .report
  | .supported => (SupportedReport.decode p.data).map .supported
  | .get => .ok (.get (Get.decode version p.data))

/-- What reading the event of a packet in a given way logs. -/
def decodeAsLog (reading : Reading) (p : Packet) : List Log.Record :=
  match reading with
  | .byCommand => decodeLog p
  | .supported => SupportedReport.decodeLog p.data
  | .report | .get => []

/-! ### Payloads -/

/-- The event of a payload at a version. -/
def ofPayload (version : Int) (payload : List UInt8) : Except DecodeFault Event := do
  decode version (← Packet.decode payload)

/-- What reading the event of a payload logs. -/
def ofPayloadLog (payload : List UInt8) : List Log.Record :=
  Packet.decodeLog payload ++
    match Packet.decode payload with
    | .ok p => decodeLog p
    | .error _ => []

variable {σ α : Type}

/-- Reads the event of a payload and logs what is read. -/
def receive (version : Int) (payload : List UInt8) : Act σ α Event := do
  Act.logAll (ofPayloadLog payload)
  Act.ofExcept ((ofPayload version payload).mapError .undecodable)

/-- Reads the event of a payload in a given way and logs what is read. -/
def receiveAs (reading : Reading) (version : Int) (payload : List UInt8) : Act σ α Event := do
  Act.logAll (Packet.decodeLog payload)
  let p ← Act.ofExcept ((Packet.decode payload).mapError .undecodable)
  Act.logAll (decodeAsLog reading p)
  Act.ofExcept ((decodeAs reading version p).mapError .undecodable)

/-! ### Encoding -/

/-- The packet of an event. -/
def encode (memory : Bitmap.Memory) : Event → Except Fault Packet
  | report r => r.encode
  | supported r => r.encode memory
  | get g => .ok g.encode
  | supportedGet => .ok { command := .supportedGet }
  | bare => .error .notEncodable

/-! ### Description -/

/-- The kind of an event. -/
def kind : Event → String
  | report _ => "AlarmReport"
  | supported _ => "SupportedReport"
  | get _ => "AlarmGet"
  | supportedGet => "SupportedGet"
  | bare => "BaseEvent"

/-- The description of an event. -/
def describe : Event → String
  | report r => r.describe
  | supported r => r.describe
  | get g => g.describe
  | supportedGet => Describe.event "SupportedGet" []
  | bare => Describe.event "BaseEvent" []

end Event

end MeshAlarm
