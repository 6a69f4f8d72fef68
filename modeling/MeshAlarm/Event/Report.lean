import MeshAlarm.Event.Describe
import MeshAlarm.Packet

/-!
# Alarm reports

A report carries an alarm type and a level. From version 2 on a device may append the node that
raised the event, a status, an event type and the event's parameter; the event type may be one that
the table does not know. Which of the two layouts a report has is decided by the version and the
length when it is read, and by the presence of an event type when it is written.

## Main definitions

* `Report`: the fields of a report
* `Report.lockState?`, `Report.knownEventType?`, `Report.eventTypeName?`: what the fields stand for
* `Report.decode`, `Report.encode`: a report from packet data and back
* `Report.describe`: the description of a report
-/

namespace MeshAlarm

/-- The fields of a report; those after the level are the extended ones. -/
structure Report where
  alarmType : Int
  level : Int
  sourceNodeId : Option Int := none
  status : Option Int := none
  eventType : Option Int := none
  eventParameter : Option Int := none
  deriving DecidableEq, Repr

namespace Report

/-- The lock state that the alarm type stands for. -/
def lockState? (r : Report) : Option LockState :=
  LockState.ofAlarmType? r.alarmType

/-- Whether the report carries the extended fields. -/
def isExtended (r : Report) : Bool :=
  r.eventType.isSome

/-- The event type, if there is one and the table knows it. -/
def knownEventType? (r : Report) : Option EventType :=
  r.eventType.bind EventType.ofOrdinal?

/-- The display name of the event type, if there is one. -/
def eventTypeName? (r : Report) : Option String :=
  r.eventType.map EventType.labelOf

/-! ### Decoding -/

/-- Reads a report from packet data. Version 1 and short payloads have no extended fields. -/
def decode (version : Int) : List UInt8 → Except DecodeFault Report
  | alarmType :: level :: rest =>
    let short : Report := { alarmType := alarmType.toNat, level := level.toNat }
    match rest with
    | source :: status :: eventType :: parameter :: _ =>
      if version = 1 then .ok short
      else .ok { short with
        sourceNodeId := some source.toNat
        status := some status.toNat
        eventType := some eventType.toNat
        eventParameter := some parameter.toNat }
    | _ => .ok short
  | data => .error (.tooShort .report (data.length + 1))

/-! ### Encoding -/

/-- The numbers after the command byte. Extended fields that are missing are zero. -/
def numbers (r : Report) : List Int :=
  match r.eventType with
  | none => [r.alarmType, r.level]
  | some eventType =>
    [r.alarmType, r.level, r.sourceNodeId.getD 0, r.status.getD 0, eventType,
     r.eventParameter.getD 0]

/-- Writes a report. -/
def encode (r : Report) : Except Fault Packet :=
  match Bytes.ofNumbers? r.numbers with
  | some data => .ok { command := .report, data }
  | none => .error .byteOverflow

/-! ### Description -/

/-- The description of a report. -/
def describe (r : Report) : String :=
  Describe.event "AlarmReport"
    [("alarm_type", toString r.alarmType),
     ("level", toString r.level),
     ("source_node_id", Describe.optional toString r.sourceNodeId),
     ("status", Describe.optional toString r.status),
     ("event_type", Describe.optional toString r.eventType),
     ("event_parameter", Describe.optional toString r.eventParameter),
     ("lock_state",
       Describe.optional (fun state => Text.Quoted.quoteText state.label) r.lockState?)]

end Report

end MeshAlarm
