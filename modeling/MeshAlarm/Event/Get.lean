import MeshAlarm.Event.Describe
import MeshAlarm.Packet

/-!
# Gets

A Get asks a device for its alarm state. In version 1 it carries nothing; from version 2 on it
selects an event type, and from version 3 on a flag asks for the first event of that type.

## Main definitions

* `Get`: the fields of a Get
* `Get.decode`, `Get.encode`: a Get from packet data and back
* `Get.describe`: the description of a Get
-/

namespace MeshAlarm

/-- The fields of a Get. -/
structure Get where
  eventType : Option EventType := none
  firstEvent : Bool := false
  deriving DecidableEq, Repr

namespace Get

/-- The byte in front of the event type. -/
def reserved : UInt8 := 0x00

/-- The flag that asks for the first event of a type. -/
def firstEventFlag : UInt8 := 0x01

/-- Reads a Get from packet data. Version 1 and short payloads select nothing; neither does an
index beyond the table, whose flag is read all the same. -/
def decode (version : Int) : List UInt8 → Get
  | _ :: eventType :: rest =>
    if version = 1 then {}
    -- The flag does not depend on whether the table knows the event type.
    else {
      eventType := EventType.ofOrdinal? eventType.toNat
      firstEvent := rest.head? == some firstEventFlag }
  | _ => {}

/-- Writes a Get. The flag is written only behind an event type. -/
def encode (g : Get) : Packet :=
  match g.eventType with
  | none => { command := .get }
  | some eventType =>
    { command := .get
      data := reserved :: eventType.byte :: if g.firstEvent then [firstEventFlag] else [] }

/-- The description of a Get. -/
def describe (g : Get) : String :=
  Describe.event "AlarmGet"
    [("event_type", Describe.optional EventType.describe g.eventType),
     ("first_event", Describe.truth g.firstEvent)]

end Get

end MeshAlarm
