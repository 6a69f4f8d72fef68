import MeshAlarm.Act
import MeshAlarm.Event
import MeshAlarm.Registry

/-!
# Requests

A Get has the layout of the negotiated version: bare in version 1, with an event type in version 2,
with an event type and the flag for its first event from version 3 on. A Supported Get exists from
version 2 on.

Requests for a node depend on what its registry answers: whether the node answers Gets at all, and
which event types are registered. To poll a node of version 2 or later each of these types is asked
for on its own, in the order of the table.

## Main definitions

* `Request.get`, `Request.supportedGet`: the requests of a version
* `Capabilities`: what a registry answers about its node
* `Inquiry`: the questions put to a registry
* `Request.getFor`, `Request.pollsFor`: the requests for a node
* `Request.inTypeOrder`: targets in the order of the table
-/

namespace MeshAlarm

/-- What a registry answers about its node. -/
structure Capabilities where
  /-- Whether the node answers Gets. -/
  answersGet : Bool := true
  /-- The event types to poll, with their value indices. -/
  targets : List (Int × EventType) := []

/-- The questions put to a registry. -/
inductive Inquiry
  | answersGet
  | targets
  deriving DecidableEq, Repr

namespace Request

/-! ### Requests of a version -/

/-- The first version whose Gets ask for the first event of a type. -/
def firstEventVersion : Int := 3

/-- The Get of a version for an event type. -/
def get (version : Int) (eventType : Option EventType := none) : Except Fault Packet :=
  if version < 1 then .error (.versionTooLow version)
  else if version = 1 then .ok (Get.encode {})
  else match eventType with
    | none => .error (.typeMissing version)
    | some t =>
      .ok (Get.encode { eventType := some t, firstEvent := firstEventVersion ≤ version })

/-- The Supported Get of a version. -/
def supportedGet (version : Int) : Except Fault Packet :=
  if version ≤ 1 then .error (.noSupportedGet version)
  else .ok { command := .supportedGet }

/-! ### Requests for a node -/

/-- Targets in the order of the table; those of one type keep their order. -/
def inTypeOrder (targets : List (Int × EventType)) : List (Int × EventType) :=
  EventType.all.flatMap fun t => targets.filter fun target => target.2 == t

/-- Makes sure that the node answers Gets. -/
def requireGet (capabilities : Capabilities) : Act Unit Inquiry Unit := do
  Act.emit .answersGet
  if !capabilities.answersGet then Act.fail .noGetCapability

/-- A Get for a node. -/
def getFor (capabilities : Capabilities) (version : Int) (eventType : Option EventType := none) :
    Act Unit Inquiry Packet := do
  requireGet capabilities
  Act.ofExcept (get version eventType)

/-- The Get for each target in turn. -/
def pollEach (version : Int) : List (Int × EventType) → Act Unit Inquiry (List Packet)
  | [] => return []
  | (index, t) :: targets => do
    Act.log .debug s!"Polling {t.label} (value index {index})"
    let packet ← Act.ofExcept (get version (some t))
    return packet :: (← pollEach version targets)

/-- The Gets that poll a node: one in version 1, one for each target in later versions. -/
def pollsFor (capabilities : Capabilities) (version : Int) :
    Act Unit Inquiry (List Packet) := do
  requireGet capabilities
  if version = 1 then
    return [← Act.ofExcept (get version)]
  else
    Act.emit .targets
    pollEach version (inTypeOrder capabilities.targets)

end Request

/-- What the registry answers about its node. -/
def Registry.capabilities (r : Registry) : Capabilities :=
  { answersGet := r.answersGet, targets := r.targets }

end MeshAlarm
