import MeshAlarm.EventType

/-!
# Value indices

Every alarm value of a node has an index: the alarm type and the level have 0 and 1, the source node
2, and the event types follow in the order of the table, from 3 to 16. The lock state lives outside
the range of a byte, so that no event type runs into it.

## Main definitions

* `ValueIndex.alarmType`, `ValueIndex.level`, `ValueIndex.sourceNodeId`, `ValueIndex.lockState`: the
  fixed indices
* `ValueIndex.ofOrdinal`, `ValueIndex.ofEventType`: the index of an event type
* `ValueIndex.eventType?`: the event type of an index
-/

namespace MeshAlarm.ValueIndex

/-- The index of the alarm type. -/
def alarmType : Int := 0

/-- The index of the alarm level. -/
def level : Int := 1

/-- The index of the source node. -/
def sourceNodeId : Int := 2

/-- The index of the lock state. -/
def lockState : Int := 0x200

/-- The index of the event type at a place in the table. -/
def ofOrdinal (raw : Int) : Int :=
  raw + 3

/-- The index of an event type. -/
def ofEventType (t : EventType) : Int :=
  ofOrdinal t.ordinal

/-- The event type that an index belongs to, if any. -/
def eventType? (index : Int) : Option EventType :=
  EventType.ofOrdinal? (index - 3)

@[simp] theorem eventType?_ofEventType (t : EventType) : eventType? (ofEventType t) = some t := by
  cases t <;> rfl

theorem ofEventType_inj {t u : EventType} : ofEventType t = ofEventType u ↔ t = u := by
  refine ⟨fun h => ?_, fun h => h ▸ rfl⟩
  simpa using congrArg eventType? h

end MeshAlarm.ValueIndex
