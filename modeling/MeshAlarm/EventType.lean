/-!
# Event types

A notification names its cause by an index into a table of fourteen event types. Indices beyond the
table occur on the wire and belong to no known type.

## Main definitions

* `EventType`: the event types, in the order of the table
* `EventType.all`: the table
* `EventType.ordinal`, `EventType.ofOrdinal?`: a type's index and back
* `EventType.label`: the display name
* `EventType.identifier`: the identifier, in capitals and underscores
* `EventType.labelOf`: the display name of an index, known or not
-/

namespace MeshAlarm

/-- The event types, in the order of their indices. -/
inductive EventType
  | general
  | smoke
  | carbonMonoxide
  | carbonDioxide
  | heat
  | flood
  | accessControl
  | burglar
  | powerManagement
  | system
  | emergency
  | clock
  | appliance
  | homeHealth
  deriving DecidableEq, Repr

namespace EventType

/-- Every event type, in the order of their indices. -/
def all : List EventType :=
  [general, smoke, carbonMonoxide, carbonDioxide, heat, flood, accessControl, burglar,
   powerManagement, system, emergency, clock, appliance, homeHealth]

/-- The number of event types. -/
def count : Nat := 14

/-! ### Indices -/

/-- The index of a type. -/
def ordinal : EventType → Nat
  | general => 0
  | smoke => 1
  | carbonMonoxide => 2
  | carbonDioxide => 3
  | heat => 4
  | flood => 5
  | accessControl => 6
  | burglar => 7
  | powerManagement => 8
  | system => 9
  | emergency => 10
  | clock => 11
  | appliance => 12
  | homeHealth => 13

/-- The index of a type as a byte on the wire. -/
def byte (t : EventType) : UInt8 :=
  UInt8.ofNat t.ordinal

/-- The type of an index, if the table has one. -/
def ofOrdinal? (raw : Int) : Option EventType :=
  if 0 ≤ raw then all[raw.toNat]? else none

@[simp] theorem length_all : all.length = count := rfl

@[simp] theorem mem_all (t : EventType) : t ∈ all := by
  cases t <;> decide

theorem ordinal_lt (t : EventType) : t.ordinal < count := by
  cases t <;> decide

@[simp] theorem ofOrdinal?_ordinal (t : EventType) : ofOrdinal? t.ordinal = some t := by
  cases t <;> rfl

theorem ordinal_inj {t u : EventType} : t.ordinal = u.ordinal ↔ t = u := by
  refine ⟨fun h => ?_, fun h => h ▸ rfl⟩
  have := ofOrdinal?_ordinal t
  rw [h, ofOrdinal?_ordinal] at this
  exact (Option.some.inj this).symm

/-! ### Names -/

/-- The display name of a type. -/
def label : EventType → String
  | general => "General"
  | smoke => "Smoke"
  | carbonMonoxide => "Carbon Monoxide"
  | carbonDioxide => "Carbon Dioxide"
  | heat => "Heat"
  | flood => "Flood"
  | accessControl => "Access Control"
  | burglar => "Burglar"
  | powerManagement => "Power Management"
  | system => "System"
  | emergency => "Emergency"
  | clock => "Clock"
  | appliance => "Appliance"
  | homeHealth => "HomeHealth"

/-- The identifier of a type. -/
def identifier : EventType → String
  | general => "GENERAL"
  | smoke => "SMOKE"
  | carbonMonoxide => "CARBON_MONOXIDE"
  | carbonDioxide => "CARBON_DIOXIDE"
  | heat => "HEAT"
  | flood => "FLOOD"
  | accessControl => "ACCESS_CONTROL"
  | burglar => "BURGLAR"
  | powerManagement => "POWER_MANAGEMENT"
  | system => "SYSTEM"
  | emergency => "EMERGENCY"
  | clock => "CLOCK"
  | appliance => "APPLIANCE"
  | homeHealth => "HOME_HEALTH"

/-- The type of an identifier, spelled exactly. -/
def ofIdentifier? (text : String) : Option EventType :=
  all.find? (·.identifier == text)

/-- The display name of an index, also of one beyond the table. -/
def labelOf (raw : Int) : String :=
  match ofOrdinal? raw with
  | some t => t.label
  | none => "Unknown type"

/-- A type as event descriptions show it, with its index. -/
def describe (t : EventType) : String :=
  s!"<EventType.{t.identifier}: {t.ordinal}>"

end EventType

end MeshAlarm
