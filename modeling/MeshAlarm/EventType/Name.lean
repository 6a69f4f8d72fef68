import MeshAlarm.Fault
import MeshAlarm.Text.Blank
import MeshAlarm.Text.UpperCase

/-!
# Event types by name

An event type is given by its identifier or its display name, in either case, with hyphens, spaces
or underscores between the words and any blanks around: `CARBON_MONOXIDE`, `carbon-monoxide` and
` Carbon Monoxide` are the same.

## Main definitions

* `EventType.key`: the identifier that a name comes down to
* `EventType.ofName?`, `EventType.ofName`: the type of a name
-/

namespace MeshAlarm.EventType

/-- Hyphens and spaces become underscores. -/
def separator (c : Char) : Char :=
  if c = '-' ∨ c = ' ' then '_' else c

/-- A name without the blanks around it, in capitals and underscores. -/
def key (cs : List Char) : List Char :=
  (Text.upperCase (Text.trim Text.isBlank cs)).map separator

/-- The display name `HomeHealth` is written in one word, its identifier in two. -/
def joinedSpelling (cs : List Char) : List Char :=
  if cs = "HOMEHEALTH".toList then homeHealth.identifier.toList else cs

/-- The type of a name, if it is one. -/
def ofName? (name : String) : Option EventType :=
  all.find? fun t => t.identifier.toList == joinedSpelling (key name.toList)

/-- The type of a name. -/
def ofName (name : String) : Except Fault EventType :=
  match ofName? name with
  | some t => .ok t
  | none => .error (.unknownTypeName name)

end MeshAlarm.EventType
