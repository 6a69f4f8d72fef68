import MeshAlarm.Text.Quoted

/-!
# Descriptions of events

An event is described by its kind and its fields, as `<Kind {'field': value, …}>`. Texts among the
values are quoted.

## Main definitions

* `Describe.event`: the description of an event of a kind
* `Describe.optional`, `Describe.truth`: the values of fields
-/

namespace MeshAlarm.Describe

/-- A field that may be missing. -/
def optional {α : Type} (describe : α → String) : Option α → String
  | some a => describe a
  | none => "None"

/-- A field that is true or false. -/
def truth (b : Bool) : String :=
  if b then "True" else "False"

/-- A field with its name. -/
def field : String × String → String
  | (name, value) => Text.Quoted.quoteText name ++ ": " ++ value

/-- The description of an event by its kind and its fields. -/
def event (kind : String) (fields : List (String × String)) : String :=
  "<" ++ kind ++ " \x7b" ++ ", ".intercalate (fields.map field) ++ "\x7d>"

end MeshAlarm.Describe
