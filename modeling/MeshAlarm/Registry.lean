import MeshAlarm.Act
import MeshAlarm.ValueIndex

/-!
# The values of a node

A registry holds the alarm values of one node, in the order of their registration. The first
registration of an index counts: it gives the value its name and its place, and later ones change
nothing. Publishing refreshes the content of a registered index and is lost on any other. Those who
watch the registry are told of each new value and of each content that differs from the one before.

## Main definitions

* `Value`: what a value can hold
* `Entry`, `Registry`: a registered value, and the values of a node
* `Registry.find?`, `Registry.content?`, `Registry.names`: what is registered
* `Registry.targets`: the registered event types, in ascending order of their indices
* `Notice`: what the registry tells those who watch it
* `Registry.register`, `Registry.publish`: the operations
* `Operation`, `Registry.perform`: the operations as data
* `Registry.rows`: the values as lines of a table
-/

namespace MeshAlarm

/-! ### Values -/

/-- What a value can hold. -/
inductive Value
  | number (n : Int)
  | text (s : String)
  deriving DecidableEq, Repr

/-- A value as text. -/
def Value.render : Value → String
  | number n => toString n
  | text s => s

/-- The content of an entry as text. -/
def Value.renderContent : Option Value → String
  | some value => value.render
  | none => "None"

/-- A registered value: its index, its display name and its content, none at first. -/
structure Entry where
  index : Int
  name : String
  content : Option Value := none
  deriving DecidableEq, Repr

/-- Gives an entry new content if it has the index. -/
def Entry.write (index : Int) (content : Option Value) (e : Entry) : Entry :=
  if e.index = index then { e with content } else e

/-! ### Registries -/

/-- The values of a node, in the order of their registration. -/
structure Registry where
  nodeId : Int := 1
  /-- Whether the node answers Gets. -/
  answersGet : Bool := true
  entries : List Entry := []
  /-- Whether new values are announced. -/
  announcesAdded : Bool := false
  /-- Whether changed contents are announced. -/
  announcesChanged : Bool := false
  deriving DecidableEq, Repr

/-- What the registry tells those who watch it. -/
inductive Notice
  /-- A value was registered. -/
  | added (index : Int) (name : String)
  /-- The content of a value changed. -/
  | changed (index : Int) (content : Option Value)
  deriving DecidableEq, Repr

namespace Registry

/-- The entry at an index. -/
def find? (r : Registry) (index : Int) : Option Entry :=
  r.entries.find? (·.index == index)

/-- Whether an index is registered. -/
def isRegistered (r : Registry) (index : Int) : Bool :=
  r.entries.any (·.index == index)

/-- The content at an index, none if the index is not registered. -/
def content? (r : Registry) (index : Int) : Option Value :=
  (r.find? index).bind (·.content)

/-- The names of the values, in the order of registration. -/
def names (r : Registry) : List String :=
  r.entries.map (·.name)

/-- The registered event types with their indices, ascending. -/
def targets (r : Registry) : List (Int × EventType) :=
  EventType.all.filterMap fun t =>
    if r.isRegistered (ValueIndex.ofEventType t) then some (ValueIndex.ofEventType t, t) else none

/-! ### Operations -/

/-- Creates the value at an index; if there is one already, it stays as it is. -/
def register (index : Int) (name : String) : Act Registry Notice Unit := do
  let r ← Act.read
  if r.isRegistered index then
    Act.log .debug s!"Node {r.nodeId} value {index} already registered"
  else
    Act.update fun r => { r with entries := r.entries ++ [{ index, name }] }
    if r.announcesAdded then Act.emit (.added index name)

/-- Refreshes the content at an index; if there is no value, the content is lost. -/
def publish (index : Int) (content : Option Value) : Act Registry Notice Unit := do
  let r ← Act.read
  let shown := Value.renderContent content
  match r.find? index with
  -- A lost content is logged, and nobody is told.
  | none =>
    Act.log .debug s!"Node {r.nodeId} ignoring value {shown} for unregistered index {index}"
  | some entry =>
    if entry.content ≠ content then
      let before := Value.renderContent entry.content
      Act.log .debug s!"Node {r.nodeId} value {entry.name} change {before}->{shown}"
      Act.update fun r => { r with entries := r.entries.map (Entry.write index content) }
      if r.announcesChanged then Act.emit (.changed index content)

end Registry

/-! ### Operations as data -/

/-- What a registry is asked to do. -/
inductive Operation
  | register (index : Int) (name : String)
  | publish (index : Int) (content : Option Value)
  deriving DecidableEq, Repr

namespace Registry

/-- Carries out an operation. -/
def perform : Operation → Act Registry Notice Unit
  | .register index name => register index name
  | .publish index content => publish index content

/-! ### Tables -/

/-- A number right-aligned in three columns. -/
def column (n : Int) : String :=
  let digits := toString n
  "".pushn ' ' (3 - digits.length) ++ digits

/-- The values as lines of a table. -/
def rows (r : Registry) : List String :=
  r.entries.map fun e => s!"  {column e.index} {e.name}: {Value.renderContent e.content}"

end Registry

end MeshAlarm
