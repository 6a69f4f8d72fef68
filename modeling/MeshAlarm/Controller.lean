import MeshAlarm.Handler

/-!
# The controller's side of a node

A controller keeps, for one node, the command class handler and the registry of its values. What the
handler wants done, the registry does at once, so that the log lines of the two come in the order of
events. Those who watch the controller see the notices of the registry and the decoded events.

## Main definitions

* `Controller`: a handler and a registry
* `Signal`: what those who watch a controller see
* `Controller.onRegistry`, `Controller.onHandler`: actions of the two parts
* `Controller.registerBasics`, `Controller.refresh`, `Controller.pollRequests`,
  `Controller.receive`: what the handler does, with the registry beside it
-/

namespace MeshAlarm

/-- The controller's side of a node. -/
structure Controller where
  handler : Handler
  registry : Registry
  deriving DecidableEq, Repr

/-- What those who watch a controller see. -/
inductive Signal
  /-- The registry announced something. -/
  | notice (notice : Notice)
  /-- An event was decoded. -/
  | event (event : Event)
  deriving DecidableEq, Repr

namespace Controller

variable {β : Type}

/-- The registry acts. -/
def onRegistry (m : Act Registry Notice β) : Act Controller Signal β :=
  Act.inside (·.registry) (fun c registry => { c with registry })
    (fun notice => Act.emit (.notice notice)) m

/-- What the handler emits is carried out. -/
def carry : Handler.Output → Act Controller Signal Unit
  | .operate operation => onRegistry (Registry.perform operation)
  | .ask _ => return
  | .event event => Act.emit (.event event)

/-- The handler acts. -/
def onHandler (m : Act Handler Handler.Output β) : Act Controller Signal β :=
  Act.inside (·.handler) (fun c handler => { c with handler }) carry m

/-- Registers the values that every alarm node has. -/
def registerBasics : Act Controller Signal Unit :=
  onHandler Handler.registerBasics

/-- The requests for a scope. -/
def refresh (scope : Scope) : Act Controller Signal (List Packet) := do
  onHandler (Handler.refresh (← Act.read).registry.capabilities scope)

/-- The Gets that poll the node. -/
def pollRequests : Act Controller Signal (List Packet) := do
  onHandler (Handler.pollRequests (← Act.read).registry.capabilities)

/-- Takes a payload from the node. -/
def receive (payload : List UInt8) : Act Controller Signal Bool :=
  onHandler (Handler.receive payload)

end Controller

end MeshAlarm
