import MeshAlarm.Request

/-!
# The command class handler of a node

The handler turns the payloads of a node into operations on the node's registry, and builds the
requests that keep the registry up to date. It holds no values itself: what it wants done is emitted,
and what it has to know of the registry is passed in.

Which event types the node reports is discovered once. The first request for static state of a node
of version 2 or later asks for them; a node of version 1 cannot be asked, so its discovery is
complete at once. A supported report completes the discovery, asked for or not.

A payload of another command is left alone. One that cannot be decoded is counted and dropped.

## Main definitions

* `Discovery`: how far the discovery is
* `Handler`, `Handler.create`: the state of a handler
* `Scope`: which kinds of state a request is for
* `Handler.Output`: what a handler emits
* `Handler.registerBasics`, `Handler.refresh`, `Handler.pollRequests`, `Handler.receive`: what a
  handler does
-/

namespace MeshAlarm

/-- How far the discovery of the supported event types is. -/
inductive Discovery
  | unknown
  | requested
  | known
  deriving DecidableEq, Repr

/-- The identifier of a stage of the discovery. -/
def Discovery.identifier : Discovery → String
  | unknown => "VALUES_UNKNOWN"
  | requested => "VALUES_REQUESTED"
  | known => "VALUES_KNOWN"

/-- The stage of an identifier, spelled exactly. -/
def Discovery.ofIdentifier? (text : String) : Option Discovery :=
  [unknown, requested, known].find? (·.identifier == text)

/-- Which kinds of state a request is for: the supported event types, which are static, and the
alarm values, which are dynamic. -/
structure Scope where
  static : Bool := false
  dynamic : Bool := false
  deriving DecidableEq, Repr

/-- The state of the command class handler of a node. -/
structure Handler where
  nodeId : Int := 1
  version : Int := 1
  /-- Whether the node reports its lock through the legacy alarm types. -/
  legacyLockState : Bool := false
  discovery : Discovery := .unknown
  /-- The number of payloads that could not be decoded. -/
  discarded : Nat := 0
  /-- Whether decoded events are announced. -/
  announcesEvents : Bool := false
  deriving DecidableEq, Repr

namespace Handler

/-- A new handler. Versions start at one. -/
def create (nodeId : Int := 1) (version : Int := 1) (legacyLockState : Bool := false) :
    Except Fault Handler :=
  if version < 1 then .error (.versionTooLow version)
  else .ok { nodeId, version, legacyLockState }

/-- What a handler emits. -/
inductive Output
  /-- The registry is to do something. -/
  | operate (operation : Operation)
  /-- The registry was asked something. -/
  | ask (inquiry : Inquiry)
  /-- An event was decoded. -/
  | event (event : Event)
  deriving DecidableEq, Repr

/-- Has the registry create a value. -/
def register (index : Int) (name : String) : Act Handler Output Unit :=
  Act.emit (.operate (.register index name))

/-- Has the registry refresh a value. -/
def publish (index : Int) (value : Value) : Act Handler Output Unit :=
  Act.emit (.operate (.publish index (some value)))

/-! ### Values -/

/-- Registers the values that every alarm node has. -/
def registerBasics : Act Handler Output Unit := do
  let h ← Act.read
  register ValueIndex.alarmType "Alarm Type"
  register ValueIndex.level "Alarm Level"
  if h.legacyLockState then register ValueIndex.lockState "Lock State"

/-! ### Requests -/

/-- Logs the packets to be sent. -/
def logSending (nodeId : Int) (packets : List Packet) : Act Handler Output Unit :=
  Act.logAll (packets.map fun p => ⟨.debug, s!"Node {nodeId} sending {p.name}: {p.hex}"⟩)

/-- The Gets that poll the node, none if it does not answer Gets. -/
def pollRequests (capabilities : Capabilities) : Act Handler Output (List Packet) := do
  let h ← Act.read
  let built ← Act.attempt <|
    Act.inside (fun _ => ()) (fun h _ => h) (fun inquiry => Act.emit (.ask inquiry))
      (Request.pollsFor capabilities h.version)
  match built with
  | .ok packets =>
    logSending h.nodeId packets
    return packets
  -- A node that answers no Gets is left in peace; every other fault is passed on.
  | .error .noGetCapability =>
    Act.log .info s!"Node {h.nodeId} AlarmCmd_Get Not Supported on this node"
    return []
  | .error fault => Act.fail fault

/-- The requests for the dynamic part of a scope. -/
def requestDynamic (capabilities : Capabilities) (scope : Scope) :
    Act Handler Output (List Packet) :=
  if scope.dynamic then pollRequests capabilities else return []

/-- Asks for the supported event types. -/
def requestSupported : Act Handler Output (List Packet) := do
  let h ← Act.read
  let packet ← Act.ofExcept (Request.supportedGet h.version)
  Act.log .debug s!"Node {h.nodeId} sending {packet.name}"
  Act.update fun h => { h with discovery := .requested }
  return [packet]

/-- The requests for a scope. Static state comes first and alone. -/
def refresh (capabilities : Capabilities) (scope : Scope) :
    Act Handler Output (List Packet) := do
  let h ← Act.read
  if scope.static ∧ h.discovery = .unknown then
    if 1 < h.version then requestSupported
    else
      -- Nothing can be asked, so the request goes on to the dynamic state at once.
      Act.update fun h => { h with discovery := .known }
      requestDynamic capabilities scope
  else requestDynamic capabilities scope

/-! ### Payloads from the node -/

/-- Whether a payload is of a command that nodes send. -/
def handles : List UInt8 → Bool
  | b :: _ => b == Command.report.byte || b == Command.supportedReport.byte
  | [] => false

/-- The log line of a report. -/
def reportLine (nodeId : Int) (r : Report) : String :=
  let short := s!"Node {nodeId} Received Alarm report: type={r.alarmType}, level={r.level}"
  match r.eventType with
  | none => short
  | some eventType =>
    let source := Describe.optional toString r.sourceNodeId
    let parameter := Describe.optional toString r.eventParameter
    let status := Describe.optional toString r.status
    short ++ s!", sensorSrcID={source}, type:{EventType.labelOf eventType} event:{parameter}"
      ++ s!", status={status}"

/-- Publishes the lock state of a report, if its alarm type stands for one. -/
def publishLockState (r : Report) : Act Handler Output Unit := do
  match r.lockState? with
  | none => return
  | some state =>
    Act.log .debug s!"Node {(← Act.read).nodeId} lock state: {state.label}"
    publish ValueIndex.lockState (.text state.label)

/-- Publishes the source of a report, if it names one. -/
def publishSource (r : Report) : Act Handler Output Unit :=
  match r.sourceNodeId with
  | none => return
  | some source => publish ValueIndex.sourceNodeId (.number source)

/-- Publishes the parameter of a report under its event type, if the table knows the type. -/
def publishEvent (r : Report) : Act Handler Output Unit := do
  match r.knownEventType?, r.eventParameter, r.eventType with
  | some t, some parameter, _ => publish (ValueIndex.ofEventType t) (.number parameter)
  | _, _, some raw =>
    let nodeId := (← Act.read).nodeId
    Act.log .info s!"Node {nodeId} ignoring event for unknown alarm type: {raw}"
  | _, _, none => return

/-- Publishes what a report says. -/
def takeReport (r : Report) : Act Handler Output Unit := do
  Act.log .info (reportLine (← Act.read).nodeId r)
  publish ValueIndex.alarmType (.number r.alarmType)
  publish ValueIndex.level (.number r.level)
  publishLockState r
  publishSource r
  publishEvent r

/-- Registers a value for each type. -/
def registerTypes : List EventType → Act Handler Output Unit
  | [] => return
  | t :: types => do
    register (ValueIndex.ofEventType t) t.label
    Act.log .info s!"    Added alarm type: {t.label}"
    registerTypes types

/-- Registers the values that a supported report promises, and completes the discovery. -/
def takeSupported (r : SupportedReport) : Act Handler Output Unit := do
  Act.log .info s!"Node {(← Act.read).nodeId} Received supported alarm types"
  register ValueIndex.sourceNodeId "SourceNodeId"
  Act.log .info "    Added alarm SourceNodeId"
  registerTypes r.supported
  Act.update fun h => { h with discovery := .known }

/-- Takes what an event says into the registry. -/
def absorb : Event → Act Handler Output Unit
  | .report r => takeReport r
  | .supported r => takeSupported r
  | _ => return

/-- Takes what an event says into the registry, then announces the event. -/
def takeEvent (event : Event) : Act Handler Output Unit := do
  absorb event
  if (← Act.read).announcesEvents then Act.emit (.event event)

/-- Counts and drops a payload that could not be decoded. -/
def discard (payload : List UInt8) (fault : Fault) : Act Handler Output Unit := do
  Act.update fun h => { h with discarded := h.discarded + 1 }
  let nodeId := (← Act.read).nodeId
  Act.log .warning
    s!"Node {nodeId} discarding alarm payload {Text.Hex.ofBytes payload}: {fault.message}"

/-- Takes a payload from the node, and answers whether it was of a command that nodes send. -/
def receive (payload : List UInt8) : Act Handler Output Bool := do
  if handles payload then
    let h ← Act.read
    -- Only decoding can fail here, so the registry has seen nothing of a dropped payload.
    match ← Act.attempt (Event.receive h.version payload) with
    | .ok event => takeEvent event
    | .error fault => discard payload fault
    return true
  else return false

end Handler

end MeshAlarm
