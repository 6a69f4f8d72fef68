import MeshAlarm.Handler
import MeshAlarm.Proofs.Decoding
import MeshAlarm.Proofs.Registry

/-!
# What a handler does

What a handler has done to its registry is a list of operations that follows from the event alone:
a report is a list of writes, and a supported report a list of registrations. Of its own state only
the discovery and the count of dropped payloads ever change. Requests ask the registry and have no
other effect on it.

## Main definitions

* `Report.writes`: what a report has written, index by index
* `Event.operations`: what an event has done to the registry
* `Handler.informed`: a handler after an event
* `Request.poll`, `Request.polls`: the Get for one type, and the Gets that poll a node
* `Handler.requests`, `Handler.refreshed`: what a request for a scope answers, and the handler then

## Main results

* `Handler.effect_receive_of_ok`, `Handler.effect_receive_of_error`,
  `Handler.effect_receive_of_not_handles`: what a payload does
* `Handler.effect_refresh`, `Handler.effect_pollRequests`: what requests do
-/

namespace MeshAlarm

/-! ### Events as operations -/

/-- What a report has written: the alarm type, the level, and what else it knows of the lock state,
the source and the event. -/
def Report.writes (r : Report) : List (Int × Value) :=
  [(ValueIndex.alarmType, .number r.alarmType), (ValueIndex.level, .number r.level)]
    ++ (r.lockState?.map fun state => (ValueIndex.lockState, Value.text state.label)).toList
    ++ (r.sourceNodeId.map fun source => (ValueIndex.sourceNodeId, Value.number source)).toList
    ++ match r.knownEventType?, r.eventParameter with
      | some t, some parameter => [(ValueIndex.ofEventType t, .number parameter)]
      | _, _ => []

/-- What an event has done to the registry. -/
def Event.operations : Event → List Operation
  | .report r => r.writes.map .write
  | .supported r =>
    .register ValueIndex.sourceNodeId "SourceNodeId" ::
      r.supported.map fun t => .register (ValueIndex.ofEventType t) t.label
  | _ => []

/-! ### Polls -/

namespace Request

/-- The Get for an event type, from version 2 on. -/
def poll (version : Int) (t : EventType) : Packet :=
  Get.encode { eventType := some t, firstEvent := firstEventVersion ≤ version }

def polls (capabilities : Capabilities) (version : Int) : List Packet :=
  if capabilities.answersGet then
    if version = 1 then [Get.encode {}]
    else (inTypeOrder capabilities.targets).map fun target => poll version target.2
  else []

theorem command_encode_get (g : Get) : g.encode.command = .get := by
  unfold Get.encode
  split <;> rfl

/-- A node is polled with Gets only. -/
theorem command_of_mem_polls {capabilities : Capabilities} {version : Int} {p : Packet}
    (h : p ∈ polls capabilities version) : p.command = .get := by
  unfold polls at h
  split at h
  · split at h
    · rw [List.mem_singleton.1 h, command_encode_get]
    · obtain ⟨target, -, rfl⟩ := List.mem_map.1 h
      exact command_encode_get _
  · cases h

theorem get_of_one : get 1 = .ok (Get.encode {}) := rfl

theorem get_of_type {version : Int} (h : 1 ≤ version) (h₁ : version ≠ 1) (t : EventType) :
    get version (some t) = .ok (poll version t) := by
  simp [get, poll, h₁, Int.not_lt.2 h]

theorem effect_pollEach {version : Int} (h : 1 ≤ version) (h₁ : version ≠ 1)
    (targets : List (Int × EventType)) (u : Unit) :
    (pollEach version targets).effect u =
      ⟨.ok (targets.map fun target => poll version target.2), u, []⟩ := by
  induction targets with
  | nil => rfl
  | cons target targets ih => simp [pollEach, get_of_type h h₁, ih]

theorem effect_pollsFor {version : Int} (h : 1 ≤ version) (capabilities : Capabilities) (u : Unit) :
    ∃ asked, (pollsFor capabilities version).effect u =
      if capabilities.answersGet then ⟨.ok (polls capabilities version), u, asked⟩
      else ⟨.error .noGetCapability, u, asked⟩ := by
  unfold pollsFor requireGet polls
  cases capabilities.answersGet with
  | false => exact ⟨[.answersGet], by simp⟩
  | true =>
    by_cases h₁ : version = 1
    · subst h₁
      exact ⟨[.answersGet], by simp [get_of_one]⟩
    · exact ⟨[.answersGet, .targets], by simp [h₁, effect_pollEach h h₁]⟩

end Request

/-! ### Handlers -/

namespace Handler

/-- A handler after an event: a supported report completes the discovery. -/
def informed : Event → Handler → Handler
  | .supported _, h => { h with discovery := .known }
  | _, h => h

variable (h : Handler)

@[simp] theorem effect_register (index : Int) (name : String) :
    (register index name).effect h = ⟨.ok (), h, [.operate (.register index name)]⟩ := rfl

@[simp] theorem effect_publish (index : Int) (value : Value) :
    (publish index value).effect h = ⟨.ok (), h, [.operate (.write (index, value))]⟩ := rfl

/-- The registrations of the values that every alarm node has. -/
def basics : List Operation :=
  [.register ValueIndex.alarmType "Alarm Type", .register ValueIndex.level "Alarm Level"]
    ++ if h.legacyLockState then [.register ValueIndex.lockState "Lock State"] else []

theorem effect_registerBasics :
    registerBasics.effect h = ⟨.ok (), h, h.basics.map .operate⟩ := by
  unfold registerBasics basics
  cases hl : h.legacyLockState <;> simp [hl]

/-! ### Payloads -/

theorem effect_takeReport (r : Report) :
    (takeReport r).effect h = ⟨.ok (), h, r.writes.map fun w => .operate (.write w)⟩ := by
  have hlock : (publishLockState r).effect h = ⟨.ok (), h,
      (r.lockState?.map fun state =>
        Output.operate (.write (ValueIndex.lockState, .text state.label))).toList⟩ := by
    unfold publishLockState
    cases r.lockState? <;> simp
  have hsource : (publishSource r).effect h = ⟨.ok (), h,
      (r.sourceNodeId.map fun source =>
        Output.operate (.write (ValueIndex.sourceNodeId, .number source))).toList⟩ := by
    unfold publishSource
    cases r.sourceNodeId <;> simp
  have hevent : (publishEvent r).effect h = ⟨.ok (), h,
      match r.knownEventType?, r.eventParameter with
      | some t, some parameter =>
        [.operate (.write (ValueIndex.ofEventType t, .number parameter))]
      | _, _ => []⟩ := by
    unfold publishEvent
    cases r.knownEventType? <;> cases r.eventParameter <;> cases r.eventType <;> simp
  simp only [takeReport, Report.writes, Act.effect_bind, Act.effect_read, Act.effect_log,
    Effect.andThen_ok, effect_publish, hlock, hsource, hevent]
  cases r.lockState? <;> cases r.sourceNodeId <;> cases r.knownEventType? <;>
    cases r.eventParameter <;> simp

theorem effect_registerTypes (types : List EventType) :
    (registerTypes types).effect h = ⟨.ok (), h,
      types.map fun t => .operate (.register (ValueIndex.ofEventType t) t.label)⟩ := by
  induction types with
  | nil => rfl
  | cons t types ih => simp [registerTypes, ih]

theorem effect_absorb (event : Event) :
    (absorb event).effect h = ⟨.ok (), informed event h, event.operations.map .operate⟩ := by
  cases event with
  | report r =>
    rw [absorb, effect_takeReport, Event.operations, List.map_map]
    rfl
  | supported r => simp [absorb, takeSupported, effect_registerTypes, informed, Event.operations]
  | get | supportedGet | bare => rfl

@[simp] theorem informed_announcesEvents (event : Event) :
    (informed event h).announcesEvents = h.announcesEvents := by
  cases event <;> rfl

theorem effect_takeEvent (event : Event) :
    (takeEvent event).effect h = ⟨.ok (), informed event h,
      event.operations.map .operate ++ if h.announcesEvents then [.event event] else []⟩ := by
  unfold takeEvent
  cases ha : h.announcesEvents <;> simp [effect_absorb, ha]

theorem handles_iff {payload : List UInt8} :
    handles payload ↔ payload.head? = some 0x05 ∨ payload.head? = some 0x08 := by
  cases payload with
  | nil => simp [handles]
  | cons b data => simp [handles, Command.byte]

theorem effect_receive_of_not_handles {payload : List UInt8} (hp : handles payload = false) :
    (receive payload).effect h = ⟨.ok false, h, []⟩ := by
  simp [receive, hp]

theorem effect_eventReceive {σ α : Type} (version : Int) (payload : List UInt8) (s : σ) :
    (Event.receive version payload : Act σ α Event).effect s =
      ⟨(Event.ofPayload version payload).mapError .undecodable, s, []⟩ := by
  simp [Event.receive]

theorem effect_receive_of_ok {payload : List UInt8} {event : Event} (hp : handles payload)
    (hevent : Event.ofPayload h.version payload = .ok event) :
    (receive payload).effect h = ⟨.ok true, informed event h,
      event.operations.map .operate ++ if h.announcesEvents then [.event event] else []⟩ := by
  simp only [receive, if_pos hp, Act.effect_bind, Act.effect_read, Act.effect_attempt,
    effect_eventReceive, hevent, Effect.andThen_ok, Except.mapError, effect_takeEvent,
    Act.effect_pure]
  simp

theorem effect_receive_of_error {payload : List UInt8} {fault : DecodeFault} (hp : handles payload)
    (hfault : Event.ofPayload h.version payload = .error fault) :
    (receive payload).effect h = ⟨.ok true, { h with discarded := h.discarded + 1 }, []⟩ := by
  simp [receive, if_pos hp, effect_eventReceive, hfault, Except.mapError, discard]

/-- A payload is left alone, counted and dropped, or taken in. -/
theorem receive_cases (payload : List UInt8) :
    (handles payload = false ∧ (receive payload).effect h = ⟨.ok false, h, []⟩) ∨
      (∃ fault, handles payload ∧ Event.ofPayload h.version payload = .error fault ∧
        (receive payload).effect h = ⟨.ok true, { h with discarded := h.discarded + 1 }, []⟩) ∨
      ∃ event, handles payload ∧ Event.ofPayload h.version payload = .ok event ∧
        (receive payload).effect h = ⟨.ok true, informed event h,
          event.operations.map .operate ++ if h.announcesEvents then [.event event] else []⟩ := by
  cases hp : handles payload with
  | false => exact .inl ⟨rfl, h.effect_receive_of_not_handles hp⟩
  | true =>
    cases hdecode : Event.ofPayload h.version payload with
    | error fault => exact .inr (.inl ⟨fault, rfl, rfl, h.effect_receive_of_error hp hdecode⟩)
    | ok event => exact .inr (.inr ⟨event, rfl, rfl, h.effect_receive_of_ok hp hdecode⟩)

/-! ### Requests -/

/-- The Gets that poll the node are answered, and the registry is only asked. -/
theorem effect_pollRequests (hv : 1 ≤ h.version) (capabilities : Capabilities) :
    ∃ asked : List Inquiry, (pollRequests capabilities).effect h =
      ⟨.ok (Request.polls capabilities h.version), h, asked.map .ask⟩ := by
  obtain ⟨asked, hasked⟩ := Request.effect_pollsFor hv capabilities ()
  refine ⟨asked, ?_⟩
  have hemit : ∀ inquiry, (Act.emit (.ask inquiry) : Act Handler Output Unit).Answers :=
    fun _ => Act.answers_emit _
  simp only [pollRequests, Act.effect_bind, Act.effect_read, Act.effect_attempt,
    Act.effect_inside_of_answers hemit, Act.effect_each_emit, hasked, Effect.andThen_ok]
  cases ha : capabilities.answersGet <;> simp [Request.polls, ha, logSending]

theorem effect_requestDynamic (hv : 1 ≤ h.version) (capabilities : Capabilities) (scope : Scope) :
    ∃ asked : List Inquiry, (requestDynamic capabilities scope).effect h =
      ⟨.ok (if scope.dynamic then Request.polls capabilities h.version else []), h,
        asked.map .ask⟩ := by
  unfold requestDynamic
  cases scope.dynamic with
  | false => exact ⟨[], rfl⟩
  | true => exact h.effect_pollRequests hv capabilities

/-- A handler after a request for a scope. -/
def refreshed (scope : Scope) : Handler :=
  if scope.static ∧ h.discovery = .unknown then
    { h with discovery := if 1 < h.version then .requested else .known }
  else h

/-- The packets that a request for a scope comes to. -/
def requests (capabilities : Capabilities) (scope : Scope) : List Packet :=
  if scope.static ∧ h.discovery = .unknown ∧ 1 < h.version then [{ command := .supportedGet }]
  else if scope.dynamic then Request.polls capabilities h.version
  else []

theorem command_of_mem_requests {capabilities : Capabilities} {scope : Scope} {p : Packet}
    (hp : p ∈ h.requests capabilities scope) : p.command = .get ∨ p.command = .supportedGet := by
  unfold requests at hp
  split at hp
  · rw [List.mem_singleton.1 hp]
    exact .inr rfl
  · split at hp
    · exact .inl (Request.command_of_mem_polls hp)
    · cases hp

/-- Static state is asked for first and alone; the registry is only asked. -/
theorem effect_refresh (hv : 1 ≤ h.version) (capabilities : Capabilities) (scope : Scope) :
    ∃ asked : List Inquiry, (refresh capabilities scope).effect h =
      ⟨.ok (h.requests capabilities scope), h.refreshed scope, asked.map .ask⟩ := by
  unfold refresh requests refreshed
  by_cases hs : scope.static ∧ h.discovery = .unknown
  · by_cases h₁ : 1 < h.version
    · refine ⟨[], ?_⟩
      simp [hs, h₁, Int.not_le.2 h₁, requestSupported, Request.supportedGet]
    · obtain ⟨asked, hasked⟩ :=
        effect_requestDynamic { h with discovery := .known } hv capabilities scope
      exact ⟨asked, by simp [hs, h₁, hasked]⟩
  · obtain ⟨asked, hasked⟩ := h.effect_requestDynamic hv capabilities scope
    refine ⟨asked, ?_⟩
    simp only [Act.effect_bind, Act.effect_read, Effect.andThen_ok, Effect.behind_nil, hasked,
      ← and_assoc, hs, false_and, if_false]

end Handler

end MeshAlarm
