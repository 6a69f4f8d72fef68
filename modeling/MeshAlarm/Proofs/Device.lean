import MeshAlarm.Device
import MeshAlarm.Proofs.Decoding
import MeshAlarm.Proofs.Effect
import MeshAlarm.Proofs.Handler.Effect

/-!
# What a device does

Requests leave a device as it is, and its answers follow from its state. A device whose node id fits
into a byte can always write its report, and the report is read back as it was meant at the version
of the device. Raising an event and turning the lock either fail and leave the device as it was, or
change it and send the report of the new state.

## Main definitions

* `Device.shown`: what the present state shows at a value index
* `Device.Tells`, `Device.Says`: the events and the payloads in which a device speaks of itself
* `Device.reportBytes`: the payload of the report of the present state
* `Device.replies`: the answers to an event

## Main results

* `Device.shown_of_mem_writes`: a report writes what the present state shows
* `Device.payloadOf_reportFor`, `Device.ofPayload_reportBytes`: the report is written, and read back
* `Device.exists_encode_supported`: the event types are written, and read back
* `Device.effect_answer`, `Device.exists_replies`: what a request does, and that a device speaks of
  itself only
* `Device.effect_raise_of_fits`, `Device.effect_turnLock_of_fits`: what the events on a device do
-/

namespace MeshAlarm

namespace LockState

theorem Covers.fits {alarmType : Int} (h : Covers alarmType) : Bytes.Fits alarmType := by
  obtain ⟨h₁, h₂⟩ := h
  simp only [firstAlarmType, lastAlarmType] at h₁ h₂
  exact ⟨by omega, by omega⟩

theorem exists_ofAlarmType? {alarmType : Int} (h : Covers alarmType) :
    ∃ state, ofAlarmType? alarmType = some state := by
  exact ⟨_, by rw [ofAlarmType?, if_pos h, List.getElem?_eq_getElem h.lt_length_all]⟩

end LockState

namespace Device

/-! ### New devices -/

@[simp] theorem mem_supported_create {version : Int} {types : List EventType} {sourceNodeId : Int}
    {announces : Bool} {t : EventType} :
    t ∈ (create version types sourceNodeId announces).supported ↔ t ∈ types := by
  simp [create]

theorem inOrder_supported_create (version : Int) (types : List EventType) (sourceNodeId : Int)
    (announces : Bool) :
    EventType.InOrder (create version types sourceNodeId announces).supported :=
  EventType.inOrder_filter_all _

variable (d : Device)

/-! ### What the state shows -/

theorem lookup_events (t : EventType) :
    d.events.lookup t = if t ∈ d.supported then some (d.parameter t) else none := by
  by_cases ht : t ∈ d.supported
  · rw [if_pos ht]
    exact List.lookup_graph d.parameter ht
  · rw [if_neg ht, List.lookup_eq_none_iff, events]
    rintro ⟨u, p⟩ hmem
    obtain ⟨v, hv, heq⟩ := List.mem_map.1 hmem
    obtain ⟨rfl, -⟩ := Prod.mk.inj heq
    rw [bne_iff_ne]
    rintro rfl
    exact ht hv

/-- What the present state shows at a value index. -/
def shown (i : Int) : Option Value :=
  if i = ValueIndex.alarmType then some (.number d.alarmType.toNat)
  else if i = ValueIndex.level then some (.number d.level.toNat)
  else if i = ValueIndex.sourceNodeId then some (.number d.sourceNodeId)
  else if i = ValueIndex.lockState then
    (LockState.ofAlarmType? d.alarmType.toNat).map fun state => .text state.label
  else (ValueIndex.eventType? i).map fun t => .number (d.parameter t).toNat

@[simp] theorem shown_alarmType :
    d.shown ValueIndex.alarmType = some (.number d.alarmType.toNat) := rfl

@[simp] theorem shown_level : d.shown ValueIndex.level = some (.number d.level.toNat) := rfl

@[simp] theorem shown_sourceNodeId :
    d.shown ValueIndex.sourceNodeId = some (.number d.sourceNodeId) := rfl

@[simp] theorem shown_lockState : d.shown ValueIndex.lockState =
    (LockState.ofAlarmType? d.alarmType.toNat).map fun state => .text state.label := rfl

@[simp] theorem shown_ofEventType (t : EventType) :
    d.shown (ValueIndex.ofEventType t) = some (.number (d.parameter t).toNat) := by
  rw [shown, if_neg (ValueIndex.ofEventType_ne_alarmType t),
    if_neg (ValueIndex.ofEventType_ne_level t), if_neg (ValueIndex.ofEventType_ne_sourceNodeId t),
    if_neg (ValueIndex.ofEventType_ne_lockState t), ValueIndex.eventType?_ofEventType]
  rfl

/-- Raising an event changes what is shown at the alarm type, the level, the lock state and the event
type. -/
theorem shown_raised {t : EventType} {parameter : UInt8} {i : Int} (ha : i ≠ ValueIndex.alarmType)
    (hl : i ≠ ValueIndex.level) (hs : i ≠ ValueIndex.lockState) (ht : i ≠ ValueIndex.ofEventType t) :
    (raised t parameter d).shown i = d.shown i := by
  unfold shown
  rw [if_neg ha, if_neg ha, if_neg hl, if_neg hl, if_neg hs, if_neg hs]
  refine congrArg _ ?_
  cases hu : ValueIndex.eventType? i with
  | none => rfl
  | some u =>
    have hne : u ≠ t := by
      rintro rfl
      apply ht
      have hi := EventType.ofOrdinal?_eq_some_iff.1 hu
      rw [ValueIndex.ofEventType, ValueIndex.ofOrdinal]
      omega
    simp [raised, hne]

/-- Turning the lock changes what is shown at the alarm type, the level and the lock state. -/
theorem shown_turned {alarmType level : UInt8} {i : Int} (ha : i ≠ ValueIndex.alarmType)
    (hl : i ≠ ValueIndex.level) (hs : i ≠ ValueIndex.lockState) :
    (turned alarmType level d).shown i = d.shown i := by
  unfold shown
  rw [if_neg ha, if_neg ha, if_neg hl, if_neg hl, if_neg hs, if_neg hs]
  rfl

theorem writes_reportFor (selected : Option EventType) : (d.reportFor selected).writes =
    [(ValueIndex.alarmType, .number d.alarmType.toNat), (ValueIndex.level, .number d.level.toNat)]
      ++ ((LockState.ofAlarmType? d.alarmType.toNat).map fun state =>
        (ValueIndex.lockState, Value.text state.label)).toList
      ++ match selected with
        | some t =>
          if d.version = 1 then []
          else [(ValueIndex.sourceNodeId, .number d.sourceNodeId),
            (ValueIndex.ofEventType t, .number (d.parameter t).toNat)]
        | none => [] := by
  cases selected with
  | none => simp [reportFor, shortReport, Report.writes, Report.lockState?, Report.knownEventType?]
  | some t =>
    by_cases hv : d.version = 1
    · simp [reportFor, hv, shortReport, Report.writes, Report.lockState?, Report.knownEventType?]
    · simp [reportFor, hv, shortReport, Report.writes, Report.lockState?, Report.knownEventType?]

/-- A report writes what the present state shows. -/
theorem shown_of_mem_writes {selected : Option EventType} {w : Int × Value}
    (h : w ∈ (d.reportFor selected).writes) : d.shown w.1 = some w.2 := by
  rw [writes_reportFor] at h
  simp only [List.mem_append, List.mem_cons, List.not_mem_nil, or_false, Option.mem_toList,
    Option.map_eq_some_iff] at h
  rcases h with ((rfl | rfl) | ⟨state, hstate, rfl⟩) | h
  · rfl
  · rfl
  · simp [hstate]
  · cases selected with
    | none => cases h
    | some t =>
      by_cases hv : d.version = 1
      · simp [hv] at h
      · simp only [if_neg hv, List.mem_cons, List.not_mem_nil, or_false] at h
        rcases h with rfl | rfl <;> simp

theorem mem_written_iff {selected : Option EventType} {i : Int} :
    i ∈ (d.reportFor selected).writes.map Prod.fst ↔
      i = ValueIndex.alarmType ∨ i = ValueIndex.level ∨
        i = ValueIndex.lockState ∧ LockState.ofAlarmType? d.alarmType.toNat ≠ none ∨
        d.version ≠ 1 ∧ ∃ t, selected = some t ∧
          (i = ValueIndex.sourceNodeId ∨ i = ValueIndex.ofEventType t) := by
  rw [writes_reportFor]
  cases selected with
  | none => cases hl : LockState.ofAlarmType? d.alarmType.toNat <;> simp
  | some t =>
    by_cases hv : d.version = 1 <;>
      cases hl : LockState.ofAlarmType? d.alarmType.toNat <;> simp [hv]

theorem alarmType_mem_written (selected : Option EventType) :
    ValueIndex.alarmType ∈ (d.reportFor selected).writes.map Prod.fst :=
  d.mem_written_iff.2 (.inl rfl)

theorem level_mem_written (selected : Option EventType) :
    ValueIndex.level ∈ (d.reportFor selected).writes.map Prod.fst :=
  d.mem_written_iff.2 (.inr (.inl rfl))

theorem sourceNodeId_mem_written (hv : d.version ≠ 1) (t : EventType) :
    ValueIndex.sourceNodeId ∈ (d.reportFor (some t)).writes.map Prod.fst :=
  d.mem_written_iff.2 (.inr (.inr (.inr ⟨hv, t, rfl, .inl rfl⟩)))

theorem ofEventType_mem_written (hv : d.version ≠ 1) (t : EventType) :
    ValueIndex.ofEventType t ∈ (d.reportFor (some t)).writes.map Prod.fst :=
  d.mem_written_iff.2 (.inr (.inr (.inr ⟨hv, t, rfl, .inr rfl⟩)))

theorem lockState_mem_written_iff (selected : Option EventType) :
    ValueIndex.lockState ∈ (d.reportFor selected).writes.map Prod.fst ↔
      LockState.ofAlarmType? d.alarmType.toNat ≠ none := by
  rw [mem_written_iff]
  constructor
  · rintro (h | h | ⟨-, h⟩ | ⟨-, t, -, h | h⟩)
    · cases h
    · cases h
    · exact h
    · cases h
    · exact absurd h.symm (ValueIndex.ofEventType_ne_lockState t)
  · intro h
    exact .inr (.inr (.inl ⟨rfl, h⟩))

/-! ### Reports -/

/-- The payload of the report of the present state, for an event type if one was selected. -/
def reportBytes : Option EventType → List UInt8
  | some t =>
    if d.version = 1 then [0x05, d.alarmType, d.level]
    else [0x05, d.alarmType, d.level, UInt8.ofNat d.sourceNodeId.toNat, 0, t.byte, d.parameter t]
  | none => [0x05, d.alarmType, d.level]

theorem payloadOf_of_numbers {r : Report} {bytes : List UInt8}
    (h : r.numbers = Bytes.toNumbers bytes) : payloadOf r = .ok (0x05 :: bytes) := by
  rw [payloadOf, Report.encode_of_numbers h]
  rfl

theorem payloadOf_shortReport : payloadOf d.shortReport = .ok (d.reportBytes none) :=
  payloadOf_of_numbers rfl

/-- Version 1 has no room for an event, so that what was selected does not matter. -/
theorem payloadOf_reportFor_of_one (hv : d.version = 1) (selected : Option EventType) :
    payloadOf (d.reportFor selected) = .ok (d.reportBytes selected) := by
  cases selected with
  | none => exact d.payloadOf_shortReport
  | some t =>
    simp only [reportFor, reportBytes, if_pos hv]
    exact d.payloadOf_shortReport

/-- A report is written as its bytes, if the node id fits into one. -/
theorem payloadOf_reportFor (h : Bytes.Fits d.sourceNodeId) (selected : Option EventType) :
    payloadOf (d.reportFor selected) = .ok (d.reportBytes selected) := by
  cases selected with
  | none => exact d.payloadOf_shortReport
  | some t =>
    by_cases hv : d.version = 1
    · exact d.payloadOf_reportFor_of_one hv _
    · simp only [reportFor, reportBytes, if_neg hv]
      refine payloadOf_of_numbers ?_
      simp only [Report.numbers, Bytes.toNumbers, shortReport, List.map_cons, List.map_nil,
        Bytes.toNat_ofNat h, EventType.toNat_byte, Option.getD_some]
      rfl

/-- A report of an event has no bytes if the node id does not fit into one. -/
theorem payloadOf_reportFor_of_not_fits (hv : d.version ≠ 1) (h : ¬ Bytes.Fits d.sourceNodeId)
    (t : EventType) : payloadOf (d.reportFor (some t)) = .error .byteOverflow := by
  have hsource : d.sourceNodeId ∈ (d.reportFor (some t)).numbers := by
    simp [reportFor, hv, Report.numbers]
  rw [payloadOf, Report.encode_of_not_fits ⟨_, hsource, h⟩]
  rfl

/-- A report is read back as it was meant, at the version of the device. -/
theorem ofPayload_reportBytes (h : Bytes.Fits d.sourceNodeId) (selected : Option EventType) :
    Event.ofPayload d.version (d.reportBytes selected) = .ok (.report (d.reportFor selected)) := by
  cases selected with
  | none => rfl
  | some t =>
    by_cases hv : d.version = 1
    · simp only [reportFor, reportBytes, if_pos hv]
      rfl
    · simp only [reportFor, reportBytes, if_neg hv, Event.ofPayload_report, Report.decode,
        Bytes.toNat_ofNat h, EventType.toNat_byte]
      rfl

theorem handles_reportBytes (selected : Option EventType) :
    Handler.handles (d.reportBytes selected) := by
  cases selected with
  | none => rfl
  | some t => rw [reportBytes]; split <;> rfl

/-! ### What a device says -/

/-- The events in which a device speaks of itself: reports of the present state and, from version 2
on, the event types it reports. -/
def Tells : Event → Prop
  | .report r => ∃ selected, r = d.reportFor selected
  | .supported r => d.version ≠ 1 ∧ ∀ t, t ∈ r.supported ↔ t ∈ d.supported
  | _ => False

/-- The payloads in which a device speaks of itself. -/
def Says (payload : List UInt8) : Prop :=
  Handler.handles payload ∧ ∃ event, Event.ofPayload d.version payload = .ok event ∧ d.Tells event

theorem says_reportBytes (h : Bytes.Fits d.sourceNodeId) (selected : Option EventType) :
    d.Says (d.reportBytes selected) :=
  ⟨d.handles_reportBytes selected, _, d.ofPayload_reportBytes h selected, selected, rfl⟩

/-- The event types of a device are written, and read back at every version. -/
theorem exists_encode_supported : ∃ p r,
    d.supportedPacket = .ok p ∧ Handler.handles p.encode ∧
      (∀ version, Event.ofPayload version p.encode = .ok (.supported r)) ∧
        r.supported = EventType.all.filter (· ∈ d.supported) := by
  obtain ⟨⟨command, data⟩, hp, hcommand, r, hr, htypes⟩ :=
    SupportedReport.exists_encode_decode .widest d.supported
  obtain rfl : command = .supportedReport := hcommand
  refine ⟨_, r, hp, rfl, ?_, htypes⟩
  intro version
  exact Event.ofPayload_eq_supported_iff.2 ⟨rfl, hr⟩

theorem exists_says_supported (hv : d.version ≠ 1) :
    ∃ p, d.supportedPacket = .ok p ∧ d.Says p.encode := by
  obtain ⟨p, r, hp, hhandles, hread, htypes⟩ := d.exists_encode_supported
  refine ⟨p, hp, hhandles, _, hread _, hv, ?_⟩
  intro t
  simp [htypes]

/-! ### Requests -/

/-- The answers to an event. -/
def replies : Event → Except Fault (List (List UInt8))
  | .supportedGet =>
    if d.version = 1 then .ok []
    else d.supportedPacket.map fun p => [p.encode]
  | .get g => (payloadOf (d.reportFor g.eventType)).map fun payload => [payload]
  | _ => .ok []

/-- A request is decoded and answered; the device stays as it is and sends nothing else. -/
theorem effect_answer (payload : List UInt8) :
    (answer payload).effect d =
      ⟨(Event.ofPayload d.version payload).mapError .undecodable >>= d.replies, d, []⟩ := by
  unfold answer
  simp only [Act.effect_bind, Act.effect_read, Effect.andThen_ok, Effect.behind_nil,
    Handler.effect_eventReceive]
  cases Event.ofPayload d.version payload with
  | error fault => rfl
  | ok request =>
    show _ = (⟨d.replies request, d, []⟩ : Effect Device (List UInt8) (List (List UInt8)))
    simp only [Except.mapError, Effect.andThen_ok, Effect.behind_nil]
    cases request with
    | supportedGet =>
      by_cases hv : d.version = 1
      · simp [replies, hv]
      · cases hp : d.supportedPacket <;>
          simp [replies, hv, hp, Except.map]
    | get g =>
      cases hp : payloadOf (d.reportFor g.eventType) <;> simp [replies, hp, Except.map]
    | report | supported | bare => simp [replies]

variable {d} in
theorem result_answer_of_ok {payload : List UInt8} {request : Event}
    (h : Event.ofPayload d.version payload = .ok request) :
    ((answer payload).run d).result = d.replies request := by
  rw [(Act.run_of_effect (d.effect_answer payload)).1, h]
  rfl

variable {d} in
theorem result_answer_of_error {payload : List UInt8} {cause : DecodeFault}
    (h : Event.ofPayload d.version payload = .error cause) :
    ((answer payload).run d).result = .error (.undecodable cause) := by
  rw [(Act.run_of_effect (d.effect_answer payload)).1, h]
  rfl

theorem replies_get (h : Bytes.Fits d.sourceNodeId) (g : Get) :
    d.replies (.get g) = .ok [d.reportBytes g.eventType] := by
  rw [replies, d.payloadOf_reportFor h]
  rfl

variable {d} in
theorem replies_supportedGet (hv : d.version ≠ 1) {p : Packet}
    (hp : d.supportedPacket = .ok p) :
    d.replies .supportedGet = .ok [p.encode] := by
  rw [replies, if_neg hv, hp]
  rfl

/-- A device whose node id fits into a byte answers every event, and speaks of itself only. -/
theorem exists_replies (h : Bytes.Fits d.sourceNodeId) (request : Event) :
    ∃ payloads, d.replies request = .ok payloads ∧ ∀ payload ∈ payloads, d.Says payload := by
  cases request with
  | get g =>
    refine ⟨[d.reportBytes g.eventType], d.replies_get h g, ?_⟩
    simpa using d.says_reportBytes h g.eventType
  | supportedGet =>
    by_cases hv : d.version = 1
    · exact ⟨[], if_pos hv, by simp⟩
    · obtain ⟨p, hp, hspeaks⟩ := d.exists_says_supported hv
      exact ⟨[p.encode], replies_supportedGet hv hp, by simpa using hspeaks⟩
  | report | supported | bare => exact ⟨[], rfl, by simp⟩

/-! ### Events on the device -/

theorem effect_send (payload : List UInt8) :
    (send payload).effect d = ⟨.ok payload, d, if d.announces then [payload] else []⟩ := by
  unfold send
  cases ha : d.announces <;> simp [ha]

theorem requireByte_of_fits {field : ByteField} {n : Int} (h : Bytes.Fits n) :
    requireByte field n = .ok (UInt8.ofNat n.toNat) :=
  if_pos h

/-- An event of a reported type with a parameter that fits is raised, whether or not its report can
be written then. -/
theorem effect_raise_of_mem {t : EventType} (ht : t ∈ d.supported) {n : Int} (hn : Bytes.Fits n) :
    (raise t n).effect d =
      let d' := raised t (UInt8.ofNat n.toNat) d
      match payloadOf (d'.reportFor (some t)) with
      | .ok payload => ⟨.ok payload, d', if d.announces then [payload] else []⟩
      | .error fault => ⟨.error fault, d', []⟩ := by
  simp only [raise, Act.effect_bind, Act.effect_read, Effect.andThen_ok, Effect.behind_nil,
    if_pos ht, requireByte_of_fits hn, Act.effect_ofExcept, Act.effect_update]
  cases payloadOf ((raised t (UInt8.ofNat n.toNat) d).reportFor (some t)) with
  | error fault => rfl
  | ok payload => rw [Effect.andThen_ok, Effect.behind_nil, effect_send]; rfl

/-- If the node id fits into a byte, the event is raised and its report sent. -/
theorem effect_raise_of_fits (h : Bytes.Fits d.sourceNodeId) {t : EventType}
    (ht : t ∈ d.supported) {n : Int} (hn : Bytes.Fits n) :
    (raise t n).effect d =
      let d' := raised t (UInt8.ofNat n.toNat) d
      ⟨.ok (d'.reportBytes (some t)), d',
        if d.announces then [d'.reportBytes (some t)] else []⟩ := by
  have hpayload := (raised t (UInt8.ofNat n.toNat) d).payloadOf_reportFor h (some t)
  rw [d.effect_raise_of_mem ht hn]
  simp only [hpayload]

/-- Every other event fails, blames a value, and leaves the device as it was. -/
theorem effect_raise_of_not {t : EventType} {n : Int} (h : ¬ (t ∈ d.supported ∧ Bytes.Fits n)) :
    ∃ fault, (raise t n).effect d = ⟨.error fault, d, []⟩ ∧ fault.kind = .badValue := by
  by_cases ht : t ∈ d.supported
  · have hn : ¬ Bytes.Fits n := by
      intro hn
      exact h ⟨ht, hn⟩
    exact ⟨.outsideByte .eventParameter n, by simp [raise, ht, requireByte, hn], rfl⟩
  · exact ⟨.typeNotSupported t, by simp [raise, ht], rfl⟩

/-- A turn of the lock that the alarm types and a byte have room for is reported. -/
theorem effect_turnLock_of_fits {alarmType level : Int} (h : LockState.Covers alarmType)
    (hl : Bytes.Fits level) :
    (turnLock alarmType level).effect d =
      let d' := turned (UInt8.ofNat alarmType.toNat) (UInt8.ofNat level.toNat) d
      ⟨.ok (d'.reportBytes none), d', if d.announces then [d'.reportBytes none] else []⟩ := by
  have hpayload := payloadOf_shortReport
    (turned (UInt8.ofNat alarmType.toNat) (UInt8.ofNat level.toNat) d)
  simp only [turnLock, Act.effect_bind, Act.effect_read, Effect.andThen_ok, Effect.behind_nil,
    if_pos h, requireByte_of_fits hl, Act.effect_ofExcept, Act.effect_update, hpayload,
    effect_send]
  rfl

/-- Every other turn fails, blames a value, and leaves the device as it was. -/
theorem effect_turnLock_of_not {alarmType level : Int}
    (h : ¬ (LockState.Covers alarmType ∧ Bytes.Fits level)) :
    ∃ fault, (turnLock alarmType level).effect d = ⟨.error fault, d, []⟩ ∧
      fault.kind = .badValue := by
  by_cases ha : LockState.Covers alarmType
  · have hl : ¬ Bytes.Fits level := by
      intro hl
      exact h ⟨ha, hl⟩
    exact ⟨.outsideByte .lockLevel level, by simp [turnLock, ha, requireByte, hl], rfl⟩
  · exact ⟨.notLockType alarmType, by simp [turnLock, ha], rfl⟩

end Device

end MeshAlarm
