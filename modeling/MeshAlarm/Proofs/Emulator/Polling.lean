import MeshAlarm.Proofs.Emulator.Configured
import MeshAlarm.Proofs.Request

/-!
# Polling repairs the values of a node

Payloads from elsewhere may have left anything in the values of a node. A poll asks the device for a
report of each registered event type, and every one of these reports is of the same state, so that
their writes agree, in whatever order they come. Afterwards the values are those of the device; and
because they are, the writes of another poll find nothing to do.

## Main definitions

* `Emulator.Step`, `Emulator.disturbed`: calls and payloads from elsewhere, and an emulator after them
* `Emulator.asked`, `Emulator.polled`: the event types that a poll asks for, and an emulator after it
* `Emulator.UpToDate`, `Emulator.Repaired`: the values are those of the device, and polls bring that
  about

## Main results

* `Emulator.effect_poll`: what a poll does
* `Emulator.Invariant.disturbed`: what lasts through calls and payloads of any content
* `Emulator.poll_repairs`: a poll repairs the values of a node, whatever happened before
-/

namespace MeshAlarm

namespace Request

/-- The Get of a poll, for an event type if one is selected. -/
def selecting (version : Int) : Option EventType → Packet
  | none => Get.encode {}
  | some t => poll version t

theorem ofPayload_selecting (version : Int) (selected : Option EventType) :
    Event.ofPayload version (selecting version selected).encode =
      .ok (.get (Get.decode version (selecting version selected).data)) := by
  rw [Event.ofPayload_encode]
  cases selected <;> rfl

/-- A Get is read as it was meant. Event types are selected from version 2 on. -/
theorem eventType_decode_selecting {version : Int} {selected : Option EventType}
    (h : version = 1 → selected = none) :
    (Get.decode version (selecting version selected).data).eventType = selected := by
  cases selected with
  | none => rfl
  | some t =>
    have hv : version ≠ 1 := by
      intro hv
      cases h hv
    rw [selecting, decode_poll hv]

end Request

namespace Emulator

variable {c : Configuration} {e : Emulator}

/-! ### What a poll does -/

/-- The event types that a poll asks for, one by one. -/
def asked (e : Emulator) : List (Option EventType) :=
  if e.controller.handler.version = 1 then [none] else e.controller.registry.types.map some

/-- What reports for event types have written, one after the other. -/
def told (d : Device) (selections : List (Option EventType)) : List (Int × Value) :=
  selections.flatMap fun selected => (d.reportFor selected).writes

/-- An emulator after a poll: the writes of all reports that were asked for are carried out. -/
def polled (e : Emulator) : Emulator :=
  { e with controller.registry :=
    e.controller.registry.after ((told e.device e.asked).map .write) }

theorem told_cons (d : Device) (selected : Option EventType)
    (selections : List (Option EventType)) :
    told d (selected :: selections) = (d.reportFor selected).writes ++ told d selections :=
  List.flatMap_cons

theorem polls_eq (h : e.controller.registry.answersGet) :
    Request.polls e.controller.registry.capabilities e.controller.handler.version =
      e.asked.map (Request.selecting e.controller.handler.version) := by
  rw [Request.polls, Registry.capabilities, asked]
  dsimp only
  rw [if_pos h, Request.inTypeOrder_targets, Registry.targets_eq]
  split
  · rfl
  · rw [List.map_map, List.map_map]
    rfl

/-- A Get is answered by the report for what it selects. -/
theorem effect_answer_selecting (hc : e.Configured c) (hid : Bytes.Fits c.nodeId)
    {selected : Option EventType} (h : c.version = 1 → selected = none) :
    (onDevice (Device.answer (Request.selecting c.version selected).encode)).effect e =
      ⟨.ok [e.device.reportBytes selected], e, []⟩ := by
  have hrequest := Request.ofPayload_selecting c.version selected
  rw [← hc.device.version] at hrequest h ⊢
  rw [e.effect_answer_of_ok hrequest, e.device.replies_get (hc.fits hid),
    Request.eventType_decode_selecting h]

theorem effect_deliver_reportBytes (hc : e.Configured c) (hid : Bytes.Fits c.nodeId)
    (selected : Option EventType) : ∃ lines,
    (deliver (e.device.reportBytes selected)).effect e =
      ⟨.ok (), { e with controller.registry :=
        e.controller.registry.after ((e.device.reportFor selected).writes.map .write) }, lines⟩ ∧
      ((∀ op ∈ (e.device.reportFor selected).writes.map .write, e.controller.registry.Idle op) →
        lines = []) :=
  e.effect_deliver_of_ok (e.device.handles_reportBytes selected)
    (hc.ofPayload_reportBytes hid selected)

/-- Gets are answered by reports, whose writes are carried out. If these find nothing to do, nothing
is printed. -/
theorem effect_send_selecting (hc : e.Configured c) (hid : Bytes.Fits c.nodeId)
    {selections : List (Option EventType)}
    (h : ∀ selected ∈ selections, c.version = 1 → selected = none) : ∃ lines,
    (send (selections.map (Request.selecting c.version))).effect e =
      ⟨.ok (), { e with controller.registry :=
        e.controller.registry.after ((told e.device selections).map .write) }, lines⟩ ∧
      ((∀ op ∈ (told e.device selections).map .write, e.controller.registry.Idle op) →
        lines = []) := by
  -- Induction on the Gets. The device stays, and with it what all later reports say.
  induction selections generalizing e with
  | nil => exact ⟨[], rfl, fun _ => rfl⟩
  | cons selected selections ih =>
    have hanswer := effect_answer_selecting hc hid (h selected List.mem_cons_self)
    obtain ⟨first, hfirst, hsilent⟩ := effect_deliver_reportBytes hc hid selected
    have hc' := hc.received (e.device.reportBytes selected)
    rw [received_reportBytes hc hid] at hc'
    obtain ⟨lines, hlines, hsilent'⟩ := ih hc' fun s hs => h s (List.mem_cons_of_mem _ hs)
    refine ⟨first ++ lines, ?_, ?_⟩
    · simp only [List.map_cons, send, deliverAll, Act.effect_bind, Act.effect_log, hanswer, hfirst,
        hlines, Act.effect_pure, Effect.andThen_ok, Effect.behind_mk, List.nil_append,
        List.append_nil, told_cons, List.map_append, Registry.after_append]
    · intro hidle
      rw [told_cons, List.map_append] at hidle
      have hhead : ∀ op ∈ (e.device.reportFor selected).writes.map .write,
          e.controller.registry.Idle op := by
        intro op hop
        exact hidle op (List.mem_append_left _ hop)
      have hstays := Registry.after_of_idle _ hhead
      have hrest : ∀ op ∈ (told e.device selections).map .write,
          (e.controller.registry.after
            ((e.device.reportFor selected).writes.map .write)).Idle op := by
        intro op hop
        rw [hstays]
        exact hidle op (List.mem_append_right _ hop)
      rw [hsilent hhead, hsilent' hrest, List.append_nil]

/-- A poll answers. If the writes of the reports find nothing to do, nothing is printed. -/
theorem effect_poll (hc : e.Configured c) (hv : 1 ≤ c.version) (hid : Bytes.Fits c.nodeId)
    (hget : c.answersGet) : ∃ lines,
    poll.effect e = ⟨.ok (), e.polled, lines⟩ ∧
      ((∀ op ∈ (told e.device e.asked).map .write, e.controller.registry.Idle op) →
        lines = []) := by
  have hversion := hc.controller.version
  have hasked : ∀ selected ∈ e.asked, c.version = 1 → selected = none := by
    intro selected hmem h₁
    rw [asked, if_pos (hversion.trans h₁)] at hmem
    exact List.mem_singleton.1 hmem
  obtain ⟨lines, hlines, hsilent⟩ := effect_send_selecting hc hid hasked
  have hrequests : e.controller.handler.requests e.controller.registry.capabilities
      { dynamic := true } = e.asked.map (Request.selecting c.version) := by
    rw [← hversion, ← polls_eq (hc.controller.answersGet.trans hget)]
    rfl
  refine ⟨lines, ?_, hsilent⟩
  rw [poll, Act.effect_bind, e.effect_refresh (hversion ▸ hv), Effect.andThen_ok,
    Effect.behind_nil, hrequests]
  exact hlines

/-! ### What a poll leaves behind -/

/-- The values of the node are those of the device. The source and the event types have contents from
version 2 on. -/
structure UpToDate (c : Configuration) (e : Emulator) : Prop where
  alarmType : e.controller.registry.content? ValueIndex.alarmType =
    some (.number e.device.alarmType.toNat)
  level : e.controller.registry.content? ValueIndex.level = some (.number e.device.level.toNat)
  source : 2 ≤ c.version →
    e.controller.registry.content? ValueIndex.sourceNodeId = some (.number c.nodeId)
  /-- Event types that the device does not report count as never raised. -/
  event : 2 ≤ c.version → ∀ t, e.controller.registry.isRegistered (ValueIndex.ofEventType t) →
    e.controller.registry.content? (ValueIndex.ofEventType t) =
      some (.number ((e.device.events.lookup t).getD 0).toNat)

/-- A poll brings the values of the node up to date and leaves everything else as it was, and another
poll right after it does nothing. -/
structure Repaired (c : Configuration) (e : Emulator) : Prop where
  answered : (poll.run e).result = .ok ()
  device : (poll.run e).after.device = e.device
  labels : (poll.run e).after.controller.registry.labels = e.controller.registry.labels
  upToDate : (poll.run e).after.UpToDate c
  settled : (poll.run (poll.run e).after).result = .ok () ∧
    (poll.run (poll.run e).after).after = (poll.run e).after ∧
    (poll.run (poll.run e).after).trace.emissions = []

theorem mem_told_iff {d : Device} {selections : List (Option EventType)} {i : Int} :
    i ∈ (told d selections).map Prod.fst ↔
      ∃ selected ∈ selections, i ∈ (d.reportFor selected).writes.map Prod.fst := by
  rw [told, List.map_flatMap, List.mem_flatMap]

/-- All reports write what the one state shows. -/
theorem shown_of_mem_told {d : Device} {selections : List (Option EventType)} {w : Int × Value}
    (h : w ∈ told d selections) : d.shown w.1 = some w.2 := by
  obtain ⟨selected, -, hw⟩ := List.mem_flatMap.1 h
  exact d.shown_of_mem_writes hw

theorem Configured.parameter_eq (hc : e.Configured c) (t : EventType) :
    e.device.parameter t = (e.device.events.lookup t).getD 0 := by
  rw [Device.lookup_events]
  by_cases ht : t ∈ e.device.supported
  · rw [if_pos ht]
    rfl
  · rw [if_neg ht]
    exact hc.device.unraised t ht

@[simp] theorem isRegistered_polled (e : Emulator) (i : Int) :
    e.polled.controller.registry.isRegistered i = e.controller.registry.isRegistered i :=
  Registry.isRegistered_after_writes _ _ i

theorem content?_polled (e : Emulator) (i : Int) : e.polled.controller.registry.content? i =
    if e.controller.registry.isRegistered i ∧ i ∈ (told e.device e.asked).map Prod.fst then
      e.device.shown i
    else e.controller.registry.content? i :=
  Registry.content?_after_writes _ (fun _ hw => shown_of_mem_told hw) i

theorem labels_polled (e : Emulator) :
    e.polled.controller.registry.labels = e.controller.registry.labels :=
  Registry.labels_after_of_not_registering _ fun index name => Registry.register_notMem_writes _ index name

/-- Once something was asked for, every value that the version tells of is reached. -/
theorem upToDate_polled (hc : e.Configured c) {selected : Option EventType}
    (hasked : selected ∈ e.asked) : e.polled.UpToDate c := by
  have hcontent {i : Int} (hr : e.controller.registry.isRegistered i) {asked : Option EventType}
      (hmem : asked ∈ e.asked) (hi : i ∈ (e.device.reportFor asked).writes.map Prod.fst) :
      e.polled.controller.registry.content? i = e.device.shown i := by
    rw [content?_polled, if_pos ⟨hr, mem_told_iff.2 ⟨asked, hmem, hi⟩⟩]
  have hversion : 2 ≤ c.version → e.device.version ≠ 1 := by
    intro h₂
    rw [hc.device.version]
    omega
  have htypes : 2 ≤ c.version → e.asked = e.controller.registry.types.map some := by
    intro h₂
    apply if_neg
    rw [hc.controller.version]
    omega
  refine ⟨?alarmType, ?level, ?source, ?event⟩
  case alarmType =>
    exact hcontent hc.controller.alarmType hasked (e.device.alarmType_mem_written selected)
  case level =>
    exact hcontent hc.controller.level hasked (e.device.level_mem_written selected)
  case source =>
    intro h₂
    rw [htypes h₂] at hasked
    obtain ⟨t, ht, rfl⟩ := List.mem_map.1 hasked
    rw [← htypes h₂] at hasked
    have hr := hc.controller.source t (e.controller.registry.mem_types.1 ht)
    rw [hcontent hr hasked (e.device.sourceNodeId_mem_written (hversion h₂) t),
      Device.shown_sourceNodeId, hc.device.sourceNodeId]
  case event =>
    intro h₂ t hr
    rw [isRegistered_polled] at hr
    have hmem : some t ∈ e.asked := by
      rw [htypes h₂]
      exact List.mem_map_of_mem (e.controller.registry.mem_types.2 hr)
    rw [hcontent hr hmem (e.device.ofEventType_mem_written (hversion h₂) t),
      Device.shown_ofEventType, hc.parameter_eq]
    rfl

/-- After a poll the writes of another one find nothing to do. -/
theorem idle_polled (e : Emulator) :
    ∀ op ∈ (told e.polled.device e.polled.asked).map .write, e.polled.controller.registry.Idle op := by
  have hasked : e.polled.asked = e.asked := by
    simp only [asked, Registry.types, isRegistered_polled]
    rfl
  rw [hasked]
  intro op hop
  obtain ⟨w, hw, rfl⟩ := List.mem_map.1 hop
  apply Registry.idle_publish
  intro hr
  rw [isRegistered_polled] at hr
  rw [content?_polled, if_pos ⟨hr, List.mem_map_of_mem hw⟩]
  exact shown_of_mem_told hw

/-- A poll repairs an emulator if it asks for anything. -/
theorem Configured.repaired (hc : e.Configured c) (hv : 1 ≤ c.version) (hid : Bytes.Fits c.nodeId)
    (hget : c.answersGet) {selected : Option EventType} (hasked : selected ∈ e.asked) :
    e.Repaired c := by
  obtain ⟨lines, hpoll, -⟩ := effect_poll hc hv hid hget
  obtain ⟨hresult, hafter, -⟩ := Act.run_of_effect hpoll
  have hc' : e.polled.Configured c := by
    rw [← hafter]
    exact (stable_configured hv hid).invariant.poll none e hc
  obtain ⟨more, hagain, hsilent⟩ := effect_poll hc' hv hid hget
  obtain rfl : more = [] := hsilent e.idle_polled
  obtain ⟨hresult', hafter', hnothing⟩ := Act.run_of_effect hagain
  have hsame : e.polled.polled = e.polled := by
    rw [polled, Registry.after_of_idle _ e.idle_polled]
  refine ⟨hresult, ?_, ?_, ?_, ?_⟩ <;> rw [hafter]
  · rfl
  · exact e.labels_polled
  · exact upToDate_polled hc hasked
  · exact ⟨hresult', hafter'.trans hsame, hnothing⟩

/-! ### Disturbed runs -/

/-- What may happen to an emulator: a call, or a payload from elsewhere. -/
inductive Step
  | call (call : Call)
  | deliver (payload : List UInt8)

def Step.act : Step → Act Emulator String Unit
  | call c => c.act
  | deliver payload => Emulator.deliver payload

/-- An emulator after steps. -/
def disturbed (e : Emulator) (steps : List Step) : Emulator :=
  Act.afterAll Step.act e steps

/-- What calls keep and payloads of any content keep lasts through all of them. -/
theorem Invariant.disturbed {P : Emulator → Prop} (hP : Invariant fun _ => P)
    (hreceived : ∀ e payload, P e → P (e.received payload)) (he : P e) (steps : List Step) :
    P (e.disturbed steps) := by
  refine Act.afterAll_history (P := fun _ e => P e) he ?_ steps
  rintro - (call | payload) e he
  · exact hP.call none call he
  · rw [Step.act, after_deliver]
    exact hreceived e payload he

theorem Configured.disturbed (hc : e.Configured c) (hv : 1 ≤ c.version)
    (hid : Bytes.Fits c.nodeId) (steps : List Step) : (e.disturbed steps).Configured c :=
  (stable_configured hv hid).invariant.disturbed (fun _ payload hc => hc.received payload) hc steps

/-- **Polling repairs the values of a node from any state.** Whatever was called and whatever payloads
came from elsewhere, a poll answers and brings the values up to date, and another poll finds nothing
to do; from version 2 on if an event type is registered. -/
theorem poll_repairs (c : Configuration) (hv : 1 ≤ c.version)
    (hid : 1 ≤ c.nodeId ∧ c.nodeId ≤ 232) (hget : c.answersGet) :
    ∃ e trace, create c = .ok (e, trace) ∧ ∀ steps : List Step,
      c.version = 1 ∨ (∃ i, 3 ≤ i ∧ i ≤ 16 ∧
        (e.disturbed steps).controller.registry.isRegistered i) →
      (e.disturbed steps).Repaired c := by
  have hfits : Bytes.Fits c.nodeId := ⟨by omega, by omega⟩
  obtain ⟨trace, hcreate⟩ := exists_create hv
  refine ⟨new c, trace, hcreate, ?_⟩
  intro steps h
  have hc := (configured_new c).disturbed hv hfits steps
  rcases eq_or_ne c.version 1 with h₁ | h₁
  · have hmem : none ∈ ((new c).disturbed steps).asked := by
      rw [asked, if_pos (hc.controller.version.trans h₁)]
      exact List.mem_singleton_self _
    exact hc.repaired hv hfits hget hmem
  · obtain ⟨i, h₃, h₁₆, hr⟩ := h.resolve_left h₁
    obtain ⟨t, rfl⟩ := ValueIndex.exists_ofEventType_iff.2 ⟨h₃, h₁₆⟩
    have hversion : ((new c).disturbed steps).controller.handler.version ≠ 1 := by
      rw [hc.controller.version]
      exact h₁
    have hmem : some t ∈ ((new c).disturbed steps).asked := by
      rw [asked, if_neg hversion]
      exact List.mem_map_of_mem (Registry.mem_types _ |>.2 hr)
    exact hc.repaired hv hfits hget hmem

/-- A forged report and a forged event type are repaired: the event counts as never raised. -/
theorem poll_repairs_forged_flood :
    let c : Configuration := { version := 2, supported := [.smoke], nodeId := 7 }
    let steps : List Step := [.call .discover, .deliver [0x08, 0x01, 0x20],
      .deliver [0x05, 0x09, 0x09, 0x03, 0x00, 0x05, 0x4d], .call (.raise .smoke 2)]
    (1 ≤ c.version ∧ 1 ≤ c.nodeId ∧ c.nodeId ≤ 232 ∧ c.answersGet) ∧
      ∃ e trace, create c = .ok (e, trace) ∧
        (e.disturbed steps).controller.registry.content? (ValueIndex.ofEventType .flood) =
          some (.number 0x4d) ∧
        (poll.run (e.disturbed steps)).after.controller.registry.content?
          (ValueIndex.ofEventType .flood) = some (.number 0) := by
  intro c steps
  obtain ⟨e, trace, hcreate, h⟩ := poll_repairs c (by decide) (by decide) rfl
  obtain rfl := eq_new_of_create (by decide) hcreate
  have hrepaired := h steps (.inr ⟨8, by decide, by decide, by decide +kernel⟩)
  refine ⟨by decide, _, trace, hcreate, by decide +kernel, ?_⟩
  rw [hrepaired.upToDate.event (by decide) .flood (by decide +kernel)]
  decide +kernel

end Emulator

end MeshAlarm
