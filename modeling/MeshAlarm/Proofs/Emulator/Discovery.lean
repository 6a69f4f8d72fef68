import MeshAlarm.Proofs.Controller.Values
import MeshAlarm.Proofs.Device.Runs
import MeshAlarm.Proofs.Emulator.Polling

/-!
# A discovery brings what is missing

A discovery asks the device for its event types, asked before or not, and registers a value for the
source and one for each type. The device keeps its types in the order of the table, and they come
through the bitmap of its answer in the same order; so all that is left of the types an emulator was
given is which of them there are. What is registered already stays where it is and as it is, whether
an earlier discovery or a payload from elsewhere has brought it. What is missing comes behind.

Nothing of this depends on the node id. An emulator whose node id fits into no byte may raise events
that it cannot report, and fail to be polled, but its device has the same types all along.

## Main definitions

* `Emulator.MadeFrom`: what an emulator keeps of its configuration, whatever the node id
* `Emulator.discoverable`, `Emulator.registrations`: the values that a discovery is to bring, and
  their registrations
* `Emulator.discovered`: an emulator after a discovery
* `Emulator.Discovers`: what becomes of a discovery

## Main results

* `Emulator.MadeFrom.disturbed`: calls and payloads of any content leave an emulator what it was
  made from
* `Emulator.effect_discover`: what a discovery does
* `Emulator.discovery_brings_what_is_missing`: the same in every state, and from the set of the types
-/

namespace MeshAlarm.Emulator

variable {β : Type} {c : Configuration} {e : Emulator}

/-! ### What an emulator was made from -/

/-- The device is still the one that was made from the configuration, up to what it has raised and
turned, and the handler is of the same version. -/
structure MadeFrom (c : Configuration) (e : Emulator) : Prop where
  device : Device.Like (newDevice c) e.device
  version : e.controller.handler.version = c.version

theorem madeFrom_new (c : Configuration) : (new c).MadeFrom c :=
  ⟨Device.Like.refl _, rfl⟩

theorem MadeFrom.received (h : e.MadeFrom c) (payload : List UInt8) :
    (e.received payload).MadeFrom c :=
  ⟨h.device, (e.controller.kept_receive payload).version.trans h.version⟩

theorem keeps_madeFrom_deliver (payload : List UInt8) : (deliver payload).Keeps (MadeFrom c) := by
  intro e he
  rw [after_deliver]
  exact he.received payload

theorem keeps_madeFrom_onDevice {m : Act Device (List UInt8) β}
    (hm : ∀ d, Device.Like d (m.run d).after) : (onDevice m).Keeps (MadeFrom c) := by
  refine Act.Keeps.inside ?_ keeps_madeFrom_deliver
  intro e he
  exact ⟨he.device.trans (hm e.device), he.version⟩

theorem keeps_madeFrom_send (packets : List Packet) : (send packets).Keeps (MadeFrom c) := by
  -- Induction on the packets. Where the device cannot answer, the exchange ends with nothing changed.
  induction packets with
  | nil => exact Act.Keeps.pure ()
  | cons packet packets ih =>
    refine Act.Keeps.bind (fun _ he => he) fun _ => ?_
    refine Act.Keeps.bind (keeps_madeFrom_onDevice fun d => d.like_answer _) fun payloads => ?_
    rw [deliverAll_eq]
    exact Act.Keeps.bind (Act.Keeps.each keeps_madeFrom_deliver payloads) fun _ => ih

theorem invariant_madeFrom (hv : 1 ≤ c.version) : Invariant fun _ e => e.MadeFrom c where
  version _ {_} h := h.version ▸ hv
  discovery _ {_} _ h := ⟨h.device, h.version⟩
  send _ packets := keeps_madeFrom_send packets
  raise _ t n := keeps_madeFrom_onDevice fun d => d.like_raise t n
  turnLock _ alarmType level {e} h :=
    keeps_madeFrom_onDevice (fun d => d.like_turnLock alarmType level) e h

/-- Neither calls nor payloads of any content change what an emulator was made from. -/
theorem MadeFrom.disturbed (h : e.MadeFrom c) (hv : 1 ≤ c.version) (steps : List Step) :
    (e.disturbed steps).MadeFrom c :=
  (invariant_madeFrom hv).disturbed (fun _ payload h => h.received payload) h steps

/-! ### What is to be registered -/

/-- The indices and names that a discovery is to bring for event types: those of the source and of
each type, and none in version 1, whose devices have no types to tell. -/
def discoverable (version : Int) (types : List EventType) : List (Int × String) :=
  if version = 1 then []
  else (2, "SourceNodeId") :: types.map fun t => ((t.ordinal : Int) + 3, t.label)

theorem nodup_discoverable (version : Int) {types : List EventType} (h : types.Nodup) :
    ((discoverable version types).map Prod.fst).Nodup := by
  unfold discoverable
  split
  · exact List.nodup_nil
  · exact SupportedReport.nodup_labels h

theorem operations_supported {version : Int} (h : version ≠ 1) (r : SupportedReport) :
    (Event.supported r).operations = (discoverable version r.supported).map .add := by
  rw [discoverable, if_neg h]
  exact r.operations_eq

/-- What is to be registered on account of a device that is made from a configuration. -/
def registrations (c : Configuration) : List Operation :=
  (discoverable c.version (newDevice c).supported).map .add

/-! ### What a discovery does -/

/-- An emulator after a discovery. -/
def discovered (c : Configuration) (e : Emulator) : Emulator :=
  { e with controller := {
      handler := { e.controller.handler with discovery := .known }
      registry := e.controller.registry.after (registrations c) } }

theorem MadeFrom.discovered (h : e.MadeFrom c) : (e.discovered c).MadeFrom c :=
  ⟨h.device, h.version⟩

/-- After a discovery there is nothing left to register. -/
theorem idle_discovered (c : Configuration) (e : Emulator) :
    ∀ op ∈ registrations c, (e.discovered c).controller.registry.Idle op :=
  e.controller.registry.idle_after_adds _

theorem discovered_discovered (c : Configuration) (e : Emulator) :
    (e.discovered c).discovered c = e.discovered c := by
  rw [discovered, Registry.after_of_idle _ (e.idle_discovered c)]
  rfl

/-- From version 2 on, the question for the event types is answered with a supported report, and all
that it promises is registered. If that is there already, nothing is printed. -/
theorem effect_send_supportedGet (h : e.MadeFrom c) (hv : c.version ≠ 1) : ∃ lines,
    (send [{ command := .supportedGet }]).effect e = ⟨.ok (), e.discovered c, lines⟩ ∧
      ((∀ op ∈ registrations c, e.controller.registry.Idle op) → lines = []) := by
  obtain ⟨p, r, hp, hhandles, hread, hr⟩ := e.device.exists_encode_supported
  have hversion : e.device.version ≠ 1 := by
    rw [h.device.version]
    exact hv
  have horder : EventType.InOrder (newDevice c).supported := Device.inOrder_supported_create ..
  have htypes : r.supported = (newDevice c).supported := by
    rw [hr, h.device.supported]
    exact (horder.eq_filter_all fun t => by simp).symm
  have hops : (Event.supported r).operations = registrations c := by
    rw [operations_supported hv, htypes, registrations]
  have hrequest : Event.ofPayload e.device.version (Packet.encode { command := .supportedGet }) =
      .ok .supportedGet :=
    Event.ofPayload_encode _ _
  have hanswer := e.effect_answer_of_ok hrequest
  rw [Device.replies_supportedGet hversion hp] at hanswer
  obtain ⟨lines, hdeliver, hsilent⟩ := e.effect_deliver_of_ok hhandles (hread _)
  rw [hops] at hdeliver hsilent
  refine ⟨lines, ?_, hsilent⟩
  simp only [send, deliverAll, Act.effect_bind, Act.effect_log, hanswer, hdeliver, Act.effect_pure,
    Effect.andThen_ok, Effect.behind_mk, List.nil_append, List.append_nil]
  rfl

/-- A discovery answers and leaves everything registered that the device has to tell. If that is
there already, nothing is printed. -/
theorem effect_discover (h : e.MadeFrom c) (hv : 1 ≤ c.version) : ∃ lines,
    discover.effect e = ⟨.ok (), e.discovered c, lines⟩ ∧
      ((∀ op ∈ registrations c, e.controller.registry.Idle op) → lines = []) := by
  let asking : Emulator := { e with controller.handler.discovery := .unknown }
  have hversion : asking.controller.handler.version = c.version := h.version
  rw [discover, Act.effect_bind, Act.effect_update, Effect.andThen_ok, Effect.behind_nil,
    Act.effect_bind, asking.effect_refresh (hversion ▸ hv), Effect.andThen_ok, Effect.behind_nil]
  by_cases h₁ : c.version = 1
  · have hnever : ¬ 1 < asking.controller.handler.version := by omega
    refine ⟨[], ?_, fun _ => rfl⟩
    simp only [Handler.requests, Handler.refreshed, hnever, discovered, registrations, discoverable,
      if_pos h₁]
    rfl
  · have hlater : 1 < asking.controller.handler.version := by omega
    have hasking : MadeFrom c { asking with controller.handler.discovery := .requested } :=
      ⟨h.device, h.version⟩
    obtain ⟨lines, hsend, hsilent⟩ := effect_send_supportedGet hasking h₁
    refine ⟨lines, ?_, hsilent⟩
    simp only [Handler.requests, Handler.refreshed, hlater]
    exact hsend

/-! ### What becomes of a discovery -/

/-- What becomes of a discovery that is to bring values of the given indices and names. -/
structure Discovers (values : List (Int × String)) (e : Emulator) : Prop where
  answered : (discover.run e).result = .ok ()
  device : (discover.run e).after.device = e.device
  known : (discover.run e).after.controller.handler.discovery = .known
  /-- What is there stays as it is, and what is missing comes behind it, without content. -/
  appended : (discover.run e).after.controller.registry.entries =
    e.controller.registry.entries ++ e.controller.registry.missing values
  /-- Another discovery changes nothing and prints nothing. -/
  settled : discover.effect (discover.run e).after = ⟨.ok (), (discover.run e).after, []⟩

theorem MadeFrom.discovers (h : e.MadeFrom c) (hv : 1 ≤ c.version) :
    e.Discovers (discoverable c.version (newDevice c).supported) := by
  obtain ⟨lines, hdiscover, -⟩ := effect_discover h hv
  obtain ⟨hresult, hafter, -⟩ := Act.run_of_effect hdiscover
  obtain ⟨more, hagain, hsilent⟩ := effect_discover h.discovered hv
  obtain rfl : more = [] := hsilent (e.idle_discovered c)
  rw [discovered_discovered] at hagain
  have horder : EventType.InOrder (newDevice c).supported := Device.inOrder_supported_create ..
  refine ⟨hresult, ?_, ?_, ?_, ?_⟩ <;> rw [hafter]
  · rfl
  · rfl
  · exact e.controller.registry.entries_after_adds (nodup_discoverable c.version horder.nodup)
  · exact hagain

/-- Of the given event types it matters only which there are. -/
theorem new_congr {supported : List EventType} (h : ∀ t, t ∈ supported ↔ t ∈ c.supported) :
    new { c with supported } = new c := by
  have hsame : (newDevice { c with supported }).supported = (newDevice c).supported := by
    refine (Device.inOrder_supported_create ..).ext (Device.inOrder_supported_create ..) fun t => ?_
    exact Device.mem_supported_create.trans ((h t).trans Device.mem_supported_create.symm)
  have hdevice : newDevice { c with supported } = newDevice c :=
    congrArg (fun types => { newDevice c with supported := types }) hsame
  rw [new, hdevice]
  rfl

/-- **A discovery brings what is missing.** Whatever was called and whatever payloads came from
elsewhere, a discovery answers, touches neither the device nor any value that is there, and appends
those of the source and of the event types that are missing, in the order of the table; another one
finds nothing to do. Of the event types that a new emulator was given, only the set matters. -/
theorem discovery_brings_what_is_missing (c : Configuration) (hv : 1 ≤ c.version) :
    ∃ types, EventType.InOrder types ∧ (∀ t, t ∈ types ↔ t ∈ c.supported) ∧
      ∃ e trace, create c = .ok (e, trace) ∧
        (∀ steps : List Step, (e.disturbed steps).Discovers (discoverable c.version types)) ∧
          ∀ supported : List EventType, (∀ t, t ∈ supported ↔ t ∈ c.supported) →
            ∃ e' trace', create { c with supported } = .ok (e', trace') ∧
              discover.run e' = discover.run e := by
  obtain ⟨trace, hcreate⟩ := exists_create hv
  refine ⟨(newDevice c).supported, Device.inOrder_supported_create ..,
    fun _ => Device.mem_supported_create, new c, trace, hcreate, ?_, ?_⟩
  · intro steps
    exact ((madeFrom_new c).disturbed hv steps).discovers hv
  · intro supported hsupported
    obtain ⟨trace', hcreate'⟩ := @exists_create { c with supported } hv
    exact ⟨_, trace', hcreate', by rw [new_congr hsupported]⟩

/-- A forged flood keeps its place and its value, and of the given types the general one is missing. -/
theorem appends_general_behind_forged_flood :
    let c : Configuration := { version := 2, supported := [.smoke, .general, .smoke], nodeId := 300 }
    let steps : List Step := [.call (.raise .smoke 1), .deliver [0x08, 0x01, 0x22],
      .deliver [0x05, 0x00, 0x00, 0x09, 0x00, 0x05, 0x4d], .call .poll]
    (1 ≤ c.version ∧ ∀ t, t ∈ [EventType.general, EventType.smoke] ↔ t ∈ c.supported) ∧
      ∃ e trace, create c = .ok (e, trace) ∧
        (discover.run (e.disturbed steps)).after.controller.registry.entries = [
          { index := 0, name := "Alarm Type", content := some (.number 0) },
          { index := 1, name := "Alarm Level", content := some (.number 0) },
          { index := 2, name := "SourceNodeId", content := some (.number 9) },
          { index := 4, name := "Smoke" },
          { index := 8, name := "Flood", content := some (.number 0x4d) },
          { index := 3, name := "General" }] ∧
        ∃ e' trace', create { c with supported := [.general, .smoke] } = .ok (e', trace') ∧
          discover.run e' = discover.run e := by
  intro c steps
  have hsame : ∀ t, t ∈ [EventType.general, EventType.smoke] ↔ t ∈ c.supported := by
    intro t
    cases t <;> decide
  obtain ⟨types, horder, hmem, e, trace, hcreate, hdiscovers, hset⟩ :=
    discovery_brings_what_is_missing c (by decide)
  obtain rfl := eq_new_of_create (by decide) hcreate
  have htypes : types = [.general, .smoke] := by
    refine horder.ext (by unfold EventType.InOrder; decide) fun t => ?_
    rw [hmem, hsame]
  refine ⟨⟨by decide, hsame⟩, _, trace, hcreate, ?_, hset _ hsame⟩
  rw [(hdiscovers steps).appended, htypes]
  decide +kernel

end MeshAlarm.Emulator
