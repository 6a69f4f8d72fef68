import MeshAlarm.Proofs.Controller.Effect

/-!
# What is registered and polled is what was reported

On a registry that nothing else writes to, a controller registers the basic values when it is told
to, and everything else on account of the supported reports that it has received. The event types
that are polled are the union of the reported ones, each once and in the order of the table,
whatever the order and the overlap of the reports.

## Main definitions

* `Controller.Call`, `Controller.run`: the calls, and a controller after calls
* `Controller.delivered`, `Controller.Reported`: the payloads among calls, and the types that they
  report
* `Controller.Accounted`: the indices that calls account for

## Main results

* `Controller.isRegistered_run`: what is registered is what calls account for
* `Controller.registered_and_polled_as_reported`: the same, with the Gets that poll it
-/

namespace MeshAlarm.Controller

/-- What a controller is called to do. -/
inductive Call
  | registerBasics
  | refresh (scope : Scope)
  | pollRequests
  | receive (payload : List UInt8)
  deriving DecidableEq

def Call.act : Call → Act Controller Signal (List Packet)
  | registerBasics => (fun _ => []) <$> Controller.registerBasics
  | refresh scope => Controller.refresh scope
  | pollRequests => Controller.pollRequests
  | receive payload => (fun _ => []) <$> Controller.receive payload

/-- A controller after calls. -/
def run (c : Controller) (calls : List Call) : Controller :=
  Act.afterAll Call.act c calls

/-- The payloads among calls, in order. -/
def delivered (calls : List Call) : List (List UInt8) :=
  calls.filterMap fun
    | .receive payload => some payload
    | _ => none

/-- The event types that a supported report among calls reports. -/
def Reported (calls : List Call) (t : EventType) : Prop :=
  ∃ payload ∈ delivered calls, ∃ r, Reports payload r ∧ t ∈ r.supported

/-- The indices that calls account for, on a node with or without the legacy lock state. -/
def Accounted (legacyLockState : Bool) (calls : List Call) (i : Int) : Prop :=
  .registerBasics ∈ calls ∧ (i = ValueIndex.alarmType ∨ i = ValueIndex.level) ∨
    .registerBasics ∈ calls ∧ legacyLockState ∧ i = ValueIndex.lockState ∨
    (∃ payload ∈ delivered calls, payload.head? = some 0x08 ∧ 2 ≤ payload.length) ∧
      i = ValueIndex.sourceNodeId ∨
    ∃ t, Reported calls t ∧ i = ValueIndex.ofEventType t

/-! ### What one call registers -/

/-- The indices that a call registers, on a node with or without the legacy lock state. -/
def Call.Adds (legacyLockState : Bool) : Call → Int → Prop
  | registerBasics, i =>
    i = ValueIndex.alarmType ∨ i = ValueIndex.level ∨ legacyLockState ∧ i = ValueIndex.lockState
  | receive payload, i => ∃ r, Reports payload r ∧
    (i = ValueIndex.sourceNodeId ∨ ∃ t ∈ r.supported, i = ValueIndex.ofEventType t)
  | _, _ => False

theorem register_mem_basics_iff (h : Handler) (i : Int) :
    (∃ name, .register i name ∈ h.basics) ↔ Call.registerBasics.Adds h.legacyLockState i := by
  unfold Handler.basics
  cases h.legacyLockState <;> simp [Call.Adds, exists_or]

/-- Only supported reports register anything. -/
theorem register_mem_operations_iff (event : Event) (i : Int) :
    (∃ name, .register i name ∈ event.operations) ↔ ∃ r, event = .supported r ∧
      (i = ValueIndex.sourceNodeId ∨ ∃ t ∈ r.supported, i = ValueIndex.ofEventType t) := by
  cases event with
  | supported r =>
    simp only [Event.operations, List.mem_cons, List.mem_map, Event.supported.injEq,
      exists_eq_left', exists_or]
    refine or_congr ⟨?_, ?_⟩ ⟨?_, ?_⟩
    · rintro ⟨name, h⟩
      exact (Operation.register.inj h).1
    · rintro rfl
      exact ⟨_, rfl⟩
    · rintro ⟨name, t, ht, h⟩
      exact ⟨t, ht, (Operation.register.inj h).1.symm⟩
    · rintro ⟨t, ht, rfl⟩
      exact ⟨_, t, ht, rfl⟩
  | report r => simp [Event.operations, Operation.write]
  | get | supportedGet | bare => simp [Event.operations]

theorem isRegistered_receive (c : Controller) (payload : List UInt8) (i : Int) :
    ((receive payload).run c).after.registry.isRegistered i ↔
      c.registry.isRegistered i ∨ (Call.receive payload).Adds c.handler.legacyLockState i := by
  have hsupported (r : SupportedReport) : Reports payload r ↔
      Event.ofPayload c.handler.version payload = .ok (.supported r) :=
    Event.ofPayload_eq_supported_iff.symm
  rcases c.receive_cases payload with ⟨hp, -, hafter⟩ | ⟨fault, hfault, -, hafter⟩ |
    ⟨event, hevent, -, hafter⟩
  · rw [hafter]
    refine (or_iff_left ?_).symm
    rintro ⟨r, hr, -⟩
    obtain ⟨hhead, -⟩ := hr
    have hhandles : Handler.handles payload = true := Handler.handles_iff.2 (.inr hhead)
    rw [hp] at hhandles
    cases hhandles
  · rw [hafter]
    refine (or_iff_left ?_).symm
    rintro ⟨r, hr, -⟩
    rw [hsupported, hfault] at hr
    cases hr
  · rw [hafter, Registry.isRegistered_after, register_mem_operations_iff]
    refine or_congr Iff.rfl (exists_congr fun r => and_congr ?_ Iff.rfl)
    rw [hsupported, hevent, Except.ok.injEq]

theorem after_call {c : Controller} (hv : 1 ≤ c.handler.version) (call : Call) :
    (call.act.run c).after = match call with
      | .registerBasics => { c with registry := c.registry.after c.handler.basics }
      | .refresh scope => { c with handler := c.handler.refreshed scope }
      | .pollRequests => c
      | .receive payload => ((receive payload).run c).after := by
  cases call with
  | registerBasics =>
    obtain ⟨signals, heffect, -⟩ := c.effect_registerBasics
    rw [Call.act, Act.after_map, (Act.run_of_effect heffect).2.1]
  | refresh scope =>
    obtain ⟨signals, heffect, -⟩ := c.effect_refresh hv scope
    rw [Call.act, (Act.run_of_effect heffect).2.1]
  | pollRequests =>
    obtain ⟨signals, heffect, -⟩ := c.effect_pollRequests hv
    rw [Call.act, (Act.run_of_effect heffect).2.1]
  | receive payload => rw [Call.act, Act.after_map]

/-- A call registers what it adds, and unregisters nothing. -/
theorem isRegistered_call {c : Controller} (hv : 1 ≤ c.handler.version) (call : Call) (i : Int) :
    ((call.act.run c).after).registry.isRegistered i ↔
      c.registry.isRegistered i ∨ call.Adds c.handler.legacyLockState i := by
  rw [after_call hv]
  cases call with
  | registerBasics => rw [Registry.isRegistered_after, register_mem_basics_iff]
  | refresh scope => exact (or_iff_left id).symm
  | pollRequests => exact (or_iff_left id).symm
  | receive payload => exact c.isRegistered_receive payload i

/-! ### Runs -/

/-- What a call leaves as it is. -/
structure Kept (c c' : Controller) : Prop where
  version : c'.handler.version = c.handler.version
  legacyLockState : c'.handler.legacyLockState = c.handler.legacyLockState
  answersGet : c'.registry.answersGet = c.registry.answersGet

theorem kept_receive (c : Controller) (payload : List UInt8) :
    Kept c ((receive payload).run c).after := by
  rcases c.receive_cases payload with ⟨-, -, hafter⟩ | ⟨fault, -, -, hafter⟩ |
    ⟨event, -, -, hafter⟩
  · rw [hafter]
    exact ⟨rfl, rfl, rfl⟩
  · rw [hafter]
    exact ⟨rfl, rfl, rfl⟩
  · rw [hafter]
    cases event <;> exact ⟨rfl, rfl, Registry.answersGet_after ..⟩

theorem kept_call {c : Controller} (hv : 1 ≤ c.handler.version) (call : Call) :
    Kept c (call.act.run c).after := by
  rw [after_call hv]
  cases call with
  | registerBasics => exact ⟨rfl, rfl, Registry.answersGet_after ..⟩
  | refresh scope =>
    unfold Handler.refreshed
    dsimp only
    split <;> exact ⟨rfl, rfl, rfl⟩
  | pollRequests => exact ⟨rfl, rfl, rfl⟩
  | receive payload => exact c.kept_receive payload

/-- What is registered after a run was registered before, or a call of the run added it. -/
theorem isRegistered_run {fresh : Controller} (hv : 1 ≤ fresh.handler.version) (calls : List Call) :
    Kept fresh (fresh.run calls) ∧ ∀ i, (fresh.run calls).registry.isRegistered i ↔
      fresh.registry.isRegistered i ∨
        ∃ call ∈ calls, call.Adds fresh.handler.legacyLockState i := by
  refine Act.afterAll_history (P := fun past c => Kept fresh c ∧ ∀ i, c.registry.isRegistered i ↔
    fresh.registry.isRegistered i ∨ ∃ call ∈ past, call.Adds fresh.handler.legacyLockState i)
    ⟨⟨rfl, rfl, rfl⟩, by simp⟩ ?_ calls
  rintro past call c ⟨hkept, hregistered⟩
  have hv' : 1 ≤ c.handler.version := hkept.version ▸ hv
  have hkept' := kept_call hv' call
  refine ⟨?_, ?_⟩
  · exact ⟨hkept'.version.trans hkept.version,
      hkept'.legacyLockState.trans hkept.legacyLockState,
      hkept'.answersGet.trans hkept.answersGet⟩
  · intro i
    rw [isRegistered_call hv', hregistered, hkept.legacyLockState, or_assoc]
    simp [or_and_right, exists_or]

/-! ### Whole runs -/

theorem mem_delivered {payload : List UInt8} {calls : List Call} :
    payload ∈ delivered calls ↔ .receive payload ∈ calls := by
  simp only [delivered, List.mem_filterMap]
  constructor
  · rintro ⟨call, hmem, hcall⟩
    cases call with
    | receive payload' =>
      obtain rfl := Option.some.inj hcall
      exact hmem
    | _ => cases hcall
  · intro h
    exact ⟨_, h, rfl⟩

theorem accounted_iff {legacyLockState : Bool} {calls : List Call} {i : Int} :
    Accounted legacyLockState calls i ↔ ∃ call ∈ calls, call.Adds legacyLockState i := by
  constructor
  · rintro (⟨hcall, h | h⟩ | ⟨hcall, hl, h⟩ | ⟨⟨payload, hmem, hp⟩, h⟩ | ⟨t, ⟨payload, hmem, r, hr, ht⟩, h⟩)
    · exact ⟨_, hcall, .inl h⟩
    · exact ⟨_, hcall, .inr (.inl h)⟩
    · exact ⟨_, hcall, .inr (.inr ⟨hl, h⟩)⟩
    · obtain ⟨r, hr⟩ := exists_reports_iff.2 hp
      exact ⟨_, mem_delivered.1 hmem, r, hr, .inl h⟩
    · exact ⟨_, mem_delivered.1 hmem, r, hr, .inr ⟨t, ht, h⟩⟩
  · rintro ⟨call, hmem, hadds⟩
    cases call with
    | registerBasics =>
      rcases hadds with h | h | ⟨hl, h⟩
      · exact .inl ⟨hmem, .inl h⟩
      · exact .inl ⟨hmem, .inr h⟩
      · exact .inr (.inl ⟨hmem, hl, h⟩)
    | receive payload =>
      obtain ⟨r, hr, h | ⟨t, ht, h⟩⟩ := hadds
      · exact .inr (.inr (.inl ⟨⟨payload, mem_delivered.2 hmem, exists_reports_iff.1 ⟨r, hr⟩⟩, h⟩))
      · exact .inr (.inr (.inr ⟨t, ⟨payload, mem_delivered.2 hmem, r, hr, ht⟩, h⟩))
    | refresh scope => exact hadds.elim
    | pollRequests => exact hadds.elim

/-- The index of an event type is accounted for exactly if the type is reported. -/
theorem accounted_ofEventType_iff {legacyLockState : Bool} {calls : List Call} {t : EventType} :
    Accounted legacyLockState calls (ValueIndex.ofEventType t) ↔ Reported calls t := by
  constructor
  · rintro (⟨-, h | h⟩ | ⟨-, -, h⟩ | ⟨-, h⟩ | ⟨u, hu, h⟩)
    · exact absurd h (ValueIndex.ofEventType_ne_alarmType t)
    · exact absurd h (ValueIndex.ofEventType_ne_level t)
    · exact absurd h (ValueIndex.ofEventType_ne_lockState t)
    · exact absurd h (ValueIndex.ofEventType_ne_sourceNodeId t)
    · rwa [ValueIndex.ofEventType_inj.1 h]
  · intro h
    exact .inr (.inr (.inr ⟨t, h, rfl⟩))

theorem encode_poll (version : Int) (t : EventType) :
    (Request.poll version t).encode =
      0x04 :: 0x00 :: t.byte :: if 3 ≤ version then [0x01] else [] := by
  by_cases h : 3 ≤ version <;>
    simp [Request.poll, Request.firstEventVersion, Get.encode, Packet.encode, Command.byte,
      Get.reserved, Get.firstEventFlag, h]

/-- **What is registered and polled is exactly what was reported.** A controller on a registry that
only it writes to has registered what its calls account for, and polls the types that the supported
reports among them report: nothing if the node answers no Gets, with the bare Get in version 1, and
else with one Get for each type, in the order of the table. -/
theorem registered_and_polled_as_reported (nodeId : Int) {version : Int} (legacyLockState : Bool)
    (hv : 1 ≤ version) {registry : Registry} (hfresh : registry.entries = []) :
    ∃ handler, Handler.create nodeId version legacyLockState = .ok handler ∧
      ∀ calls : List Call,
        (∀ i, (run ⟨handler, registry⟩ calls).registry.isRegistered i ↔
          Accounted legacyLockState calls i) ∧
        ∃ types, EventType.InOrder types ∧ (∀ t, t ∈ types ↔ Reported calls t) ∧
          ∃ packets, (pollRequests.run (run ⟨handler, registry⟩ calls)).result = .ok packets ∧
            packets.map Packet.encode =
              if registry.answersGet = false then []
              else if version = 1 then [[0x04]]
              else types.map fun t =>
                0x04 :: 0x00 :: t.byte :: if 3 ≤ version then [0x01] else [] := by
  refine ⟨{ nodeId, version, legacyLockState }, if_neg (by omega), ?_⟩
  intro calls
  obtain ⟨hkept, hregistered⟩ :=
    @isRegistered_run ⟨{ nodeId, version, legacyLockState }, registry⟩ hv calls
  set c := run ⟨{ nodeId, version, legacyLockState }, registry⟩ calls with hc
  have haccounted (i : Int) :
      c.registry.isRegistered i ↔ Accounted legacyLockState calls i := by
    rw [hregistered, accounted_iff]
    exact or_iff_right (by simp [Registry.isRegistered, hfresh])
  have hversion : c.handler.version = version := hkept.version
  have hanswers : c.registry.answersGet = registry.answersGet := hkept.answersGet
  refine ⟨haccounted, c.registry.types, c.registry.inOrder_types, ?_, ?_⟩
  · intro t
    rw [Registry.mem_types, haccounted, accounted_ofEventType_iff]
  · obtain ⟨signals, heffect, -⟩ := c.effect_pollRequests (by omega)
    refine ⟨_, (Act.run_of_effect heffect).1, ?_⟩
    rw [Request.polls, hversion, Registry.capabilities]
    dsimp only
    rw [hanswers, Request.inTypeOrder_targets, Registry.targets_eq]
    cases registry.answersGet with
    | false => rfl
    | true =>
      by_cases h₁ : version = 1
      · simp only [h₁, if_true]
        rfl
      · simp only [h₁, if_true, if_false, List.map_map, Function.comp_def, encode_poll]
        rfl

/-- Two reports that overlap come to two Gets; one without a bitmap comes to none. -/
theorem polls_smoke_and_flood :
    ((1 : Int) ≤ 2 ∧ ({} : Registry).entries = []) ∧
      ∃ handler, Handler.create 7 2 false = .ok handler ∧ ∃ packets,
        (pollRequests.run (run ⟨handler, {}⟩ [.receive [0x08, 0x01, 0x22], .registerBasics,
          .receive [0x08], .receive [0x08, 0x01, 0x20]])).result = .ok packets ∧
        packets.map Packet.encode = [[0x04, 0x00, 0x01], [0x04, 0x00, 0x05]] := by
  obtain ⟨handler, hcreate, h⟩ :=
    @registered_and_polled_as_reported 7 2 false (by decide) {} rfl
  obtain ⟨-, types, hordered, hmem, packets, hresult, hencode⟩ := h [.receive [0x08, 0x01, 0x22],
    .registerBasics, .receive [0x08], .receive [0x08, 0x01, 0x20]]
  have htypes : types = [.smoke, .flood] := by
    refine hordered.ext (by unfold EventType.InOrder; decide) fun t => (hmem t).trans ⟨?_, ?_⟩
    · rintro ⟨payload, hpayload, r, ⟨-, hr⟩, ht⟩
      simp only [delivered, List.filterMap_cons, List.filterMap_nil, List.mem_cons,
        List.not_mem_nil, or_false] at hpayload
      rcases hpayload with rfl | rfl | rfl
      · obtain rfl := Except.ok.inj hr
        revert t
        decide
      · cases hr
      · obtain rfl := Except.ok.inj hr
        revert t
        decide
    · intro ht
      refine ⟨[0x08, 0x01, 0x22], by decide, _, ⟨rfl, rfl⟩, ?_⟩
      revert t
      decide
  refine ⟨⟨by decide, rfl⟩, handler, hcreate, packets, hresult, ?_⟩
  rw [hencode, htypes]
  decide

end MeshAlarm.Controller
