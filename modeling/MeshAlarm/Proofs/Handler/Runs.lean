import MeshAlarm.Proofs.Handler.Effect

/-!
# Runs of a handler

A handler is called in any order: to register the basic values, to build requests, with payloads
from the node, and to have decoded events announced or no longer. The registry is not part of the
handler, so that each request comes with what some registry answers to it.

A payload is left alone, dropped and counted, or taken in. Which of the three happens depends on the
payload only, and a dropped payload leaves no trace but its count.

## Main definitions

* `Handler.Call`, `Handler.run`: the calls, and a handler after calls
* `Handler.delivered`: the payloads among calls
* `Handler.Receipt`: what becomes of a payload

## Main results

* `Handler.receipt`: what becomes of any payload in any state
* `Handler.receives_all_and_counts_malformed`: the same along every run, which counts exactly the
  malformed payloads
-/

namespace MeshAlarm.Handler

/-- What a handler is called to do. Requests come with what the registry answers. -/
inductive Call
  | registerBasics
  | refresh (capabilities : Capabilities) (scope : Scope)
  | pollRequests (capabilities : Capabilities)
  | receive (payload : List UInt8)
  /-- Decoded events are announced from now on, or no longer. -/
  | watch (announces : Bool)

def Call.act : Call → Act Handler Output (List Packet)
  | registerBasics => (fun _ => []) <$> Handler.registerBasics
  | refresh capabilities scope => Handler.refresh capabilities scope
  | pollRequests capabilities => Handler.pollRequests capabilities
  | receive payload => (fun _ => []) <$> Handler.receive payload
  | watch announces => (fun _ => []) <$> Act.update fun h => { h with announcesEvents := announces }

/-- A handler after calls. -/
def run (h : Handler) (calls : List Call) : Handler :=
  Act.afterAll Call.act h calls

/-- The payload that a call delivers, if it delivers one. -/
def Call.payload? : Call → Option (List UInt8)
  | receive payload => some payload
  | _ => none

/-- The payloads among calls, in order. -/
def delivered (calls : List Call) : List (List UInt8) :=
  calls.filterMap Call.payload?

def Output.event? : Output → Option Event
  | event e => some e
  | _ => none

/-! ### One payload -/

/-- What becomes of a payload in a state of the handler. -/
structure Receipt (h : Handler) (payload : List UInt8) : Prop where
  /-- It is answered whether the payload is of a command that nodes send. -/
  answered : ((receive payload).run h).result =
    .ok (decide (payload.head? = some 0x05 ∨ payload.head? = some 0x08))
  /-- Payloads of other commands change nothing and have nothing done. -/
  ignored : ((receive payload).run h).result = .ok false →
    ((receive payload).run h).after = h ∧ ((receive payload).run h).trace.emissions = []
  /-- Malformed payloads are counted and have nothing done. -/
  dropped : Malformed payload →
    ((receive payload).run h).after = { h with discarded := h.discarded + 1 } ∧
      ((receive payload).run h).trace.emissions = []
  /-- All others are decoded, and the event is announced once to those who watch. -/
  taken : ((receive payload).run h).result = .ok true → ¬ Malformed payload →
    ((receive payload).run h).after.discarded = h.discarded ∧
      ∃ event, Event.ofPayload h.version payload = .ok event ∧
        ((receive payload).run h).trace.emissions.filterMap Output.event? =
          if h.announcesEvents then [event] else []

theorem filterMap_event?_operate (ops : List Operation) :
    (ops.map Output.operate).filterMap Output.event? = [] := by
  simp [List.filterMap_map, Function.comp_def, Output.event?]

theorem informed_discarded (event : Event) (h : Handler) :
    (informed event h).discarded = h.discarded := by
  cases event <;> rfl

theorem not_malformed_of_not_handles {payload : List UInt8} (h : handles payload = false) :
    ¬ Malformed payload := by
  intro hm
  have hhead : payload.head? = some 0x05 ∨ payload.head? = some 0x08 := hm.imp And.left And.left
  have hhandles : handles payload = true := handles_iff.2 hhead
  rw [h] at hhandles
  cases hhandles

/-- Of the payloads that are handled, the malformed ones carry no event. -/
theorem malformed_iff {payload : List UInt8} (h : handles payload) (version : Int) :
    Malformed payload ↔ ∃ fault, Event.ofPayload version payload = .error fault :=
  (Event.ofPayload_eq_error_iff_malformed version (handles_iff.1 h)).symm

theorem receipt (h : Handler) (payload : List UInt8) : Receipt h payload := by
  have hanswer : decide (payload.head? = some 0x05 ∨ payload.head? = some 0x08) = handles payload :=
    Bool.eq_iff_iff.2 (by rw [decide_eq_true_iff, handles_iff])
  rcases h.receive_cases payload with ⟨hp, heffect⟩ | ⟨fault, hp, hfault, heffect⟩ |
    ⟨event, hp, hevent, heffect⟩
  · obtain ⟨hresult, hafter, hnone⟩ := Act.run_of_effect heffect
    have hnot := not_malformed_of_not_handles hp
    refine ⟨by rw [hresult, hanswer, hp], fun _ => ⟨hafter, hnone⟩, ?_, ?_⟩
    · intro hm
      exact absurd hm hnot
    · intro htrue
      rw [hresult] at htrue
      cases htrue
  · obtain ⟨hresult, hafter, hnone⟩ := Act.run_of_effect heffect
    have hm : Malformed payload := (malformed_iff hp h.version).2 ⟨fault, hfault⟩
    refine ⟨by rw [hresult, hanswer, hp], ?_, fun _ => ⟨hafter, hnone⟩, ?_⟩
    · intro hfalse
      rw [hresult] at hfalse
      cases hfalse
    · intro _ hnot
      exact absurd hm hnot
  · obtain ⟨hresult, hafter, hemitted⟩ := Act.run_of_effect heffect
    have hnot : ¬ Malformed payload := by
      rw [malformed_iff hp h.version, hevent]
      rintro ⟨fault, hfault⟩
      cases hfault
    refine ⟨by rw [hresult, hanswer, hp], ?_, ?_, ?_⟩
    · intro hfalse
      rw [hresult] at hfalse
      cases hfalse
    · intro hm
      exact absurd hm hnot
    · intro _ _
      refine ⟨by rw [hafter, informed_discarded], event, hevent, ?_⟩
      rw [hemitted, List.filterMap_append, filterMap_event?_operate, List.nil_append]
      cases h.announcesEvents <;> rfl

theorem version_informed (event : Event) (h : Handler) :
    (informed event h).version = h.version := by
  cases event <;> rfl

theorem version_receive (h : Handler) (payload : List UInt8) :
    ((receive payload).run h).after.version = h.version := by
  rcases h.receive_cases payload with ⟨-, heffect⟩ | ⟨fault, -, -, heffect⟩ | ⟨event, -, -, heffect⟩
  · rw [(Act.run_of_effect heffect).2.1]
  · rw [(Act.run_of_effect heffect).2.1]
  · rw [(Act.run_of_effect heffect).2.1, version_informed]

theorem discarded_receive (h : Handler) (payload : List UInt8) :
    ((receive payload).run h).after.discarded =
      h.discarded + if Malformed payload then 1 else 0 := by
  have hreceipt := h.receipt payload
  by_cases hm : Malformed payload
  · obtain ⟨hafter, -⟩ := hreceipt.dropped hm
    rw [if_pos hm, hafter]
  · rw [if_neg hm, Nat.add_zero]
    by_cases hp : payload.head? = some 0x05 ∨ payload.head? = some 0x08
    · have htrue := hreceipt.answered
      rw [decide_eq_true hp] at htrue
      exact (hreceipt.taken htrue hm).1
    · have hfalse := hreceipt.answered
      rw [decide_eq_false hp] at hfalse
      obtain ⟨hafter, -⟩ := hreceipt.ignored hfalse
      rw [hafter]

/-! ### Runs -/

/-- Calls that deliver no payload change neither the version nor the count. -/
theorem after_of_payload?_eq_none {call : Call} (hcall : call.payload? = none) {h : Handler}
    (hv : 1 ≤ h.version) : (call.act.run h).after.version = h.version ∧
      (call.act.run h).after.discarded = h.discarded := by
  cases call with
  | receive payload => cases hcall
  | registerBasics =>
    rw [Call.act, Act.after_map, (Act.run_of_effect h.effect_registerBasics).2.1]
    exact ⟨rfl, rfl⟩
  | refresh capabilities scope =>
    obtain ⟨asked, heffect⟩ := h.effect_refresh hv capabilities scope
    rw [Call.act, (Act.run_of_effect heffect).2.1, refreshed]
    split <;> exact ⟨rfl, rfl⟩
  | pollRequests capabilities =>
    obtain ⟨asked, heffect⟩ := h.effect_pollRequests hv capabilities
    rw [Call.act, (Act.run_of_effect heffect).2.1]
    exact ⟨rfl, rfl⟩
  | watch announces => exact ⟨rfl, rfl⟩

theorem version_call {call : Call} {h : Handler} (hv : 1 ≤ h.version) :
    (call.act.run h).after.version = h.version := by
  cases hpayload : call.payload? with
  | none => exact (after_of_payload?_eq_none hpayload hv).1
  | some payload =>
    cases call with
    | receive payload => rw [Call.act, Act.after_map, version_receive]
    | _ => cases hpayload

theorem discarded_call {call : Call} {h : Handler} (hv : 1 ≤ h.version) :
    (call.act.run h).after.discarded =
      h.discarded + call.payload?.toList.countP fun payload => Malformed payload := by
  cases hpayload : call.payload? with
  | none => exact (after_of_payload?_eq_none hpayload hv).2
  | some payload =>
    cases call with
    | receive payload =>
      obtain rfl := Option.some.inj hpayload
      rw [Call.act, Act.after_map, discarded_receive]
      simp [List.countP_cons]
    | _ => cases hpayload

variable {fresh : Handler} (hv : 1 ≤ fresh.version) (calls : List Call)

include hv

theorem version_run : (fresh.run calls).version = fresh.version := by
  refine Act.afterAll_history (P := fun _ (h : Handler) => h.version = fresh.version) rfl ?_ calls
  intro past call h hversion
  rw [version_call (hversion ▸ hv), hversion]

/-- A run counts the malformed payloads that it delivers. -/
theorem discarded_run : (fresh.run calls).discarded =
    fresh.discarded + (delivered calls).countP fun payload => Malformed payload := by
  -- The version has to be carried along: requests can be built from version 1 on only.
  refine (Act.afterAll_history (P := fun past (h : Handler) => h.version = fresh.version ∧
    h.discarded = fresh.discarded + (delivered past).countP fun payload => Malformed payload)
    ⟨rfl, rfl⟩ ?_ calls).2
  rintro past call h ⟨hversion, hcount⟩
  have hv' : 1 ≤ h.version := hversion ▸ hv
  refine ⟨by rw [version_call hv', hversion], ?_⟩
  rw [discarded_call hv', hcount, delivered, delivered, List.filterMap_append,
    List.countP_append, Nat.add_assoc]
  cases hpayload : call.payload? <;> simp [hpayload]

omit hv

/-- **A handler takes every payload, and counts exactly the malformed ones.** In every state that a
new handler reaches, whatever registries have answered and whoever watches, a payload is left alone,
dropped and counted, or taken in; and the count is the number of malformed payloads so far. -/
theorem receives_all_and_counts_malformed (nodeId : Int) {version : Int} (legacyLockState : Bool)
    (hv : 1 ≤ version) :
    ∃ fresh, create nodeId version legacyLockState = .ok fresh ∧ ∀ calls : List Call,
      (∀ payload, Receipt (fresh.run calls) payload) ∧ (fresh.run calls).version = version ∧
        (fresh.run calls).discarded =
          (delivered calls).countP fun payload => Malformed payload := by
  refine ⟨{ nodeId, version, legacyLockState }, if_neg (by omega), ?_⟩
  intro calls
  refine ⟨?_, ?_, ?_⟩
  · intro payload
    exact receipt _ payload
  · exact version_run hv calls
  · rw [discarded_run hv calls, Nat.zero_add]

/-- Two of these four payloads are malformed, one more is of another command. -/
theorem counts_malformed_among_four :
    (1 : Int) ≤ 2 ∧ ∃ fresh, create 7 2 false = .ok fresh ∧
      (fresh.run [.receive [0x05, 0x07], .registerBasics, .receive [0x08],
        .refresh {} { static := true }, .receive [0x04], .receive [0x05, 0x07, 0x01]]).discarded =
        2 := by
  obtain ⟨fresh, hfresh, h⟩ := @receives_all_and_counts_malformed 7 2 false (by decide)
  exact ⟨by decide, fresh, hfresh, (h _).2.2⟩

end MeshAlarm.Handler
