import MeshAlarm.Controller
import MeshAlarm.Proofs.Handler.Effect
import MeshAlarm.Proofs.Registry

/-!
# What a controller does

The registry carries out what the handler emits, and nothing else reaches it. So a controller
answers as its handler does, its registry is the one after the handler's operations, and what its
watchers hear of the registry is what these operations announce.

## Main definitions

* `Handler.operationsOf`, `Signal.noticesOf`: the operations among outputs, the notices among signals

## Main results

* `Controller.effect_onHandler`: what a controller does while its handler acts
* `Controller.effect_receive_of_ok`, `Controller.effect_receive_of_error`,
  `Controller.effect_receive_of_not_handles`: what a payload does
* `Controller.effect_refresh`, `Controller.effect_pollRequests`: what requests do
-/

namespace MeshAlarm

/-- The operations that outputs ask for, in order. -/
def Handler.operationsOf (outputs : List Handler.Output) : List Operation :=
  outputs.filterMap fun
    | .operate operation => some operation
    | _ => none

/-- The notices among signals, in order. -/
def Signal.noticesOf (signals : List Signal) : List Notice :=
  signals.filterMap fun
    | .notice n => some n
    | .event _ => none

namespace Handler

@[simp] theorem operationsOf_nil : operationsOf [] = [] := rfl

@[simp] theorem operationsOf_operate_cons (op : Operation) (outputs : List Output) :
    operationsOf (.operate op :: outputs) = op :: operationsOf outputs := rfl

@[simp] theorem operationsOf_ask_cons (inquiry : Inquiry) (outputs : List Output) :
    operationsOf (.ask inquiry :: outputs) = operationsOf outputs := rfl

@[simp] theorem operationsOf_event_cons (event : Event) (outputs : List Output) :
    operationsOf (.event event :: outputs) = operationsOf outputs := rfl

@[simp] theorem operationsOf_append (outputs more : List Output) :
    operationsOf (outputs ++ more) = operationsOf outputs ++ operationsOf more :=
  List.filterMap_append

@[simp] theorem operationsOf_operate (ops : List Operation) :
    operationsOf (ops.map .operate) = ops := by
  induction ops with
  | nil => rfl
  | cons op ops ih => rw [List.map_cons, operationsOf_operate_cons, ih]

@[simp] theorem operationsOf_ask (asked : List Inquiry) :
    operationsOf (asked.map .ask) = [] := by
  induction asked with
  | nil => rfl
  | cons inquiry asked ih => rw [List.map_cons, operationsOf_ask_cons, ih]

end Handler

@[simp] theorem Signal.noticesOf_append (signals more : List Signal) :
    noticesOf (signals ++ more) = noticesOf signals ++ noticesOf more :=
  List.filterMap_append

@[simp] theorem Signal.noticesOf_notice (notices : List Notice) :
    noticesOf (notices.map .notice) = notices := by
  simp [noticesOf, List.filterMap_map]

namespace Controller

variable {β : Type} (c : Controller)

/-- The registry acts, and its notices are passed on. -/
theorem effect_onRegistry (m : Act Registry Notice β) :
    (onRegistry m).effect c = ⟨(m.effect c.registry).result,
      { c with registry := (m.effect c.registry).after },
      (m.effect c.registry).emitted.map .notice⟩ := by
  rw [onRegistry, Act.effect_inside_of_answers fun notice => Act.answers_emit (Signal.notice notice)]
  simp only [Act.effect_each_emit]

theorem answers_carry (output : Handler.Output) : (carry output).Answers := by
  intro c
  cases output with
  | operate op =>
    rw [carry, effect_onRegistry]
    exact Registry.answers_perform op c.registry
  | ask inquiry => exact ⟨(), rfl⟩
  | event e => exact ⟨(), rfl⟩

/-- Carrying out outputs comes to their operations on the registry. -/
theorem after_each_carry (outputs : List Handler.Output) :
    ((Act.each carry outputs).effect c).after =
      { c with registry := c.registry.after (Handler.operationsOf outputs) } := by
  induction outputs generalizing c with
  | nil => rfl
  | cons output outputs ih =>
    rw [Act.each, Act.effect_bind, (answers_carry output).effect, Effect.andThen_ok,
      Effect.behind_after, ih]
    cases output with
    | operate op =>
      rw [carry, effect_onRegistry, Handler.operationsOf_operate_cons, Registry.after_cons]
    | ask inquiry => rfl
    | event e => rfl

/-- The notices are those of the operations. -/
theorem notices_each_carry (outputs : List Handler.Output) :
    Signal.noticesOf ((Act.each carry outputs).effect c).emitted =
      ((Act.each Registry.perform (Handler.operationsOf outputs)).effect c.registry).emitted := by
  induction outputs generalizing c with
  | nil => rfl
  | cons output outputs ih =>
    rw [Act.each, Act.effect_bind, (answers_carry output).effect, Effect.andThen_ok,
      Effect.behind_emitted, Signal.noticesOf_append, ih]
    cases output with
    | operate op =>
      rw [Handler.operationsOf_operate_cons, Act.each, Act.effect_bind,
        (Registry.answers_perform op).effect, Effect.andThen_ok, Effect.behind_emitted, carry,
        effect_onRegistry, Signal.noticesOf_notice]
    | ask inquiry => rfl
    | event e => rfl

/-- A controller answers as its handler does, while its registry carries out the operations. -/
theorem effect_onHandler {m : Act Handler Handler.Output β} {result : Except Fault β} {h : Handler}
    {outputs : List Handler.Output} (hm : m.effect c.handler = ⟨result, h, outputs⟩) :
    ∃ signals, (onHandler m).effect c =
        ⟨result, ⟨h, c.registry.after (Handler.operationsOf outputs)⟩, signals⟩ ∧
      Signal.noticesOf signals =
        ((Act.each Registry.perform (Handler.operationsOf outputs)).effect c.registry).emitted := by
  refine ⟨_, ?_, notices_each_carry { c with handler := h } outputs⟩
  rw [onHandler, Act.effect_inside_of_answers answers_carry, hm]
  dsimp only
  rw [after_each_carry]

/-! ### Payloads -/

theorem effect_receive_of_not_handles {payload : List UInt8}
    (hp : Handler.handles payload = false) :
    ∃ signals, (receive payload).effect c = ⟨.ok false, c, signals⟩ ∧
      Signal.noticesOf signals = [] :=
  c.effect_onHandler (c.handler.effect_receive_of_not_handles hp)

theorem effect_receive_of_error {payload : List UInt8} {fault : DecodeFault}
    (hp : Handler.handles payload)
    (hfault : Event.ofPayload c.handler.version payload = .error fault) :
    ∃ signals, (receive payload).effect c =
        ⟨.ok true, { c with handler.discarded := c.handler.discarded + 1 }, signals⟩ ∧
      Signal.noticesOf signals = [] :=
  c.effect_onHandler (c.handler.effect_receive_of_error hp hfault)

theorem effect_receive_of_ok {payload : List UInt8} {event : Event} (hp : Handler.handles payload)
    (hevent : Event.ofPayload c.handler.version payload = .ok event) :
    ∃ signals, (receive payload).effect c =
        ⟨.ok true, ⟨Handler.informed event c.handler, c.registry.after event.operations⟩, signals⟩ ∧
      Signal.noticesOf signals =
        ((Act.each Registry.perform event.operations).effect c.registry).emitted := by
  have hops : Handler.operationsOf (event.operations.map .operate ++
      if c.handler.announcesEvents then [.event event] else []) = event.operations := by
    cases c.handler.announcesEvents <;> simp
  rw [← hops]
  exact c.effect_onHandler (c.handler.effect_receive_of_ok hp hevent)

/-- What a payload leaves: the same, one more dropped payload, or what its event says. -/
theorem receive_cases (payload : List UInt8) :
    (Handler.handles payload = false ∧ ((receive payload).run c).result = .ok false ∧
        ((receive payload).run c).after = c) ∨
      (∃ fault, Event.ofPayload c.handler.version payload = .error fault ∧
        ((receive payload).run c).result = .ok true ∧
        ((receive payload).run c).after =
          { c with handler.discarded := c.handler.discarded + 1 }) ∨
      ∃ event, Event.ofPayload c.handler.version payload = .ok event ∧
        ((receive payload).run c).result = .ok true ∧
        ((receive payload).run c).after =
          ⟨Handler.informed event c.handler, c.registry.after event.operations⟩ := by
  rcases c.handler.receive_cases payload with ⟨hp, -⟩ | ⟨fault, hp, hfault, -⟩ | ⟨event, hp, hevent, -⟩
  · obtain ⟨signals, heffect, -⟩ := c.effect_receive_of_not_handles hp
    obtain ⟨hresult, hafter, -⟩ := Act.run_of_effect heffect
    exact .inl ⟨hp, hresult, hafter⟩
  · obtain ⟨signals, heffect, -⟩ := c.effect_receive_of_error hp hfault
    obtain ⟨hresult, hafter, -⟩ := Act.run_of_effect heffect
    exact .inr (.inl ⟨fault, hfault, hresult, hafter⟩)
  · obtain ⟨signals, heffect, -⟩ := c.effect_receive_of_ok hp hevent
    obtain ⟨hresult, hafter, -⟩ := Act.run_of_effect heffect
    exact .inr (.inr ⟨event, hevent, hresult, hafter⟩)

/-! ### Values and requests -/

theorem effect_registerBasics :
    ∃ signals, registerBasics.effect c =
        ⟨.ok (), { c with registry := c.registry.after c.handler.basics }, signals⟩ ∧
      Signal.noticesOf signals =
        ((Act.each Registry.perform c.handler.basics).effect c.registry).emitted := by
  simpa [registerBasics] using c.effect_onHandler c.handler.effect_registerBasics

/-- Requests leave the registry alone. -/
theorem effect_refresh (hv : 1 ≤ c.handler.version) (scope : Scope) :
    ∃ signals, (refresh scope).effect c =
        ⟨.ok (c.handler.requests c.registry.capabilities scope),
          { c with handler := c.handler.refreshed scope }, signals⟩ ∧
      Signal.noticesOf signals = [] := by
  obtain ⟨asked, heffect⟩ := c.handler.effect_refresh hv c.registry.capabilities scope
  simpa [refresh] using c.effect_onHandler heffect

theorem effect_pollRequests (hv : 1 ≤ c.handler.version) :
    ∃ signals, pollRequests.effect c =
        ⟨.ok (Request.polls c.registry.capabilities c.handler.version), c, signals⟩ ∧
      Signal.noticesOf signals = [] := by
  obtain ⟨asked, heffect⟩ := c.handler.effect_pollRequests hv c.registry.capabilities
  simpa [pollRequests] using c.effect_onHandler heffect

end Controller

end MeshAlarm
