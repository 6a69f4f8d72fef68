import MeshAlarm.Emulator
import MeshAlarm.Proofs.Controller.Effect
import MeshAlarm.Proofs.Device

/-!
# What an emulator does

Printing touches nothing, so that a controller acts in an emulator as it does alone. The device
answers a request and stays as it is, and its answers reach the controller one by one. Nothing on
this way can fail but the answer itself.

What survives the payloads in which the device speaks of itself survives every exchange with it.

## Main definitions

* `Emulator.received`: an emulator after its controller took a payload

## Main results

* `Emulator.effect_onController`: what an emulator does while its controller acts
* `Emulator.effect_refresh`: what building requests does
* `Emulator.effect_deliver`, `Emulator.effect_deliver_of_ok`: what a payload does
* `Emulator.effect_answer`, `Emulator.effect_answer_of_ok`: what a request to the device does
* `Emulator.effect_onDevice_raise`, `Emulator.effect_onDevice_turnLock`: what the events on the device
  do
* `Emulator.keeps_send`: what survives an exchange
-/

namespace MeshAlarm.Emulator

variable {β : Type} (e : Emulator)

/-! ### Printing -/

@[simp] theorem effect_print (line : String) :
    (print line).effect e = ⟨.ok (), e, [line ++ "\n"]⟩ := rfl

@[simp] theorem effect_printAll (lines : List String) :
    (printAll lines).effect e = ⟨.ok (), e, lines.map (· ++ "\n")⟩ := by
  induction lines with
  | nil => rfl
  | cons line lines ih => simp [printAll, ih]

theorem keeps_printAll {P : Emulator → Prop} (lines : List String) : (printAll lines).Keeps P := by
  intro e he
  rwa [(Act.run_of_effect (e.effect_printAll lines)).2.1]

/-- Announcing touches nothing, and only notices print anything. -/
theorem effect_announce (signal : Signal) : ∃ lines,
    (announce signal).effect e = ⟨.ok (), e, lines⟩ ∧
      (Signal.noticesOf [signal] = [] → lines = []) := by
  rcases signal with (⟨index, name⟩ | ⟨index, content⟩) | event
  · exact ⟨_, rfl, fun h => by cases h⟩
  · exact ⟨_, rfl, fun h => by cases h⟩
  · exact ⟨[], rfl, fun _ => rfl⟩

theorem effect_each_announce (signals : List Signal) : ∃ lines,
    (Act.each announce signals).effect e = ⟨.ok (), e, lines⟩ ∧
      (Signal.noticesOf signals = [] → lines = []) := by
  induction signals with
  | nil => exact ⟨[], rfl, fun _ => rfl⟩
  | cons signal signals ih =>
    obtain ⟨first, hfirst, hsilent⟩ := e.effect_announce signal
    obtain ⟨lines, hlines, hsilent'⟩ := ih
    refine ⟨first ++ lines, by simp [Act.each, hfirst, hlines], ?_⟩
    intro h
    rw [← List.singleton_append, Signal.noticesOf_append, List.append_eq_nil_iff] at h
    rw [hsilent h.1, hsilent' h.2, List.append_nil]

/-! ### The controller -/

/-- A controller acts in an emulator as it does alone. If it gives no notice, nothing is printed. -/
theorem effect_onController {m : Act Controller Signal β} {result : Except Fault β} {c : Controller}
    {signals : List Signal} (hm : m.effect e.controller = ⟨result, c, signals⟩) : ∃ lines,
    (onController m).effect e = ⟨result, { e with controller := c }, lines⟩ ∧
      (Signal.noticesOf signals = [] → lines = []) := by
  obtain ⟨lines, hlines, hsilent⟩ := effect_each_announce { e with controller := c } signals
  refine ⟨lines, ?_, hsilent⟩
  rw [onController, Act.effect_inside, hm, hlines]
  simp

/-- Building requests prints nothing. -/
theorem effect_refresh (hv : 1 ≤ e.controller.handler.version) (scope : Scope) :
    (onController (Controller.refresh scope)).effect e =
      ⟨.ok (e.controller.handler.requests e.controller.registry.capabilities scope),
        { e with controller.handler := e.controller.handler.refreshed scope }, []⟩ := by
  obtain ⟨signals, hrefresh, hnotices⟩ := e.controller.effect_refresh hv scope
  obtain ⟨lines, hlines, hsilent⟩ := e.effect_onController hrefresh
  rw [hlines, hsilent hnotices]

/-- An emulator after its controller took a payload. -/
def received (payload : List UInt8) : Emulator :=
  { e with controller := ((Controller.receive payload).effect e.controller).after }

@[simp] theorem received_device (payload : List UInt8) :
    (e.received payload).device = e.device := rfl

theorem received_of_ok {payload : List UInt8} {event : Event} (hp : Handler.handles payload)
    (hevent : Event.ofPayload e.controller.handler.version payload = .ok event) :
    e.received payload =
      { e with controller := ⟨Handler.informed event e.controller.handler,
        e.controller.registry.after event.operations⟩ } := by
  obtain ⟨signals, heffect, -⟩ := e.controller.effect_receive_of_ok hp hevent
  rw [received, heffect]

/-- A payload is delivered to the controller, whatever becomes of it there. -/
theorem effect_deliver (payload : List UInt8) : ∃ lines,
    (deliver payload).effect e = ⟨.ok (), e.received payload, lines⟩ ∧
      (Signal.noticesOf ((Controller.receive payload).effect e.controller).emitted = [] →
        lines = []) := by
  have hanswer : ∃ handled, ((Controller.receive payload).effect e.controller).result =
      .ok handled := by
    rcases e.controller.receive_cases payload with ⟨-, hresult, -⟩ | ⟨-, -, hresult, -⟩ |
      ⟨-, -, hresult, -⟩ <;> exact ⟨_, hresult⟩
  obtain ⟨handled, hhandled⟩ := hanswer
  obtain ⟨lines, heffect, hsilent⟩ := e.effect_onController
    (m := Controller.receive payload) (Effect.ext (y := ⟨_, _, _⟩) hhandled rfl rfl)
  refine ⟨lines, ?_, hsilent⟩
  cases handled <;> simp [deliver, heffect, received]

/-- What the event of a payload says is done. If there is nothing to do, nothing is printed. -/
theorem effect_deliver_of_ok {payload : List UInt8} {event : Event} (hp : Handler.handles payload)
    (hevent : Event.ofPayload e.controller.handler.version payload = .ok event) : ∃ lines,
    (deliver payload).effect e =
      ⟨.ok (), { e with controller := ⟨Handler.informed event e.controller.handler,
        e.controller.registry.after event.operations⟩ }, lines⟩ ∧
      ((∀ op ∈ event.operations, e.controller.registry.Idle op) → lines = []) := by
  obtain ⟨signals, hreceive, hnotices⟩ := e.controller.effect_receive_of_ok hp hevent
  obtain ⟨lines, hlines, hsilent⟩ := e.effect_deliver payload
  rw [e.received_of_ok hp hevent] at hlines
  refine ⟨lines, hlines, ?_⟩
  intro hidle
  apply hsilent
  rw [hreceive, hnotices, Registry.effect_each_of_idle _ hidle]

theorem answers_deliver (payload : List UInt8) : (deliver payload).Answers := by
  intro e
  obtain ⟨lines, heffect, -⟩ := e.effect_deliver payload
  exact ⟨(), by rw [heffect]⟩

theorem after_deliver (payload : List UInt8) :
    ((deliver payload).run e).after = e.received payload := by
  obtain ⟨lines, heffect, -⟩ := e.effect_deliver payload
  exact (Act.run_of_effect heffect).2.1

theorem deliverAll_eq (payloads : List (List UInt8)) :
    deliverAll payloads = Act.each deliver payloads := by
  induction payloads with
  | nil => rfl
  | cons payload payloads ih => rw [deliverAll, ih, Act.each]

theorem answers_deliverAll (payloads : List (List UInt8)) : (deliverAll payloads).Answers := by
  rw [deliverAll_eq]
  exact Act.Answers.each answers_deliver payloads

/-! ### The device -/

/-- A request is answered by the device, which stays as it is. -/
theorem effect_answer (payload : List UInt8) :
    (onDevice (Device.answer payload)).effect e =
      ⟨(Event.ofPayload e.device.version payload).mapError .undecodable >>= e.device.replies, e,
        []⟩ := by
  rw [onDevice, Act.effect_inside, Device.effect_answer]
  rfl

theorem effect_answer_of_ok {payload : List UInt8} {request : Event}
    (h : Event.ofPayload e.device.version payload = .ok request) :
    (onDevice (Device.answer payload)).effect e = ⟨e.device.replies request, e, []⟩ := by
  rw [effect_answer, h]
  rfl

/-- What the device does by itself fails as it does alone, and then nothing has happened. -/
theorem effect_onDevice_of_error {m : Act Device (List UInt8) β} {fault : Fault}
    (hm : m.effect e.device = ⟨.error fault, e.device, []⟩) :
    (onDevice m).effect e = ⟨.error fault, e, []⟩ := by
  rw [onDevice, Act.effect_inside, hm]
  rfl

/-- What the device does by itself changes its state and has a payload delivered. -/
theorem effect_onDevice_of_ok {m : Act Device (List UInt8) β} {b : β} {d : Device}
    {payload : List UInt8} (hm : m.effect e.device = ⟨.ok b, d, [payload]⟩) : ∃ lines,
    (onDevice m).effect e = ⟨.ok b, received { e with device := d } payload, lines⟩ := by
  obtain ⟨lines, heffect, -⟩ := effect_deliver { e with device := d } payload
  refine ⟨lines, ?_⟩
  rw [onDevice, Act.effect_inside, hm]
  simp [Act.each, heffect]

/-- An event that can be raised and reported is raised, and its report delivered. -/
theorem effect_onDevice_raise (hid : Bytes.Fits e.device.sourceNodeId) (ha : e.device.announces)
    {t : EventType} (ht : t ∈ e.device.supported) {n : Int} (hn : Bytes.Fits n) :
    let d := Device.raised t (UInt8.ofNat n.toNat) e.device
    ∃ lines, (onDevice (Device.raise t n)).effect e =
      ⟨.ok (d.reportBytes (some t)),
        received { e with device := d } (d.reportBytes (some t)), lines⟩ := by
  have heffect := e.device.effect_raise_of_fits hid ht hn
  dsimp only at heffect
  rw [if_pos ha] at heffect
  exact e.effect_onDevice_of_ok heffect

/-- A turn of the lock that can be reported is, and its report delivered. -/
theorem effect_onDevice_turnLock (ha : e.device.announces) {alarmType level : Int}
    (hcovers : LockState.Covers alarmType) (hl : Bytes.Fits level) :
    let d := Device.turned (UInt8.ofNat alarmType.toNat) (UInt8.ofNat level.toNat) e.device
    ∃ lines, (onDevice (Device.turnLock alarmType level)).effect e =
      ⟨.ok (d.reportBytes none), received { e with device := d } (d.reportBytes none), lines⟩ := by
  have heffect := e.device.effect_turnLock_of_fits hcovers hl
  dsimp only at heffect
  rw [if_pos ha] at heffect
  exact e.effect_onDevice_of_ok heffect

/-! ### Exchanges -/

section Exchanges

variable {P : Emulator → Prop}

/-- What survives each payload survives all of them; the device stays as it is. -/
theorem keeps_deliverAll {d : Device}
    (hsaid : ∀ e payload, P e → e.device.Says payload → P (e.received payload))
    {payloads : List (List UInt8)} (h : ∀ payload ∈ payloads, d.Says payload) :
    (deliverAll payloads).Keeps fun e => P e ∧ e.device = d := by
  -- Induction on the payloads. The device stays, so that the later ones are still its own.
  induction payloads with
  | nil => exact Act.Keeps.pure ()
  | cons payload payloads ih =>
    refine Act.Keeps.bind ?_ fun _ => ?_
    · rintro e ⟨he, rfl⟩
      rw [after_deliver]
      exact ⟨hsaid e payload he (h payload List.mem_cons_self), rfl⟩
    · apply ih
      intro p hp
      exact h p (List.mem_cons_of_mem _ hp)

/-- What survives the payloads in which the device speaks of itself survives every exchange. -/
theorem keeps_send (hfits : ∀ e, P e → Bytes.Fits e.device.sourceNodeId)
    (hsaid : ∀ e payload, P e → e.device.Says payload → P (e.received payload))
    (packets : List Packet) : (send packets).Keeps P := by
  induction packets with
  | nil => exact Act.Keeps.pure ()
  | cons packet packets ih =>
    refine Act.Keeps.bind (fun _ he => he) fun _ => ?_
    intro e he
    cases hrequest : Event.ofPayload e.device.version packet.encode with
    | error fault =>
      have hanswer := e.effect_answer packet.encode
      rw [hrequest] at hanswer
      rw [Act.after_bind_of_error (by rw [hanswer]; rfl), hanswer]
      exact he
    | ok request =>
      obtain ⟨payloads, hreplies, hspeaks⟩ := e.device.exists_replies (hfits e he) request
      have hanswer := e.effect_answer_of_ok hrequest
      rw [hreplies] at hanswer
      rw [Act.after_bind_of_ok (by rw [hanswer]), hanswer]
      obtain ⟨_, hdelivered⟩ := answers_deliverAll payloads e
      rw [Act.after_bind_of_ok hdelivered]
      obtain ⟨hkept, -⟩ := keeps_deliverAll hsaid hspeaks e ⟨he, rfl⟩
      exact ih _ hkept

end Exchanges

end MeshAlarm.Emulator
