import MeshAlarm.Proofs.Emulator.Polling

/-!
# The shell answers every line

A device answers whatever the handler requests of it, so that the exchanges of an emulator never
fail. What can fail is a command whose values are refused. All of these are looked at before anything
is done, and the faults blame a value, so that the shell reports them and goes on.

## Main definitions

* `Shell.Settles`: actions that have the shell go on, or are refused
* `Shell.Responds`: what the shell makes of a line

## Main results

* `Emulator.effect_send_of_requests`: requests are answered
* `Emulator.discover_answers`, `Emulator.poll_answers`: the exchanges answer
* `Shell.settles_execute`: every command but the quit settles
* `Shell.responds_to_every_line`: the shell answers every line, after every run
-/

namespace MeshAlarm

variable {c : Emulator.Configuration} {e : Emulator}

namespace Emulator

/-! ### Exchanges -/

/-- Payloads from the device reach the controller only. -/
theorem device_deliverAll (payloads : List (List UInt8)) :
    ((deliverAll payloads).run e).after.device = e.device := by
  have hkeeps : (deliverAll payloads).Keeps fun e' => e'.device = e.device := by
    rw [deliverAll_eq]
    apply Act.Keeps.each
    intro payload e' hdevice
    rwa [after_deliver, received_device]
  exact hkeeps e rfl

/-- The device answers whatever a handler requests. -/
theorem effect_answer_of_request (hid : Bytes.Fits e.device.sourceNodeId) {p : Packet}
    (hp : p.command = .get ∨ p.command = .supportedGet) : ∃ payloads,
    (onDevice (Device.answer p.encode)).effect e = ⟨.ok payloads, e, []⟩ := by
  have hrequest : ∃ request, Event.ofPayload e.device.version p.encode = .ok request := by
    rw [Event.ofPayload_encode, Event.decode]
    rcases hp with hget | hsupported
    · rw [hget]
      exact ⟨_, rfl⟩
    · rw [hsupported]
      exact ⟨_, rfl⟩
  obtain ⟨request, hrequest⟩ := hrequest
  obtain ⟨payloads, hreplies, -⟩ := e.device.exists_replies hid request
  refine ⟨payloads, ?_⟩
  rw [e.effect_answer_of_ok hrequest, hreplies]

/-- Requests are answered, whatever becomes of the answers. -/
theorem effect_send_of_requests (hid : Bytes.Fits e.device.sourceNodeId) {packets : List Packet}
    (h : ∀ p ∈ packets, p.command = .get ∨ p.command = .supportedGet) :
    ∃ e' lines, (send packets).effect e = ⟨.ok (), e', lines⟩ := by
  -- Induction on the packets. The device stays as it is, so that it answers the later ones as well.
  induction packets generalizing e with
  | nil => exact ⟨e, [], rfl⟩
  | cons p packets ih =>
    obtain ⟨payloads, hanswer⟩ := effect_answer_of_request hid (h p List.mem_cons_self)
    have hdelivered := (answers_deliverAll payloads).effect e
    have hdevice : ((deliverAll payloads).effect e).after.device = e.device :=
      device_deliverAll payloads
    obtain ⟨e', lines, hrest⟩ := ih (hdevice.symm ▸ hid) fun q hq => h q (List.mem_cons_of_mem _ hq)
    refine ⟨e', ((deliverAll payloads).effect e).emitted ++ lines, ?_⟩
    rw [send]
    simp only [Act.effect_bind, Act.effect_log, Effect.andThen_ok, Effect.behind_nil, hanswer]
    rw [hdelivered, Effect.andThen_ok, hrest, Effect.behind_mk]

/-- Whatever is requested for a scope is answered. -/
theorem effect_send_refresh (hv : 1 ≤ e.controller.handler.version)
    (hid : Bytes.Fits e.device.sourceNodeId) (scope : Scope) :
    ∃ e' lines, (onController (Controller.refresh scope) >>= send).effect e =
      ⟨.ok (), e', lines⟩ := by
  have hpackets : ∀ p ∈ e.controller.handler.requests e.controller.registry.capabilities scope,
      p.command = .get ∨ p.command = .supportedGet :=
    fun _ hp => e.controller.handler.command_of_mem_requests hp
  obtain ⟨e', lines, hsend⟩ := effect_send_of_requests
    (e := { e with controller.handler := e.controller.handler.refreshed scope }) hid hpackets
  refine ⟨e', lines, ?_⟩
  rw [Act.effect_bind, e.effect_refresh hv, Effect.andThen_ok, hsend, Effect.behind_nil]

section Configured

variable (hc : e.Configured c) (hv : 1 ≤ c.version) (hid : Bytes.Fits c.nodeId)

include hc hv hid

theorem discover_answers : ∃ e' lines, discover.effect e = ⟨.ok (), e', lines⟩ := by
  have hc' : Configured c { e with controller.handler.discovery := .unknown } :=
    (stable_configured hv hid).discovery none .unknown hc
  obtain ⟨e', lines, hsend⟩ :=
    effect_send_refresh (hc'.controller.version ▸ hv) (hc'.fits hid) { static := true }
  refine ⟨e', lines, ?_⟩
  rw [discover, Act.effect_bind, Act.effect_update, Effect.andThen_ok, Effect.behind_nil]
  exact hsend

theorem poll_answers : ∃ e' lines, poll.effect e = ⟨.ok (), e', lines⟩ :=
  effect_send_refresh (hc.controller.version ▸ hv) (hc.fits hid) { dynamic := true }

end Configured

end Emulator

namespace Shell

/-! ### Arguments -/

theorem kind_of_ofName_eq_error {name : String} {fault : Fault}
    (h : EventType.ofName name = .error fault) : fault.kind = .badValue := by
  unfold EventType.ofName at h
  split at h
  · cases h
  · obtain rfl := Except.error.inj h
    rfl

theorem kind_of_integer_eq_error {word : String} {fault : Fault}
    (h : integer word = .error fault) : fault.kind = .badValue := by
  unfold integer at h
  split at h
  · cases h
  · obtain rfl := Except.error.inj h
    rfl

theorem kind_of_lockLevel_eq_error {level : Option String} {fault : Fault}
    (h : lockLevel level = .error fault) : fault.kind = .badValue := by
  cases level with
  | none => cases h
  | some word => exact kind_of_integer_eq_error h

/-! ### Commands -/

/-- The first word alone decides on the quit. -/
theorem Command.ofWords_eq_quit_iff {words : List String} :
    Command.ofWords words = .quit ↔ words.head? = some "Q" := by
  constructor
  · intro h
    unfold Command.ofWords at h
    split at h
    case h_6 => rfl
    all_goals cases h
  · intro h
    obtain ⟨rest, rfl⟩ := List.head?_eq_some_iff.1 h
    rfl

/-- An action has the shell go on, or it blames a value and nothing has happened. -/
def Settles (m : Act Emulator String Bool) (e : Emulator) : Prop :=
  (∃ e' lines, m.effect e = ⟨.ok true, e', lines⟩) ∨
    ∃ fault, m.effect e = ⟨.error fault, e, []⟩ ∧ fault.kind = .badValue

theorem settles_of_ok {α : Type} {m : Act Emulator String α} {a : α} {e' : Emulator}
    {lines : List String} (h : m.effect e = ⟨.ok a, e', lines⟩) :
    Settles (m >>= fun _ => pure true) e :=
  .inl ⟨e', lines, by simp [h]⟩

theorem settles_of_error {α : Type} {m : Act Emulator String α} {fault : Fault}
    (h : m.effect e = ⟨.error fault, e, []⟩) (hkind : fault.kind = .badValue) :
    Settles (m >>= fun _ => pure true) e :=
  .inr ⟨fault, by simp [h], hkind⟩

/-- Reading an argument does nothing, so that it may be refused. -/
theorem Settles.reading {α : Type} {argument : Except Fault α} {next : α → Act Emulator String Bool}
    (hblames : ∀ fault, argument = .error fault → fault.kind = .badValue)
    (hnext : ∀ a, Settles (next a) e) : Settles (Act.ofExcept argument >>= next) e := by
  cases argument with
  | error fault => exact .inr ⟨fault, by simp, hblames fault rfl⟩
  | ok a =>
    rcases hnext a with ⟨e', lines, heffect⟩ | ⟨fault, heffect, hkind⟩
    · exact .inl ⟨e', lines, by simp [heffect]⟩
    · exact .inr ⟨fault, by simp [heffect], hkind⟩

section Configured

variable (hc : e.Configured c) (hid : Bytes.Fits c.nodeId)

include hc hid

/-- An event is raised and reported, or refused. -/
theorem settles_raise (t : EventType) (n : Int) :
    Settles (Emulator.onDevice (Device.raise t n) >>= fun _ => pure true) e := by
  by_cases h : t ∈ e.device.supported ∧ Bytes.Fits n
  · obtain ⟨lines, heffect⟩ := e.effect_onDevice_raise (hc.fits hid) hc.device.announces h.1 h.2
    exact settles_of_ok heffect
  · obtain ⟨fault, heffect, hkind⟩ := e.device.effect_raise_of_not h
    exact settles_of_error (e.effect_onDevice_of_error heffect) hkind

omit hid in
/-- The lock turns and is reported, or the turn is refused. -/
theorem settles_turnLock (alarmType level : Int) :
    Settles (Emulator.onDevice (Device.turnLock alarmType level) >>= fun _ => pure true) e := by
  by_cases h : LockState.Covers alarmType ∧ Bytes.Fits level
  · obtain ⟨lines, heffect⟩ := e.effect_onDevice_turnLock hc.device.announces h.1 h.2
    exact settles_of_ok heffect
  · obtain ⟨fault, heffect, hkind⟩ := e.device.effect_turnLock_of_not h
    exact settles_of_error (e.effect_onDevice_of_error heffect) hkind

variable (hv : 1 ≤ c.version)

include hv

/-- Every command but the quit settles: it reads its arguments before it does anything. -/
theorem settles_execute {command : Command} (h : command ≠ .quit) :
    Settles (execute command) e := by
  cases command with
  | discover =>
    obtain ⟨e', lines, heffect⟩ := Emulator.discover_answers hc hv hid
    exact settles_of_ok heffect
  | poll =>
    obtain ⟨e', lines, heffect⟩ := Emulator.poll_answers hc hv hid
    exact settles_of_ok heffect
  | trigger eventType parameter =>
    apply Settles.reading fun _ => kind_of_ofName_eq_error
    intro t
    apply Settles.reading fun _ => kind_of_integer_eq_error
    intro n
    exact settles_raise hc hid t n
  | lock alarmType level =>
    apply Settles.reading fun _ => kind_of_lockLevel_eq_error
    intro l
    apply Settles.reading fun _ => kind_of_integer_eq_error
    intro a
    exact settles_turnLock hc a l
  | values => exact settles_of_ok (e.effect_printAll e.controller.registry.rows)
  | quit => exact absurd rfl h
  | help => exact settles_of_ok (e.effect_printAll helpLines)

end Configured

/-! ### Lines -/

/-- What the shell makes of a line. -/
structure Responds (e : Emulator) (line : String) : Prop where
  /-- The shell goes on, unless the first word is the quit. -/
  answered : ((respond line).run e).result = .ok (decide ((wordsOf line).head? ≠ some "Q"))
  /-- A command that fails is reported, and leaves everything as it was. -/
  refused : ∀ fault, ((execute (.ofLine line)).run e).result = .error fault →
    ((respond line).run e).after = e ∧ ((respond line).run e).trace.emissions =
      [s!"Got command {line}" ++ "\n", s!"Error: {fault.message}" ++ "\n"]

theorem responds (hc : e.Configured c) (hv : 1 ≤ c.version) (hid : Bytes.Fits c.nodeId)
    (line : String) : Responds e line := by
  have hquit : Command.ofLine line = .quit ↔ (wordsOf line).head? = some "Q" :=
    Command.ofWords_eq_quit_iff
  by_cases hends : Command.ofLine line = .quit
  · have hrespond : (respond line).effect e =
        ⟨.ok false, e, [s!"Got command {line}" ++ "\n"]⟩ := by
      simp [respond, hends, execute]
    refine ⟨?_, ?_⟩
    · rw [(Act.run_of_effect hrespond).1, decide_eq_false (not_not_intro (hquit.1 hends))]
    · intro fault hfault
      rw [hends] at hfault
      cases hfault
  · have hgoesOn : decide ((wordsOf line).head? ≠ some "Q") = true :=
      decide_eq_true fun hhead => hends (hquit.2 hhead)
    rcases settles_execute hc hid hv hends with ⟨e', lines, heffect⟩ | ⟨fault, heffect, hkind⟩
    · have hrespond : (respond line).effect e =
          ⟨.ok true, e', (s!"Got command {line}" ++ "\n") :: lines⟩ := by
        simp [respond, heffect]
      refine ⟨?_, ?_⟩
      · rw [(Act.run_of_effect hrespond).1, hgoesOn]
      · intro fault hfault
        rw [(Act.run_of_effect heffect).1] at hfault
        cases hfault
    · have hblames : fault.kind.isBadValue := by
        rw [hkind]
        rfl
      have hrespond : (respond line).effect e =
          ⟨.ok true, e, [s!"Got command {line}" ++ "\n", s!"Error: {fault.message}" ++ "\n"]⟩ := by
        simp [respond, heffect, hblames]
      refine ⟨?_, ?_⟩
      · rw [(Act.run_of_effect hrespond).1, hgoesOn]
      · intro fault' hfault'
        rw [(Act.run_of_effect heffect).1] at hfault'
        obtain rfl := Except.error.inj hfault'
        exact (Act.run_of_effect hrespond).2

/-- **The shell answers every line.** Whatever was called and whatever payloads came from elsewhere,
the shell answers, goes on until the first word is the quit, and a command that fails leaves nothing
behind but an error line. -/
theorem responds_to_every_line (c : Emulator.Configuration) (hv : 1 ≤ c.version)
    (hid : 1 ≤ c.nodeId ∧ c.nodeId ≤ 232) :
    ∃ e trace, Emulator.create c = .ok (e, trace) ∧
      ∀ (steps : List Emulator.Step) (line : String), Responds (e.disturbed steps) line := by
  have hfits : Bytes.Fits c.nodeId := ⟨by omega, by omega⟩
  obtain ⟨trace, hcreate⟩ := Emulator.exists_create hv
  refine ⟨Emulator.new c, trace, hcreate, ?_⟩
  intro steps line
  exact responds ((Emulator.configured_new c).disturbed hv hfits steps) hv hfits line

/-- A parameter that no byte holds is refused, wherever blanks and small letters stand. -/
theorem refuses_smoke_300 :
    let c : Emulator.Configuration := { version := 2, supported := [.smoke], nodeId := 7 }
    let steps : List Emulator.Step := [.call .discover, .deliver [0x05, 0x09]]
    (1 ≤ c.version ∧ 1 ≤ c.nodeId ∧ c.nodeId ≤ 232) ∧
      ∃ e trace, Emulator.create c = .ok (e, trace) ∧
        ((respond " t smoke 300").run (e.disturbed steps)).result = .ok true ∧
          ((respond " t smoke 300").run (e.disturbed steps)).after = e.disturbed steps ∧
            ((respond "q t").run (e.disturbed steps)).result = .ok false := by
  intro c steps
  obtain ⟨e, trace, hcreate, h⟩ := responds_to_every_line c (by decide) (by decide)
  obtain rfl := Emulator.eq_new_of_create (by decide) hcreate
  have hrefused : ((execute (.ofLine " t smoke 300")).run ((Emulator.new c).disturbed steps)).result =
      .error (.outsideByte .eventParameter 300) := by
    decide +kernel
  refine ⟨by decide, _, trace, hcreate, ?_, ?_, ?_⟩
  · rw [(h steps " t smoke 300").answered]
    decide +kernel
  · exact ((h steps " t smoke 300").refused _ hrefused).1
  · rw [(h steps "q t").answered]
    decide +kernel

end Shell

end MeshAlarm
