import MeshAlarm.Proofs.Device

/-!
# Runs of a device

A device is called in any order: to raise events, to turn its lock, and with the payloads of
requests. Its version, the event types it reports and its node id stay as they are.

A call that fails leaves no trace, with one exception. An extended report names the node id of the
device. If that is no byte, the report cannot be written, and by then the event has been raised.

## Main definitions

* `Device.Call`, `Device.run`: the calls, and a device after calls
* `Device.Like`: two states of one device
* `Device.Torn`: the events that are raised although their report cannot be written

## Main results

* `Device.like_run`: what a run keeps
* `Device.leavesNoTrace_turnLock`, `Device.leavesNoTrace_raise`, `Device.effect_raise_of_torn`: the
  failures in any state
* `Device.failures_leave_no_trace_unless_torn`: the same along every run
-/

namespace MeshAlarm.Device

/-- What a device is called to do. -/
inductive Call
  | raise (t : EventType) (parameter : Int)
  | turnLock (alarmType level : Int)
  | answer (payload : List UInt8)

def Call.act : Call → Act Device (List UInt8) (List (List UInt8))
  | raise t parameter => (fun report => [report]) <$> Device.raise t parameter
  | turnLock alarmType level => (fun report => [report]) <$> Device.turnLock alarmType level
  | answer payload => Device.answer payload

/-- A device after calls, whether they answer or fail. -/
def run (d : Device) (calls : List Call) : Device :=
  Act.afterAll Call.act d calls

variable (d : Device)

/-! ### What stays -/

/-- Two states of one device: only what it raised and turned may differ. -/
structure Like (d d' : Device) : Prop where
  version : d'.version = d.version
  supported : d'.supported = d.supported
  sourceNodeId : d'.sourceNodeId = d.sourceNodeId
  announces : d'.announces = d.announces

theorem Like.refl : Like d d :=
  ⟨rfl, rfl, rfl, rfl⟩

theorem Like.trans {d d' d'' : Device} (h : Like d d') (h' : Like d' d'') : Like d d'' :=
  ⟨h'.version.trans h.version, h'.supported.trans h.supported,
    h'.sourceNodeId.trans h.sourceNodeId, h'.announces.trans h.announces⟩

theorem after_raise_of_mem {t : EventType} (ht : t ∈ d.supported) {n : Int} (hn : Bytes.Fits n) :
    ((raise t n).run d).after = raised t (UInt8.ofNat n.toNat) d := by
  rw [Act.after_run, d.effect_raise_of_mem ht hn]
  dsimp only
  split <;> rfl

theorem like_raise (t : EventType) (n : Int) : Like d ((raise t n).run d).after := by
  by_cases h : t ∈ d.supported ∧ Bytes.Fits n
  · rw [d.after_raise_of_mem h.1 h.2]
    exact ⟨rfl, rfl, rfl, rfl⟩
  · obtain ⟨fault, heffect, -⟩ := d.effect_raise_of_not h
    rw [(Act.run_of_effect heffect).2.1]
    exact Like.refl d

theorem like_turnLock (alarmType level : Int) :
    Like d ((turnLock alarmType level).run d).after := by
  by_cases h : LockState.Covers alarmType ∧ Bytes.Fits level
  · rw [(Act.run_of_effect (d.effect_turnLock_of_fits h.1 h.2)).2.1]
    exact ⟨rfl, rfl, rfl, rfl⟩
  · obtain ⟨fault, heffect, -⟩ := d.effect_turnLock_of_not h
    rw [(Act.run_of_effect heffect).2.1]
    exact Like.refl d

theorem like_answer (payload : List UInt8) : Like d ((answer payload).run d).after := by
  rw [(Act.run_of_effect (d.effect_answer payload)).2.1]
  exact Like.refl d

theorem like_call (call : Call) : Like d (call.act.run d).after := by
  cases call with
  | raise t n =>
    rw [Call.act, Act.after_map]
    exact d.like_raise t n
  | turnLock alarmType level =>
    rw [Call.act, Act.after_map]
    exact d.like_turnLock alarmType level
  | answer payload => exact d.like_answer payload

theorem like_run (calls : List Call) : Like d (d.run calls) := by
  refine Act.afterAll_history (P := fun _ d' => Like d d') (Like.refl d) ?_ calls
  intro past call d' hlike
  exact hlike.trans (d'.like_call call)

/-! ### Failures -/

theorem leavesNoTrace_turnLock (alarmType level : Int) :
    (turnLock alarmType level).LeavesNoTrace d := by
  by_cases h : LockState.Covers alarmType ∧ Bytes.Fits level
  · exact Act.leavesNoTrace_of_ok (d.effect_turnLock_of_fits h.1 h.2)
  · obtain ⟨fault, heffect, -⟩ := d.effect_turnLock_of_not h
    exact Act.leavesNoTrace_of_error heffect

/-- An event that can be raised, on a device that cannot write the report of it. -/
def Torn (t : EventType) (parameter : Int) (d : Device) : Prop :=
  t ∈ d.supported ∧ Bytes.Fits parameter ∧ d.version ≠ 1 ∧ ¬ Bytes.Fits d.sourceNodeId

variable {d}

/-- A torn event fails, and has been raised all the same. -/
theorem effect_raise_of_torn {t : EventType} {n : Int} (h : Torn t n d) :
    (raise t n).effect d = ⟨.error .byteOverflow, raised t (UInt8.ofNat n.toNat) d, []⟩ := by
  obtain ⟨ht, hn, hv, hid⟩ := h
  have hpayload := (raised t (UInt8.ofNat n.toNat) d).payloadOf_reportFor_of_not_fits hv hid t
  rw [d.effect_raise_of_mem ht hn]
  simp only [hpayload]

/-- Of all others, those that can be raised have their report sent. -/
theorem leavesNoTrace_raise {t : EventType} {n : Int} (h : ¬ Torn t n d) :
    (raise t n).LeavesNoTrace d := by
  by_cases hraised : t ∈ d.supported ∧ Bytes.Fits n
  · obtain ⟨ht, hn⟩ := hraised
    have heffect := d.effect_raise_of_mem ht hn
    have hpayload : payloadOf ((raised t (UInt8.ofNat n.toNat) d).reportFor (some t)) =
        .ok ((raised t (UInt8.ofNat n.toNat) d).reportBytes (some t)) := by
      by_cases hv : d.version = 1
      · exact payloadOf_reportFor_of_one (raised _ _ d) hv _
      · refine payloadOf_reportFor (raised _ _ d) ?_ _
        by_contra hid
        exact h ⟨ht, hn, hv, hid⟩
    simp only [hpayload] at heffect
    exact Act.leavesNoTrace_of_ok heffect
  · obtain ⟨fault, heffect, -⟩ := d.effect_raise_of_not hraised
    exact Act.leavesNoTrace_of_error heffect

theorem Like.torn_iff {d d' : Device} (h : Like d d') {t : EventType} {n : Int} :
    Torn t n d' ↔ Torn t n d := by
  rw [Torn, Torn, h.supported, h.version, h.sourceNodeId]

/-- **Failures leave no trace, torn events apart.** Whatever a device has been called to do, a turn of
the lock that fails leaves it as it was and sends nothing, and so does an event that fails before it
is raised. What remains are the torn events: whether an event is torn is settled when the device is
made, and every time it fails, is raised and is not reported. -/
theorem failures_leave_no_trace_unless_torn (version : Int) (supported : List EventType)
    (sourceNodeId : Int) (announces : Bool) (calls : List Call) :
    let fresh := create version supported sourceNodeId announces
    (∀ alarmType level, (turnLock alarmType level).LeavesNoTrace (fresh.run calls)) ∧
      (∀ t n, ¬ Torn t n fresh → (raise t n).LeavesNoTrace (fresh.run calls)) ∧
        ∀ t n, Torn t n fresh → (raise t n).effect (fresh.run calls) =
          ⟨.error .byteOverflow, raised t (UInt8.ofNat n.toNat) (fresh.run calls), []⟩ := by
  intro fresh
  have hlike := fresh.like_run calls
  refine ⟨?_, ?_, ?_⟩
  · intro alarmType level
    exact leavesNoTrace_turnLock _ alarmType level
  · intro t n h
    exact leavesNoTrace_raise fun htorn => h (hlike.torn_iff.1 htorn)
  · intro t n h
    exact effect_raise_of_torn (hlike.torn_iff.2 h)

/-- Node 300 raises smoke and fails to report it. -/
theorem torn_smoke_leaves_a_trace : ¬ (raise .smoke 1).LeavesNoTrace (create 2 [.smoke] 300) := by
  intro h
  have htorn : Torn .smoke 1 (create 2 [.smoke] 300) := by
    exact ⟨by decide, by decide, by decide, by decide⟩
  obtain ⟨hresult, hafter, -⟩ := Act.run_of_effect (effect_raise_of_torn htorn)
  obtain ⟨hsame, -⟩ := h _ hresult
  rw [hafter] at hsame
  exact absurd (congrArg alarmType hsame) (by decide)

end MeshAlarm.Device
