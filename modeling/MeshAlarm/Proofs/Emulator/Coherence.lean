import MeshAlarm.Proofs.Emulator.Configured

/-!
# The values of a node are those of its device

Device, handler and registry are three separate states. They stay together because every change of
the device is followed by a report that covers it: a value that the change makes stale is written by
the report, or has not been registered. The lock state is the exception. It is written whenever the
alarm type stands for one, and left alone when a later event takes the alarm type away, so that it
stays at the last turn of the lock.

## Main definitions

* `Emulator.Coherent`: no value of the node is stale or foreign
* `Emulator.Faithful`: the same in terms of what the device shows, with what an induction needs

## Main results

* `Emulator.Faithful.reported`: a report restores what a change of the device has broken
* `Emulator.stable_faithful`: whatever an emulator does leaves it faithful
* `Emulator.never_stale_or_foreign`: an emulator is coherent after every run
-/

namespace MeshAlarm.Emulator

variable {c : Configuration} {lock : Option LockState} {e : Emulator}

/-- No value of the node is stale or foreign, if `lock` is the state that the lock was last turned
to. -/
structure Coherent (c : Configuration) (lock : Option LockState) (e : Emulator) : Prop where
  alarmType : e.controller.registry.content? ValueIndex.alarmType = none ∨
    e.controller.registry.content? ValueIndex.alarmType = some (.number e.device.alarmType.toNat)
  level : e.controller.registry.content? ValueIndex.level = none ∨
    e.controller.registry.content? ValueIndex.level = some (.number e.device.level.toNat)
  /-- The alarm type and the level have contents together. -/
  together : e.controller.registry.content? ValueIndex.alarmType = none ↔
    e.controller.registry.content? ValueIndex.level = none
  source : e.controller.registry.content? ValueIndex.sourceNodeId = none ∨
    e.controller.registry.content? ValueIndex.sourceNodeId = some (.number c.nodeId)
  event : ∀ t, e.controller.registry.content? (ValueIndex.ofEventType t) = none ∨
    ∃ parameter, e.device.events.lookup t = some parameter ∧
      e.controller.registry.content? (ValueIndex.ofEventType t) = some (.number parameter.toNat)
  /-- Only event types that the device reports are registered. -/
  supported : ∀ t, e.controller.registry.isRegistered (ValueIndex.ofEventType t) → t ∈ c.supported
  lockState : e.controller.registry.isRegistered ValueIndex.lockState →
    e.controller.registry.content? ValueIndex.lockState = lock.map fun state => .text state.label

/-- The node agrees with what the device shows, and its lock state with the last turn of the lock. -/
structure Faithful (lock : Option LockState) (e : Emulator) : Prop where
  shown : ∀ i, i ≠ ValueIndex.lockState → e.controller.registry.content? i = none ∨
    e.controller.registry.content? i = e.device.shown i
  together : e.controller.registry.content? ValueIndex.alarmType = none ↔
    e.controller.registry.content? ValueIndex.level = none
  /-- Event types are registered only on devices that report them one by one. -/
  supported : ∀ t, e.controller.registry.isRegistered (ValueIndex.ofEventType t) →
    t ∈ e.device.supported ∧ e.device.version ≠ 1
  lockState : e.controller.registry.isRegistered ValueIndex.lockState →
    e.controller.registry.content? ValueIndex.lockState = lock.map fun state => .text state.label
  /-- An alarm type that stands for a lock state comes from the last turn of the lock. -/
  turned : ∀ state, LockState.ofAlarmType? e.device.alarmType.toNat = some state →
    lock = some state

theorem Faithful.coherent (h : e.Faithful lock) (hc : e.Configured c) : e.Coherent c lock where
  alarmType := h.shown _ (by decide)
  level := h.shown _ (by decide)
  together := h.together
  source := by
    rw [← hc.device.sourceNodeId]
    exact h.shown _ ValueIndex.sourceNodeId_ne_lockState
  event t := by
    by_cases hr : e.controller.registry.isRegistered (ValueIndex.ofEventType t)
    · have hlookup : e.device.events.lookup t = some (e.device.parameter t) := by
        rw [Device.lookup_events, if_pos (h.supported t hr).1]
      rcases h.shown _ (ValueIndex.ofEventType_ne_lockState t) with hnone | hshown
      · exact .inl hnone
      · rw [Device.shown_ofEventType] at hshown
        exact .inr ⟨_, hlookup, hshown⟩
    · exact .inl (Registry.content?_eq_none_of_not_registered _ hr)
  supported t ht := (hc.device.supported t).1 (h.supported t ht).1
  lockState := h.lockState

/-! ### Reports -/

/-- A report restores what a change of the device has broken. Whatever the device shows anew has to
be written by the report or not be registered, and the lock may have been turned on the way. -/
theorem Faithful.reported (h : e.Faithful lock) (hid : Bytes.Fits c.nodeId) {d : Device}
    (hc : Configured c { e with device := d }) {selected : Option EventType}
    {lock' : Option LockState} (hsupported : d.supported = e.device.supported)
    (hversion : d.version = e.device.version)
    (hcovered : ∀ i, i ≠ ValueIndex.lockState → e.controller.registry.isRegistered i →
      i ∉ (d.reportFor selected).writes.map Prod.fst → d.shown i = e.device.shown i)
    (hturned : ∀ state, LockState.ofAlarmType? d.alarmType.toNat = some state → lock' = some state)
    (hkept : LockState.ofAlarmType? d.alarmType.toNat = none → lock' = lock) :
    (received { e with device := d } (d.reportBytes selected)).Faithful lock' := by
  have hcontent := content?_received_reportBytes hc hid selected
  have hregistered := isRegistered_received_reportBytes hc hid selected
  refine ⟨?shown, ?together, ?supported, ?lockState, hturned⟩
  case shown =>
    intro i hi
    rw [hcontent]
    by_cases hwritten : e.controller.registry.isRegistered i ∧
        i ∈ (d.reportFor selected).writes.map Prod.fst
    · rw [if_pos hwritten]
      exact .inr rfl
    · rw [if_neg hwritten]
      by_cases hr : e.controller.registry.isRegistered i
      · have hmem : i ∉ (d.reportFor selected).writes.map Prod.fst := by
          intro hmem
          exact hwritten ⟨hr, hmem⟩
        rw [received_device, hcovered i hi hr hmem]
        exact h.shown i hi
      · exact .inl (Registry.content?_eq_none_of_not_registered _ hr)
  case together =>
    have halarm := d.alarmType_mem_written selected
    have hlevel := d.level_mem_written selected
    rw [hcontent, hcontent, if_pos ⟨hc.controller.alarmType, halarm⟩,
      if_pos ⟨hc.controller.level, hlevel⟩]
    exact iff_of_false (by simp) (by simp)
  case supported =>
    intro t ht
    rw [hregistered] at ht
    rw [received_device, hsupported, hversion]
    exact h.supported t ht
  case lockState =>
    intro hr
    rw [hregistered] at hr
    rw [hcontent]
    cases hstate : LockState.ofAlarmType? d.alarmType.toNat with
    | none =>
      have hmem : ValueIndex.lockState ∉ (d.reportFor selected).writes.map Prod.fst := by
        intro hmem
        exact (d.lockState_mem_written_iff selected).1 hmem hstate
      rw [if_neg fun hand => hmem hand.2, hkept hstate]
      exact h.lockState hr
    | some state =>
      have hmem := (d.lockState_mem_written_iff selected).2 (by simp [hstate])
      rw [if_pos ⟨hr, hmem⟩, hturned state hstate, Device.shown_lockState, hstate]

/-! ### Whatever an emulator does -/

/-- A report of the present state changes nothing that is known. -/
theorem Faithful.told (h : e.Faithful lock) (hid : Bytes.Fits c.nodeId) (hc : e.Configured c)
    (selected : Option EventType) :
    (e.received (e.device.reportBytes selected)).Faithful lock :=
  h.reported hid hc rfl rfl (fun _ _ _ _ => rfl) h.turned fun _ => rfl

/-- The event types that the device reports are registered without a content. -/
theorem Faithful.discovered (h : e.Faithful lock) {r : SupportedReport} (hv : e.device.version ≠ 1)
    (hr : ∀ t, t ∈ r.supported ↔ t ∈ e.device.supported) (handler : Handler) :
    Faithful lock { e with controller :=
      ⟨handler, e.controller.registry.after (Event.supported r).operations⟩ } := by
  have hcontent (i : Int) : (e.controller.registry.after (Event.supported r).operations).content? i =
      e.controller.registry.content? i :=
    Registry.content?_after_of_not_published _ fun content => by simp [Event.operations]
  have hregistered (i : Int) :
      (e.controller.registry.after (Event.supported r).operations).isRegistered i ↔
        e.controller.registry.isRegistered i ∨
          (i = ValueIndex.sourceNodeId ∨ ∃ t ∈ r.supported, i = ValueIndex.ofEventType t) := by
    rw [Registry.isRegistered_after, Controller.register_mem_operations_iff]
    simp
  refine ⟨?shown, ?together, ?supported, ?lockState, h.turned⟩ <;> dsimp only
  case shown =>
    intro i hi
    rw [hcontent]
    exact h.shown i hi
  case together =>
    rw [hcontent, hcontent]
    exact h.together
  case supported =>
    intro t ht
    rcases (hregistered _).1 ht with ht | ht | ⟨u, hu, ht⟩
    · exact h.supported t ht
    · exact absurd ht (ValueIndex.ofEventType_ne_sourceNodeId t)
    · rw [ValueIndex.ofEventType_inj.1 ht]
      exact ⟨(hr u).1 hu, hv⟩
  case lockState =>
    intro hl
    rw [hcontent]
    rcases (hregistered _).1 hl with hl | hl | ⟨u, -, hl⟩
    · exact h.lockState hl
    · exact absurd hl.symm ValueIndex.sourceNodeId_ne_lockState
    · exact absurd hl.symm (ValueIndex.ofEventType_ne_lockState u)

theorem Faithful.received (h : e.Faithful lock) (hid : Bytes.Fits c.nodeId) (hc : e.Configured c)
    {payload : List UInt8} (hspeaks : e.device.Says payload) : (e.received payload).Faithful lock := by
  obtain ⟨hp, event, hread, htells⟩ := hspeaks
  have hread' := hread
  rw [hc.device.version, ← hc.controller.version] at hread'
  have hreceived := e.received_of_ok hp hread'
  -- The device speaks of itself in reports of its state and in its supported types only.
  cases event with
  | report r =>
    obtain ⟨selected, rfl⟩ := htells
    have htold := h.told hid hc selected
    rw [received_reportBytes hc hid] at htold
    rw [hreceived]
    exact htold
  | supported r =>
    rw [hreceived]
    exact h.discovered htells.1 htells.2 _
  | get | supportedGet | bare => exact htells.elim

/-- No event type stands for a lock state. -/
theorem ofAlarmType?_byte (t : EventType) : LockState.ofAlarmType? t.byte.toNat = none := by
  cases t <;> rfl

theorem Faithful.raised (h : e.Faithful lock) (hid : Bytes.Fits c.nodeId) (hc : e.Configured c)
    {t : EventType} (ht : t ∈ e.device.supported) (parameter : UInt8) :
    (Emulator.received { e with device := Device.raised t parameter e.device }
      ((Device.raised t parameter e.device).reportBytes (some t))).Faithful lock := by
  refine h.reported hid ⟨hc.device.raised ht parameter, hc.controller⟩ rfl rfl ?_ ?_ fun _ => rfl
  · intro i hi hr hmem
    refine e.device.shown_raised ?_ ?_ hi ?_
    · rintro rfl
      exact hmem (Device.alarmType_mem_written _ _)
    · rintro rfl
      exact hmem (Device.level_mem_written _ _)
    · rintro rfl
      have hversion : (Device.raised t parameter e.device).version ≠ 1 := (h.supported t hr).2
      exact hmem (Device.ofEventType_mem_written _ hversion t)
  · intro state hstate
    have hnone : LockState.ofAlarmType? t.byte.toNat = none := ofAlarmType?_byte t
    exact nomatch hnone.symm.trans hstate

theorem Faithful.turnedTo (h : e.Faithful lock) (hid : Bytes.Fits c.nodeId) (hc : e.Configured c)
    {alarmType : UInt8} {state : LockState}
    (hstate : LockState.ofAlarmType? alarmType.toNat = some state) (level : UInt8) :
    (Emulator.received { e with device := Device.turned alarmType level e.device }
      ((Device.turned alarmType level e.device).reportBytes none)).Faithful (some state) := by
  refine h.reported hid ⟨hc.device.turned alarmType level, hc.controller⟩ rfl rfl ?_ ?_ ?_
  · intro i hi _ hmem
    refine e.device.shown_turned ?_ ?_ hi
    · rintro rfl
      exact hmem (Device.alarmType_mem_written _ _)
    · rintro rfl
      exact hmem (Device.level_mem_written _ _)
  · intro other hother
    exact hstate.symm.trans hother
  · intro hnone
    exact nomatch hnone.symm.trans hstate

theorem stable_faithful (hv : 1 ≤ c.version) (hid : Bytes.Fits c.nodeId) :
    Stable fun lock e => e.Configured c ∧ e.Faithful lock := by
  have hconfigured := stable_configured hv hid
  exact {
    fits := fun lock _ h => hconfigured.fits lock h.1
    announces := fun lock _ h => hconfigured.announces lock h.1
    version := fun lock _ h => hconfigured.version lock h.1
    discovery := fun lock _ stage h => ⟨hconfigured.discovery lock stage h.1,
      h.2.shown, h.2.together, h.2.supported, h.2.lockState, h.2.turned⟩
    received := fun lock _ _ h hspeaks => ⟨h.1.received _, h.2.received hid h.1 hspeaks⟩
    raised := fun lock _ _ parameter h ht =>
      ⟨hconfigured.raised lock parameter h.1 ht, h.2.raised hid h.1 ht parameter⟩
    turned := fun lock _ _ _ level h hstate =>
      ⟨hconfigured.turned lock level h.1 hstate, h.2.turnedTo hid h.1 hstate level⟩ }

theorem faithful_new (c : Configuration) : (new c).Faithful none where
  shown i _ := .inl (content?_new i)
  together := by rw [content?_new, content?_new]
  supported t ht := absurd ht (not_isRegistered_new t)
  lockState _ := content?_new _
  turned state hstate := by cases hstate

/-- **A node never holds a stale or foreign value.** After every run of an emulator, failed calls
included, each value of the node has no content or that of the device, no event type is registered
that the device does not report, and the lock state is that of the last successful turn of the
lock. -/
theorem never_stale_or_foreign (c : Configuration) (hv : 1 ≤ c.version)
    (hid : 1 ≤ c.nodeId ∧ c.nodeId ≤ 232) :
    ∃ e trace, create c = .ok (e, trace) ∧
      ∀ calls : List Call, (e.run calls).Coherent c (e.lastTurn calls) := by
  have hfits : Bytes.Fits c.nodeId := ⟨by omega, by omega⟩
  obtain ⟨trace, hcreate⟩ := exists_create hv
  refine ⟨new c, trace, hcreate, ?_⟩
  intro calls
  have hrun := (stable_faithful hv hfits).run none calls ⟨configured_new c, faithful_new c⟩
  rw [Option.or_none] at hrun
  obtain ⟨hconfigured, hfaithful⟩ := hrun
  exact hfaithful.coherent hconfigured

/-- Neither a later event nor a turn that fails takes the lock value away. -/
theorem lock_value_outlives_smoke :
    let c : Configuration :=
      { version := 2, supported := [.smoke], nodeId := 7, legacyLockState := true }
    (1 ≤ c.version ∧ 1 ≤ c.nodeId ∧ c.nodeId ≤ 232) ∧ ∃ e trace, create c = .ok (e, trace) ∧
      (e.run [.discover, .command "L 18", .raise .smoke 2, .turnLock 99 1]).controller.registry.content?
        ValueIndex.lockState = some (.text "Secured at Keypad - Success") := by
  intro c
  obtain ⟨e, trace, hcreate, h⟩ := never_stale_or_foreign c (by decide) (by decide)
  obtain rfl := eq_new_of_create (by decide) hcreate
  refine ⟨by decide, _, trace, hcreate, ?_⟩
  rw [(h _).lockState (by decide +kernel)]
  decide +kernel

end MeshAlarm.Emulator
