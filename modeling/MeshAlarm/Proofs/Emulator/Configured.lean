import MeshAlarm.Proofs.Controller.Reported
import MeshAlarm.Proofs.Emulator.Runs

/-!
# What an emulator keeps of its configuration

The two sides of an emulator are made from one configuration and never part from it: the versions,
the node id, the reported event types and the answer to Gets stay, and so do the values that every
alarm node has. An event type that the device does not report is never raised. Where a value is
registered for an event type, one is registered for the source.

This survives payloads of any content, not only what the device says.

## Main definitions

* `Emulator.Configured`: the two sides of an emulator fit a configuration
* `Emulator.new`: a new emulator

## Main results

* `Emulator.Configured.received`: payloads of any content leave an emulator configured
* `Emulator.stable_configured`: so does everything that an emulator does
* `Emulator.exists_create`, `Emulator.configured_new`: a new emulator can be made, and is configured
-/

namespace MeshAlarm

open Emulator (Configuration)

/-- A device fits a configuration. -/
structure Device.Configured (c : Configuration) (d : Device) : Prop where
  version : d.version = c.version
  sourceNodeId : d.sourceNodeId = c.nodeId
  supported : ∀ t, t ∈ d.supported ↔ t ∈ c.supported
  announces : d.announces
  /-- Event types that are not reported have not been raised. -/
  unraised : ∀ t, t ∉ d.supported → d.parameter t = 0

/-- A controller fits a configuration. -/
structure Controller.Configured (c : Configuration) (k : Controller) : Prop where
  version : k.handler.version = c.version
  answersGet : k.registry.answersGet = c.answersGet
  alarmType : k.registry.isRegistered ValueIndex.alarmType
  level : k.registry.isRegistered ValueIndex.level
  /-- Event types are registered along with the source. -/
  source : ∀ t, k.registry.isRegistered (ValueIndex.ofEventType t) →
    k.registry.isRegistered ValueIndex.sourceNodeId

/-- The two sides of an emulator fit a configuration. -/
structure Emulator.Configured (c : Configuration) (e : Emulator) : Prop where
  device : e.device.Configured c
  controller : e.controller.Configured c

variable {c : Configuration}

namespace Device.Configured

variable {d : Device}

theorem raised (h : d.Configured c) {t : EventType} (ht : t ∈ d.supported) (parameter : UInt8) :
    (Device.raised t parameter d).Configured c where
  version := h.version
  sourceNodeId := h.sourceNodeId
  supported := h.supported
  announces := h.announces
  unraised u hu := by
    have hne : u ≠ t := by
      rintro rfl
      exact hu ht
    show (if u = t then parameter else d.parameter u) = 0
    rw [if_neg hne]
    exact h.unraised u hu

theorem turned (h : d.Configured c) (alarmType level : UInt8) :
    (Device.turned alarmType level d).Configured c :=
  ⟨h.version, h.sourceNodeId, h.supported, h.announces, h.unraised⟩

end Device.Configured

theorem Controller.Configured.receive {k : Controller} (h : k.Configured c) (payload : List UInt8) :
    ((Controller.receive payload).run k).after.Configured c := by
  have hkept := k.kept_receive payload
  have hregistered := k.isRegistered_receive payload
  refine ⟨hkept.version.trans h.version, hkept.answersGet.trans h.answersGet, ?_, ?_, ?_⟩
  · rw [hregistered]
    exact .inl h.alarmType
  · rw [hregistered]
    exact .inl h.level
  · intro t ht
    rw [hregistered] at ht ⊢
    rcases ht with ht | ⟨r, hr, -⟩
    · exact .inl (h.source t ht)
    · exact .inr ⟨r, hr, .inl rfl⟩

namespace Emulator

theorem Configured.received {e : Emulator} (h : e.Configured c) (payload : List UInt8) :
    (e.received payload).Configured c :=
  ⟨h.device, h.controller.receive payload⟩

theorem Configured.fits {e : Emulator} (hc : e.Configured c) (hid : Bytes.Fits c.nodeId) :
    Bytes.Fits e.device.sourceNodeId :=
  hc.device.sourceNodeId ▸ hid

/-- Everything that an emulator does leaves it configured. -/
theorem stable_configured (hv : 1 ≤ c.version) (hid : Bytes.Fits c.nodeId) :
    Stable fun _ e => e.Configured c where
  fits _ {_} h := h.fits hid
  announces _ {_} h := h.device.announces
  version _ {_} h := h.controller.version ▸ hv
  discovery _ {_} _ h := ⟨h.device, h.controller.version, h.controller.answersGet,
    h.controller.alarmType, h.controller.level, h.controller.source⟩
  received _ {_ _} h _ := h.received _
  raised _ {_ _} parameter h ht :=
    Configured.received (e := ⟨_, _⟩) ⟨h.device.raised ht parameter, h.controller⟩ _
  turned _ {_ _ _} level h _ :=
    Configured.received (e := ⟨_, _⟩) ⟨h.device.turned _ level, h.controller⟩ _

/-- The controller reads a report as the device meant it. -/
theorem Configured.ofPayload_reportBytes {e : Emulator} (hc : e.Configured c)
    (hid : Bytes.Fits c.nodeId) (selected : Option EventType) :
    Event.ofPayload e.controller.handler.version (e.device.reportBytes selected) =
      .ok (.report (e.device.reportFor selected)) := by
  rw [hc.controller.version, ← hc.device.version]
  exact e.device.ofPayload_reportBytes (hc.fits hid) selected

theorem received_reportBytes {e : Emulator} (hc : e.Configured c) (hid : Bytes.Fits c.nodeId)
    (selected : Option EventType) : e.received (e.device.reportBytes selected) =
      { e with controller.registry :=
        e.controller.registry.after ((e.device.reportFor selected).writes.map .write) } :=
  e.received_of_ok (e.device.handles_reportBytes selected) (hc.ofPayload_reportBytes hid selected)

theorem isRegistered_received_reportBytes {e : Emulator} (hc : e.Configured c)
    (hid : Bytes.Fits c.nodeId) (selected : Option EventType) (i : Int) :
    (e.received (e.device.reportBytes selected)).controller.registry.isRegistered i =
      e.controller.registry.isRegistered i := by
  rw [received_reportBytes hc hid]
  exact Registry.isRegistered_after_writes _ _ i

/-- A report leaves what the device shows wherever it reaches a value. -/
theorem content?_received_reportBytes {e : Emulator} (hc : e.Configured c)
    (hid : Bytes.Fits c.nodeId) (selected : Option EventType) (i : Int) :
    (e.received (e.device.reportBytes selected)).controller.registry.content? i =
      if e.controller.registry.isRegistered i ∧
          i ∈ (e.device.reportFor selected).writes.map Prod.fst then
        e.device.shown i
      else e.controller.registry.content? i := by
  rw [received_reportBytes hc hid]
  exact Registry.content?_after_writes _ (fun _ hw => e.device.shown_of_mem_writes hw) i

/-! ### New emulators -/

def newDevice (c : Configuration) : Device :=
  Device.create c.version c.supported c.nodeId

def newHandler (c : Configuration) : Handler :=
  { nodeId := c.nodeId, version := c.version, legacyLockState := c.legacyLockState }

/-- The registry of a new emulator, before the values that every alarm node has. -/
def newRegistry (c : Configuration) : Registry :=
  { nodeId := c.nodeId, answersGet := c.answersGet, announcesAdded := true, announcesChanged := true }

/-- A new emulator. -/
def new (c : Configuration) : Emulator :=
  ⟨newDevice c, newHandler c, (newRegistry c).after (newHandler c).basics⟩

/-- Emulators of the versions that exist can be made. -/
theorem exists_create (hv : 1 ≤ c.version) : ∃ trace, create c = .ok (new c, trace) := by
  let e : Emulator := ⟨newDevice c, newHandler c, newRegistry c⟩
  have hunprepared : unprepared c = .ok e := by
    rw [unprepared, Handler.create, if_neg (by omega)]
    rfl
  obtain ⟨signals, heffect, -⟩ := e.controller.effect_registerBasics
  obtain ⟨lines, hlines, -⟩ := e.effect_onController heffect
  have hnew : ((onController Controller.registerBasics).run e).after = new c :=
    (Act.run_of_effect hlines).2.1
  refine ⟨((onController Controller.registerBasics).run e).trace, ?_⟩
  rw [create, hunprepared, ← hnew]
  rfl

theorem eq_new_of_create (hv : 1 ≤ c.version) {e : Emulator} {trace : Trace String}
    (h : create c = .ok (e, trace)) : e = new c := by
  obtain ⟨trace', hnew⟩ := exists_create hv
  rw [hnew] at h
  exact (Prod.mk.inj (Except.ok.inj h)).1.symm

theorem isRegistered_new (i : Int) : (new c).controller.registry.isRegistered i ↔
    i = ValueIndex.alarmType ∨ i = ValueIndex.level ∨ c.legacyLockState ∧ i = ValueIndex.lockState := by
  show ((newRegistry c).after (newHandler c).basics).isRegistered i ↔ _
  rw [Registry.isRegistered_after, Controller.register_mem_basics_iff]
  exact or_iff_right (by simp [newRegistry, Registry.isRegistered])

theorem not_isRegistered_new (t : EventType) :
    ¬ (new c).controller.registry.isRegistered (ValueIndex.ofEventType t) := by
  rw [isRegistered_new]
  rintro (h | h | ⟨-, h⟩)
  · exact ValueIndex.ofEventType_ne_alarmType t h
  · exact ValueIndex.ofEventType_ne_level t h
  · exact ValueIndex.ofEventType_ne_lockState t h

theorem content?_new (i : Int) : (new c).controller.registry.content? i = none := by
  have hnone (content : Option Value) : .publish i content ∉ (newHandler c).basics := by
    intro h
    unfold Handler.basics at h
    split at h <;> simp at h
  exact Registry.content?_after_of_not_published (newRegistry c) hnone

theorem configured_new (c : Configuration) : (new c).Configured c where
  device := {
    version := rfl
    sourceNodeId := rfl
    supported := fun _ => Device.mem_supported_create
    announces := rfl
    unraised := fun _ _ => rfl }
  controller := {
    version := rfl
    answersGet := Registry.answersGet_after _ _
    alarmType := isRegistered_new _ |>.2 (.inl rfl)
    level := isRegistered_new _ |>.2 (.inr (.inl rfl))
    source := fun t ht => absurd ht (not_isRegistered_new t) }

end Emulator

end MeshAlarm
