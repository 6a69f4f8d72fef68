import MeshAlarm.Proofs.Device.Runs
import MeshAlarm.Proofs.Request

/-!
# Reports sent unasked are answers in advance

A device writes its report on two ways: unasked, when an event was raised or the lock turned, and as
the answer to a Get. Both start from the present state. So the report that an event or a turn of the
lock sends is the one that a Get right after it would have brought: the Get for the type of the event
at the version of the device, and the bare Get for a turn of the lock, which selects no type at any
version.

## Main definitions

* `Device.Echoed`: events and turns whose report is also the answer to a request right after them

## Main results

* `Device.exists_get_answer`, `Device.result_answer_bare`: the answers to the two Gets
* `Device.unasked_reports_are_answers`: every report that is sent unasked, after every run
-/

namespace MeshAlarm.Device

variable {d : Device}

/-! ### Answers to Gets -/

/-- The Get for a type is answered with the report for it. -/
theorem exists_get_answer (hv : 1 ≤ d.version) (hid : Bytes.Fits d.sourceNodeId) (t : EventType) :
    ∃ get, Request.get d.version (some t) = .ok get ∧
      ((answer get.encode).run d).result = .ok [d.reportBytes (some t)] := by
  rcases eq_or_ne d.version 1 with h₁ | h₁
  · have hget : Request.get d.version (some t) = .ok (Get.encode {}) := by
      rw [h₁]
      rfl
    have hshort : d.reportBytes (some t) = d.reportBytes none := if_pos h₁
    refine ⟨_, hget, ?_⟩
    rw [hshort]
    exact (result_answer_of_ok (Event.ofPayload_get d.version [])).trans (d.replies_get hid {})
  · have hrequest : Event.ofPayload d.version (Request.poll d.version t).encode =
        .ok (.get { eventType := some t, firstEvent := decide (3 ≤ d.version) }) := by
      rw [Event.ofPayload_encode, ← Request.decode_poll h₁]
      rfl
    refine ⟨_, Request.get_of_type hv h₁ t, ?_⟩
    rw [result_answer_of_ok hrequest, d.replies_get hid]

/-- The bare Get is answered with the short report. -/
theorem result_answer_bare (hid : Bytes.Fits d.sourceNodeId) :
    ((answer [0x04]).run d).result = .ok [d.reportBytes none] :=
  (result_answer_of_ok (Event.ofPayload_get d.version [])).trans (d.replies_get hid {})

/-! ### Reports sent unasked -/

/-- An event or a turn of the lock that succeeds exactly if it is possible, and whose report is also
the answer to a request right after it. -/
structure Echoed (possible : Prop) (announces : Bool) (m : Act Device (List UInt8) (List UInt8))
    (request : List UInt8) (d : Device) : Prop where
  succeeds : (∃ report, (m.run d).result = .ok report) ↔ possible
  /-- The report is sent once, to whoever listens. -/
  sent : ∀ report, (m.run d).result = .ok report →
    (m.run d).trace.emissions = if announces then [report] else []
  /-- It is all that the request is answered with. -/
  answered : ∀ report, (m.run d).result = .ok report →
    ((answer request).run (m.run d).after).result = .ok [report]

section Echoed

variable {possible : Prop} {announces : Bool} {m : Act Device (List UInt8) (List UInt8)}
  {request : List UInt8}

theorem echoed_of_ok {d' : Device} {report : List UInt8}
    (h : m.effect d = ⟨.ok report, d', if announces then [report] else []⟩)
    (hanswer : ((answer request).run d').result = .ok [report]) (hpossible : possible) :
    Echoed possible announces m request d := by
  obtain ⟨hresult, hafter, hsent⟩ := Act.run_of_effect h
  refine ⟨iff_of_true ⟨report, hresult⟩ hpossible, ?_, ?_⟩
  · intro other hother
    obtain rfl := Except.ok.inj (hresult.symm.trans hother)
    exact hsent
  · intro other hother
    obtain rfl := Except.ok.inj (hresult.symm.trans hother)
    rw [hafter]
    exact hanswer

theorem echoed_of_error {fault : Fault} (h : (m.run d).result = .error fault)
    (himpossible : ¬ possible) : Echoed possible announces m request d := by
  have hnone (report : List UInt8) : (m.run d).result ≠ .ok report := by
    intro hreport
    rw [h] at hreport
    cases hreport
  refine ⟨iff_of_false ?_ himpossible, ?_, ?_⟩
  · rintro ⟨report, hreport⟩
    exact hnone report hreport
  · intro report hreport
    exact absurd hreport (hnone report)
  · intro report hreport
    exact absurd hreport (hnone report)

end Echoed

theorem exists_get_echoed (hv : 1 ≤ d.version) (hid : Bytes.Fits d.sourceNodeId) (t : EventType)
    (n : Int) : ∃ get, Request.get d.version (some t) = .ok get ∧
      Echoed (t ∈ d.supported ∧ Bytes.Fits n) d.announces (raise t n) get.encode d := by
  -- Raising an event leaves the version and the node id, so that the Get and its answer are those of
  -- the state that is left.
  obtain ⟨get, hget, hanswer⟩ :=
    exists_get_answer (d := raised t (UInt8.ofNat n.toNat) d) hv hid t
  refine ⟨get, hget, ?_⟩
  by_cases h : t ∈ d.supported ∧ Bytes.Fits n
  · exact echoed_of_ok (d.effect_raise_of_fits hid h.1 h.2) hanswer h
  · obtain ⟨fault, heffect, -⟩ := d.effect_raise_of_not h
    exact echoed_of_error (Act.run_of_effect heffect).1 h

theorem echoed_turnLock (hid : Bytes.Fits d.sourceNodeId) (alarmType level : Int) :
    Echoed (LockState.Covers alarmType ∧ Bytes.Fits level) d.announces (turnLock alarmType level)
      [0x04] d := by
  by_cases h : LockState.Covers alarmType ∧ Bytes.Fits level
  · exact echoed_of_ok (d.effect_turnLock_of_fits h.1 h.2) (result_answer_bare hid) h
  · obtain ⟨fault, heffect, -⟩ := d.effect_turnLock_of_not h
    exact echoed_of_error (Act.run_of_effect heffect).1 h

/-- **What a device sends unasked is what it would have answered.** Whatever a device has been called
to do, an event that succeeds sends its report once, and the Get for its type right after it is
answered with that report alone; so does a turn of the lock, with the bare Get. -/
theorem unasked_reports_are_answers {version : Int} (hv : 1 ≤ version) (types : List EventType)
    {sourceNodeId : Int} (hid : Bytes.Fits sourceNodeId) (announces : Bool) (calls : List Call) :
    let d := (create version types sourceNodeId announces).run calls
    (∀ t n, ∃ get, Request.get version (some t) = .ok get ∧
      Echoed (t ∈ types ∧ Bytes.Fits n) announces (raise t n) get.encode d) ∧
    ∀ alarmType level, Echoed (LockState.Covers alarmType ∧ Bytes.Fits level) announces
      (turnLock alarmType level) [0x04] d := by
  intro d
  have hlike : Like (create version types sourceNodeId announces) d := like_run _ calls
  have hid' : Bytes.Fits d.sourceNodeId := hlike.sourceNodeId ▸ hid
  have hversion : d.version = version := hlike.version
  have hannounces : d.announces = announces := hlike.announces
  have htypes (t : EventType) : t ∈ d.supported ↔ t ∈ types := by
    rw [hlike.supported, mem_supported_create]
  refine ⟨?_, ?_⟩
  · intro t n
    rw [← htypes, ← hannounces, ← hversion]
    exact exists_get_echoed (hversion ▸ hv) hid' t n
  · intro alarmType level
    rw [← hannounces]
    exact echoed_turnLock hid' alarmType level

/-- Smoke is reported, and told of again at the Get for smoke; the lock, at the bare Get. -/
theorem echoes_smoke_and_lock :
    ((1 : Int) ≤ 3 ∧ Bytes.Fits 9) ∧
      let d := (create 3 [.smoke] 9).run [.raise .flood 1, .turnLock 18 5]
      let report : List UInt8 := [0x05, 0x01, 0xff, 0x09, 0x00, 0x01, 0x07]
      ((raise .smoke 7).run d).result = .ok report ∧
        ((raise .smoke 7).run d).trace.emissions = [report] ∧
        ((answer [0x04, 0x00, 0x01, 0x01]).run ((raise .smoke 7).run d).after).result = .ok [report] ∧
        ((turnLock 17 3).run d).result = .ok [0x05, 0x11, 0x03] ∧
        ((answer [0x04]).run ((turnLock 17 3).run d).after).result = .ok [[0x05, 0x11, 0x03]] := by
  refine ⟨by decide, ?_⟩
  intro d report
  obtain ⟨hraise, hlock⟩ := @unasked_reports_are_answers 3 (by decide) [.smoke] 9 (by decide) true
    [.raise .flood 1, .turnLock 18 5]
  obtain ⟨get, hget, hechoed⟩ := hraise .smoke 7
  obtain rfl : Request.poll 3 .smoke = get := Except.ok.inj hget
  have hreport : ((raise .smoke 7).run d).result = .ok report := by decide +kernel
  have hturn : ((turnLock 17 3).run d).result = .ok [0x05, 0x11, 0x03] := by decide +kernel
  exact ⟨hreport, hechoed.sent _ hreport, hechoed.answered _ hreport, hturn,
    (hlock 17 3).answered _ hturn⟩

end MeshAlarm.Device
