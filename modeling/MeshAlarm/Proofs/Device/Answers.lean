import MeshAlarm.Proofs.Device.Runs

/-!
# A device answers from its history

What a device shows follows from the calls that succeeded: the alarm type and the level from the last
event or turn of the lock, and the parameter of an event type from the last event of that type. Calls
that failed and requests have no part in it. So the answer to every payload can be told from these
calls and from what the device was made with.

## Main definitions

* `Device.lastState`, `Device.lastParameter`: what successful calls come to
* `Device.Recalls`: a device shows what successful calls come to
* `Device.AnswersFrom`: how a device answers a payload after successful calls

## Main results

* `Device.recalls_call`, `Device.recalls_run`: a device recalls its successful calls
* `Device.answersFrom`: a device that recalls calls answers from them
* `Device.answers_from_history`: the answer to every payload, after every run
-/

namespace MeshAlarm.Device

/-! ### Histories -/

/-- The alarm type and the level that a successful call leaves, unless it is a request. -/
def Call.state? : Call → Option (Int × Int)
  | raise t parameter => some (t.ordinal, if parameter = 0 then 0x00 else 0xff)
  | turnLock alarmType level => some (alarmType, level)
  | answer _ => none

/-- The parameter that a successful call leaves for an event type, if it raises it. -/
def Call.parameter? (t : EventType) : Call → Option Int
  | raise u parameter => if u = t then some parameter else none
  | _ => none

/-- The alarm type and the level after successful calls, zero before the first. -/
def lastState (done : List Call) : Int × Int :=
  (done.filterMap Call.state?).getLastD (0, 0)

/-- The parameter of an event type after successful calls, zero before the first. -/
def lastParameter (done : List Call) (t : EventType) : Int :=
  (done.filterMap (Call.parameter? t)).getLastD 0

theorem lastState_concat (done : List Call) (call : Call) :
    lastState (done ++ [call]) = call.state?.getD (lastState done) :=
  Act.getLastD_filterMap_concat ..

theorem lastParameter_concat (done : List Call) (call : Call) (t : EventType) :
    lastParameter (done ++ [call]) t = (call.parameter? t).getD (lastParameter done t) :=
  Act.getLastD_filterMap_concat ..

/-- A device shows what successful calls come to. -/
structure Recalls (done : List Call) (d : Device) : Prop where
  alarmType : (d.alarmType.toNat : Int) = (lastState done).1
  level : (d.level.toNat : Int) = (lastState done).2
  parameter : ∀ t, ((d.parameter t).toNat : Int) = lastParameter done t

variable {d : Device} {done : List Call}

theorem Recalls.raised (h : Recalls done d) (t : EventType) {n : Int} (hn : Bytes.Fits n) :
    Recalls (done ++ [.raise t n]) (Device.raised t (UInt8.ofNat n.toNat) d) where
  alarmType := by
    rw [lastState_concat]
    exact congrArg Nat.cast t.toNat_byte
  level := by
    have hzero : UInt8.ofNat n.toNat = 0 ↔ n = 0 := by
      rw [← UInt8.toNat_inj, ← Int.natCast_inj, Bytes.toNat_ofNat hn]
      rfl
    rw [lastState_concat, Device.raised]
    by_cases h₀ : n = 0 <;> simp [Call.state?, hzero, h₀, idleLevel, activeLevel]
  parameter u := by
    rw [lastParameter_concat]
    by_cases hu : u = t
    · subst hu
      simp only [Call.parameter?, Device.raised, if_pos, Option.getD_some, Bytes.toNat_ofNat hn]
    · simp [Call.parameter?, Device.raised, hu, Ne.symm hu, h.parameter u]

theorem Recalls.turned (h : Recalls done d) {alarmType level : Int}
    (ha : LockState.Covers alarmType) (hl : Bytes.Fits level) :
    Recalls (done ++ [.turnLock alarmType level])
      (Device.turned (UInt8.ofNat alarmType.toNat) (UInt8.ofNat level.toNat) d) where
  alarmType := by
    rw [lastState_concat]
    exact Bytes.toNat_ofNat ha.fits
  level := by
    rw [lastState_concat]
    exact Bytes.toNat_ofNat hl
  parameter t := by
    rw [lastParameter_concat]
    exact h.parameter t

theorem Recalls.answered (h : Recalls done d) (payload : List UInt8) :
    Recalls (done ++ [.answer payload]) d where
  alarmType := by rw [lastState_concat]; exact h.alarmType
  level := by rw [lastState_concat]; exact h.level
  parameter t := by rw [lastParameter_concat]; exact h.parameter t

/-- A call is recalled if it succeeds, and else forgotten. -/
theorem recalls_call (h : Recalls done d) (hid : Bytes.Fits d.sourceNodeId) (call : Call) :
    Recalls (done ++ (Act.answered? (call, (call.act.run d).result)).toList)
      (call.act.run d).after := by
  have hfailed {fault : Fault} (hresult : (call.act.run d).result = .error fault)
      (hafter : (call.act.run d).after = d) :
      Recalls (done ++ (Act.answered? (call, (call.act.run d).result)).toList)
        (call.act.run d).after := by
    rw [hresult, hafter]
    simpa [Act.answered?] using h
  cases call with
  | raise t n =>
    by_cases hraised : t ∈ d.supported ∧ Bytes.Fits n
    · obtain ⟨hresult, hafter, -⟩ :=
        Act.run_of_effect (d.effect_raise_of_fits hid hraised.1 hraised.2)
      rw [Call.act, Act.after_map, Act.result_map_of_ok hresult, hafter]
      exact h.raised t hraised.2
    · obtain ⟨fault, heffect, -⟩ := d.effect_raise_of_not hraised
      obtain ⟨hresult, hafter, -⟩ := Act.run_of_effect heffect
      exact hfailed (Act.result_map_of_error hresult) ((Act.after_map _ _ _).trans hafter)
  | turnLock alarmType level =>
    by_cases hturned : LockState.Covers alarmType ∧ Bytes.Fits level
    · obtain ⟨hresult, hafter, -⟩ :=
        Act.run_of_effect (d.effect_turnLock_of_fits hturned.1 hturned.2)
      rw [Call.act, Act.after_map, Act.result_map_of_ok hresult, hafter]
      exact h.turned hturned.1 hturned.2
    · obtain ⟨fault, heffect, -⟩ := d.effect_turnLock_of_not hturned
      obtain ⟨hresult, hafter, -⟩ := Act.run_of_effect heffect
      exact hfailed (Act.result_map_of_error hresult) ((Act.after_map _ _ _).trans hafter)
  | answer payload =>
    have hafter := (Act.run_of_effect (d.effect_answer payload)).2.1
    cases hresult : ((answer payload).run d).result with
    | error fault => exact hresult ▸ hfailed hresult hafter
    | ok replies =>
      rw [Call.act, hresult, hafter]
      exact h.answered payload

/-- A device recalls the calls of a run that succeeded. -/
theorem recalls_run {fresh : Device} (hid : Bytes.Fits fresh.sourceNodeId)
    (start : Recalls [] fresh) (calls : List Call) :
    Recalls (Act.answered Call.act fresh calls) (fresh.run calls) := by
  -- Induction from the end: the last call acts on the state that all the others have left.
  induction calls using List.reverseRecOn with
  | nil => exact start
  | append_singleton past call ih =>
    have hid' : Bytes.Fits (fresh.run past).sourceNodeId :=
      (fresh.like_run past).sourceNodeId ▸ hid
    rw [Act.answered_concat, run, Act.afterAll_concat]
    exact recalls_call ih hid' call

/-! ### Answers -/

/-- The numbers in the bytes of a report. -/
theorem toNumbers_reportBytes (hid : Bytes.Fits d.sourceNodeId) (selected : Option EventType) :
    Bytes.toNumbers (d.reportBytes selected) =
      match selected with
      | some t =>
        if d.version = 1 then [0x05, (d.alarmType.toNat : Int), d.level.toNat]
        else [0x05, d.alarmType.toNat, d.level.toNat, d.sourceNodeId, 0, t.ordinal,
          (d.parameter t).toNat]
      | none => [0x05, d.alarmType.toNat, d.level.toNat] := by
  cases selected with
  | none => rfl
  | some t =>
    by_cases hv : d.version = 1
    · simp only [reportBytes, if_pos hv]
      rfl
    · simp only [reportBytes, if_neg hv, Bytes.toNumbers, List.map_cons, List.map_nil,
        Bytes.toNat_ofNat hid, EventType.toNat_byte]
      rfl

/-- How a device answers a payload, if it was made with these values and `done` are the calls that
succeeded. The first byte decides. -/
structure AnswersFrom (version sourceNodeId : Int) (types : List EventType) (done : List Call)
    (d : Device) (payload : List UInt8) : Prop where
  /-- The device stays as it is, and sends nothing unasked. -/
  unchanged : ((answer payload).run d).after = d ∧ ((answer payload).run d).trace.emissions = []
  tooShort : payload = [] ∨ Malformed payload →
    ∃ fault, ((answer payload).run d).result = .error fault ∧ fault.kind = .tooShort
  unknownCommand : ∀ b, payload.head? = some b → b ∉ [0x04, 0x05, 0x07, 0x08] →
    ∃ fault, ((answer payload).run d).result = .error fault ∧ fault.kind = .unknownCommand
  /-- From version 2 on, a Get whose third byte is an event type is told of its last event. -/
  extended : ∀ t, payload.head? = some 0x04 → payload[2]? = some t.byte → version ≠ 1 →
    ∃ reply, ((answer payload).run d).result = .ok [reply] ∧ Bytes.toNumbers reply =
      [0x05, (lastState done).1, (lastState done).2, sourceNodeId, 0, t.ordinal,
        lastParameter done t]
  /-- All other Gets are told of the last event or turn of the lock. -/
  short : payload.head? = some 0x04 → version = 1 ∨ (∀ t : EventType, payload[2]? ≠ some t.byte) →
    ∃ reply, ((answer payload).run d).result = .ok [reply] ∧
      Bytes.toNumbers reply = [0x05, (lastState done).1, (lastState done).2]
  /-- In version 1 a Supported Get is not answered. -/
  silent : payload.head? = some 0x07 → version = 1 → ((answer payload).run d).result = .ok []
  /-- In later versions it is answered with the shortest bitmap of the event types. -/
  supported : payload.head? = some 0x07 → version ≠ 1 → ∃ bitmap : List UInt8,
    ((answer payload).run d).result = .ok [0x08 :: UInt8.ofNat bitmap.length :: bitmap] ∧
      (∀ k, k ∈ Bitmap.positions bitmap ↔ ∃ t ∈ types, t.ordinal = k) ∧
        ∀ n, (∀ t ∈ types, t.ordinal < 8 * n) → bitmap.length ≤ n
  /-- Reports and supported reports are not answered. -/
  ignored : payload.head? = some 0x05 ∨ payload.head? = some 0x08 → ¬ Malformed payload →
    ((answer payload).run d).result = .ok []

/-- The answer to a Get, in terms of the calls that succeeded. -/
theorem exists_reply (h : Recalls done d) (hid : Bytes.Fits d.sourceNodeId) (data : List UInt8) :
    ∃ reply, ((answer (0x04 :: data)).run d).result = .ok [reply] ∧
      Bytes.toNumbers reply =
        match (Get.decode d.version data).eventType with
        | some t => [0x05, (lastState done).1, (lastState done).2, d.sourceNodeId, 0, t.ordinal,
            lastParameter done t]
        | none => [0x05, (lastState done).1, (lastState done).2] := by
  refine ⟨d.reportBytes (Get.decode d.version data).eventType, ?_, ?_⟩
  · rw [result_answer_of_ok (Event.ofPayload_get d.version data), d.replies_get hid]
  · rw [toNumbers_reportBytes hid]
    cases hselected : (Get.decode d.version data).eventType with
    | none => rw [← h.alarmType, ← h.level]
    | some t =>
      obtain ⟨hv, -⟩ := Get.eventType_decode_eq_some_iff.1 hselected
      simp only [if_neg hv, h.alarmType, h.level, h.parameter]

/-- What nodes send is not answered by a device. -/
theorem result_answer_of_handles {payload : List UInt8}
    (hhead : payload.head? = some 0x05 ∨ payload.head? = some 0x08) (hwhole : ¬ Malformed payload) :
    ((answer payload).run d).result = .ok [] := by
  rcases Event.ofPayload_of_whole d.version hhead hwhole with ⟨r, hr⟩ | ⟨r, hr⟩
  · exact result_answer_of_ok hr
  · exact result_answer_of_ok hr

theorem answersFrom {types : List EventType} (h : Recalls done d)
    (hid : Bytes.Fits d.sourceNodeId) (htypes : ∀ t, t ∈ d.supported ↔ t ∈ types)
    (payload : List UInt8) : AnswersFrom d.version d.sourceNodeId types done d payload := by
  refine ⟨(Act.run_of_effect (d.effect_answer payload)).2, ?tooShort, ?unknownCommand, ?extended,
    ?short, ?silent, ?supported, ?ignored⟩
  case tooShort =>
    intro hshort
    obtain ⟨layout, length, hfault⟩ := Event.ofPayload_of_short d.version hshort
    exact ⟨_, result_answer_of_error hfault, rfl⟩
  case unknownCommand =>
    intro b hhead hb
    obtain ⟨data, rfl⟩ := List.head?_eq_some_iff.1 hhead
    obtain ⟨fault, hfault, hkind⟩ := Event.ofPayload_of_other d.version hb data
    exact ⟨_, result_answer_of_error hfault, hkind⟩
  case extended =>
    intro t hhead ht hv
    obtain ⟨data, rfl⟩ := List.head?_eq_some_iff.1 hhead
    have hselected : (Get.decode d.version data).eventType = some t :=
      Get.eventType_decode_eq_some_iff.2 ⟨hv, ht⟩
    have hreply := exists_reply h hid data
    rwa [hselected] at hreply
  case short =>
    intro hhead hother
    obtain ⟨data, rfl⟩ := List.head?_eq_some_iff.1 hhead
    have hselected : (Get.decode d.version data).eventType = none := by
      rw [Option.eq_none_iff_forall_ne_some]
      intro t ht
      obtain ⟨hv, hbyte⟩ := Get.eventType_decode_eq_some_iff.1 ht
      rcases hother with hone | hnone
      · exact hv hone
      · exact hnone t hbyte
    have hreply := exists_reply h hid data
    rwa [hselected] at hreply
  case silent =>
    intro hhead hv
    obtain ⟨data, rfl⟩ := List.head?_eq_some_iff.1 hhead
    rw [result_answer_of_ok (Event.ofPayload_supportedGet d.version data), replies, if_pos hv]
  case supported =>
    intro hhead hv
    obtain ⟨data, rfl⟩ := List.head?_eq_some_iff.1 hhead
    obtain ⟨bitmap, hencode, hbits, hleast⟩ := SupportedReport.exists_encode .widest d.supported
    refine ⟨bitmap, ?_, ?_, ?_⟩
    · rw [result_answer_of_ok (Event.ofPayload_supportedGet d.version data),
        replies_supportedGet hv hencode]
      rfl
    · simpa only [htypes] using hbits
    · simpa only [htypes] using hleast
  case ignored => exact result_answer_of_handles

/-- **A device answers from its history.** Whatever a device has been called to do, the answer to
every payload follows from the calls that succeeded and from what the device was made with. -/
theorem answers_from_history (version : Int) (types : List EventType) {sourceNodeId : Int}
    (announces : Bool) (hid : Bytes.Fits sourceNodeId) (calls : List Call) (payload : List UInt8) :
    let fresh := create version types sourceNodeId announces
    AnswersFrom version sourceNodeId types (Act.answered Call.act fresh calls) (fresh.run calls)
      payload := by
  intro fresh
  have hlike : Like fresh (fresh.run calls) := fresh.like_run calls
  have start : Recalls [] fresh := ⟨rfl, rfl, fun _ => rfl⟩
  have htypes (t : EventType) : t ∈ (fresh.run calls).supported ↔ t ∈ types := by
    rw [hlike.supported]
    simp [fresh, create]
  have hanswers := answersFrom (recalls_run hid start calls) (hlike.sourceNodeId ▸ hid) htypes payload
  rwa [hlike.version, hlike.sourceNodeId] at hanswers

/-- The lock is told of as the last turn left it; the smoke, as it was raised before. The event that
the device does not report and the turn that no byte holds have no part in it. -/
theorem recalls_smoke_behind_lock : Bytes.Fits 9 ∧ ∃ reply,
    ((answer [0x04, 0x00, 0x01]).run ((create 2 [.smoke] 9 false).run
      [.raise .smoke 3, .raise .flood 1, .turnLock 17 5, .turnLock 18 256])).result = .ok [reply] ∧
        Bytes.toNumbers reply = [0x05, 17, 5, 9, 0, 1, 3] := by
  have h := @answers_from_history 2 [.smoke] 9 false (by decide)
    [.raise .smoke 3, .raise .flood 1, .turnLock 17 5, .turnLock 18 256] [0x04, 0x00, 0x01]
  exact ⟨by decide, h.extended .smoke rfl rfl (by decide)⟩

end MeshAlarm.Device
