import MeshAlarm.Proofs.Controller.Repeats
import MeshAlarm.Proofs.Registry.Notices

/-!
# Where the bytes of a report go

Each byte of a report belongs to one value: the type and the level have fixed indices, a type from 17
to 25 stands for a lock state as well, and a longer report adds its source and the parameter of a
known event type. These writes go to different indices, so that none of them sees another. A value
that is registered takes what is written to it, everything else stays as it is, and those who watch
are told of a write exactly if it made a difference.

## Main definitions

* `Report.routes`: the writes that the bytes of a report call for, in order
* `Registry.Changes`: writes that make a difference
* `Controller.Routed`: what becomes of a payload that calls for writes

## Main results

* `Registry.notices_writes`: the notices of writes to different indices
* `Report.exists_decode_writes`: a report has written what its bytes call for
* `Controller.report_writes_and_leaves_the_rest`: what a report does to the values of a node
-/

namespace MeshAlarm

/-! ### Writes to different indices -/

namespace Registry

variable (r : Registry)

/-- A write that makes a difference: its index is registered, with other content. -/
def Changes (w : Int × Value) : Prop :=
  r.isRegistered w.1 ∧ r.content? w.1 ≠ some w.2

instance : DecidablePred r.Changes :=
  fun w => inferInstanceAs (Decidable (r.isRegistered w.1 ∧ r.content? w.1 ≠ some w.2))

theorem notices_write (w : Int × Value) : r.notices [.write w] =
    if r.announcesChanged ∧ r.Changes w then [.changed w.1 (some w.2)] else [] := by
  have hchanges : r.Changes w ↔ (r.find? w.1).isSome ∧ (r.find? w.1).bind (·.content) ≠ some w.2 := by
    rw [isSome_find?]
    rfl
  simp only [hchanges]
  rw [notices_singleton, Operation.write, perform, effect_publish]
  cases r.find? w.1 with
  | none => simp
  | some entry => by_cases h : entry.content = some w.2 <;> simp [h]

/-- A write makes no difference to a write at another index. -/
theorem changes_after_write {w w' : Int × Value} (h : w.1 ≠ w'.1) :
    (r.after [.write w]).Changes w' ↔ r.Changes w' := by
  have hcontent : (r.after [.write w]).content? w'.1 = r.content? w'.1 := by
    rw [after_cons, after_nil, Operation.write, content?_after_publish, if_neg fun hand => h hand.1]
  have hregistered : (r.after [.write w]).isRegistered w'.1 = r.isRegistered w'.1 :=
    r.isRegistered_after_writes [w] w'.1
  rw [Changes, hcontent, hregistered]
  rfl

/-- Of writes to different indices, those are announced that make a difference. -/
theorem notices_writes {ws : List (Int × Value)} (h : (ws.map Prod.fst).Nodup) :
    r.notices (ws.map .write) =
      if r.announcesChanged then (ws.filter r.Changes).map fun w => .changed w.1 (some w.2)
      else [] := by
  -- Induction on the writes. The first one leaves all that the later ones look at.
  induction ws generalizing r with
  | nil => cases r.announcesChanged <;> rfl
  | cons w ws ih =>
    obtain ⟨hw, hrest⟩ := List.nodup_cons.1 h
    have hkept : (r.after [.write w]).announcesChanged = r.announcesChanged := by rw [after_eq]
    have hchanges : ws.filter (r.after [.write w]).Changes = ws.filter r.Changes := by
      refine List.filter_congr fun w' hw' => decide_eq_decide.2 (r.changes_after_write ?_)
      intro heq
      exact hw (heq ▸ List.mem_map_of_mem hw')
    rw [List.map_cons, ← List.singleton_append, notices_append, notices_write, ih _ hrest, hkept,
      hchanges]
    by_cases ha : r.announcesChanged <;> by_cases hc : r.Changes w <;> simp [ha, hc]

end Registry

/-! ### The bytes of a report -/

namespace Report

/-- The lock state that an alarm type from 17 to 25 stands for has a value of its own. -/
def lockRoute (alarmType : UInt8) : List (Int × Value) :=
  if h : 17 ≤ alarmType.toNat ∧ alarmType.toNat ≤ 25 then
    [(0x200, .text (LockState.all.get ⟨alarmType.toNat - 17, by
      simp only [LockState.all, List.length_cons, List.length_nil]
      omega⟩).label)]
  else []

/-- Behind the level, from version 2 on, come the source, the status, the event type and its
parameter. The source has a value, and so has the parameter of each type of the table. -/
def extendedRoutes (version : Int) : List UInt8 → List (Int × Value)
  | source :: _ :: eventType :: parameter :: _ =>
    if 2 ≤ version then
      (2, .number source.toNat) ::
        if eventType.toNat < 14 then [(eventType.toNat + 3, .number parameter.toNat)] else []
    else []
  | _ => []

/-- The writes that the bytes of a report call for, in order. -/
def routes (version : Int) (alarmType level : UInt8) (rest : List UInt8) : List (Int × Value) :=
  [(0, .number alarmType.toNat), (1, .number level.toNat)] ++ lockRoute alarmType
    ++ extendedRoutes version rest

theorem lockRoute_eq (alarmType : UInt8) :
    ((LockState.ofAlarmType? alarmType.toNat).map fun state =>
      (ValueIndex.lockState, Value.text state.label)).toList = lockRoute alarmType := by
  rw [LockState.ofAlarmType?, lockRoute]
  by_cases h : 17 ≤ alarmType.toNat ∧ alarmType.toNat ≤ 25
  · have hcovers : LockState.Covers alarmType.toNat :=
      ⟨Int.ofNat_le.2 h.1, Int.ofNat_le.2 h.2⟩
    have hplace : ((alarmType.toNat : Int) - LockState.firstAlarmType).toNat =
        alarmType.toNat - 17 := by
      simp only [LockState.firstAlarmType]
      omega
    rw [if_pos hcovers, dif_pos h, List.getElem?_eq_getElem hcovers.lt_length_all]
    simp only [hplace]
    rfl
  · have hother : ¬ LockState.Covers alarmType.toNat :=
      fun hcovers => h ⟨Int.ofNat_le.1 hcovers.1, Int.ofNat_le.1 hcovers.2⟩
    rw [if_neg hother, dif_neg h]
    rfl

/-- The types of the table are the numbers below 14, and their values follow in the same order. -/
theorem eventRoute_eq (eventType parameter : UInt8) :
    (match EventType.ofOrdinal? eventType.toNat with
      | some t => [(ValueIndex.ofEventType t, Value.number parameter.toNat)]
      | none => []) =
      if eventType.toNat < 14 then [((eventType.toNat : Int) + 3, .number parameter.toNat)]
      else [] := by
  cases ht : EventType.ofOrdinal? eventType.toNat with
  | none =>
    have hout := EventType.ofOrdinal?_eq_none_iff.1 ht
    simp only [EventType.count] at hout
    rw [if_neg (by omega)]
  | some t =>
    have hordinal := EventType.ofOrdinal?_eq_some_iff.1 ht
    have hlt := t.ordinal_lt
    simp only [EventType.count] at hlt
    rw [if_pos (by omega), ← hordinal]
    rfl

theorem writes_basic (version : Int) (alarmType level : UInt8) {rest : List UInt8}
    (h : version < 2 ∨ rest.length < 4) :
    writes { alarmType := alarmType.toNat, level := level.toNat } =
      routes version alarmType level rest := by
  have hnone : extendedRoutes version rest = [] := by
    unfold extendedRoutes
    split
    · have hv : version < 2 := h.resolve_right (by simp)
      rw [if_neg (Int.not_le.2 hv)]
    · rfl
  rw [routes, hnone, ← lockRoute_eq]
  simp [writes, lockState?, knownEventType?, ValueIndex.alarmType, ValueIndex.level]

theorem writes_extended {version : Int} (h : 2 ≤ version)
    (alarmType level source status eventType parameter : UInt8) (more : List UInt8) :
    writes {
        alarmType := alarmType.toNat
        level := level.toNat
        sourceNodeId := some source.toNat
        status := some status.toNat
        eventType := some eventType.toNat
        eventParameter := some parameter.toNat } =
      routes version alarmType level (source :: status :: eventType :: parameter :: more) := by
  rw [routes, extendedRoutes, if_pos h, ← lockRoute_eq, ← eventRoute_eq]
  simp only [writes, lockState?, knownEventType?, Option.bind_some]
  cases EventType.ofOrdinal? eventType.toNat <;> simp [ValueIndex.alarmType, ValueIndex.level,
    ValueIndex.sourceNodeId]

/-- A report has written what its bytes call for. -/
theorem exists_decode_writes {version : Int} (hv : 1 ≤ version) (alarmType level : UInt8)
    (rest : List UInt8) : ∃ r, decode version (alarmType :: level :: rest) = .ok r ∧
      r.writes = routes version alarmType level rest := by
  by_cases hbasic : version = 1 ∨ rest.length < 4
  · refine ⟨_, decode_basic hbasic alarmType level, writes_basic version alarmType level ?_⟩
    exact hbasic.imp_left fun h₁ => by omega
  · obtain ⟨h₁, hlong⟩ := not_or.1 hbasic
    obtain ⟨source, status, eventType, parameter, more, rfl⟩ := exists_eq_extended hlong
    exact ⟨_, decode_extended h₁ .., writes_extended (by omega) ..⟩

end Report

/-! ### The values of a node -/

namespace Controller

/-- What becomes of a payload that calls for writes. -/
structure Routed (c : Controller) (payload : List UInt8) (ws : List (Int × Value)) : Prop where
  answered : ((receive payload).run c).result = .ok true
  /-- The discovery and the count of dropped payloads stay as they are. -/
  handler : ((receive payload).run c).after.handler = c.handler
  /-- No value is created, renamed or moved. -/
  labels : ((receive payload).run c).after.registry.labels = c.registry.labels
  /-- A registered value holds what was written to it. -/
  written : ∀ w ∈ ws, c.registry.isRegistered w.1 →
    ((receive payload).run c).after.registry.content? w.1 = some w.2
  /-- Every other value is left alone. -/
  others : ∀ i, i ∉ ws.map Prod.fst →
    ((receive payload).run c).after.registry.content? i = c.registry.content? i
  /-- Those who watch are told of the writes that made a difference, in order, and of nothing else. -/
  notices : Signal.noticesOf ((receive payload).run c).trace.emissions =
    if c.registry.announcesChanged then
      (ws.filter c.registry.Changes).map fun w => .changed w.1 (some w.2)
    else []

theorem routed_of_ofPayload {c : Controller} {payload : List UInt8} {r : Report}
    (hp : Handler.handles payload)
    (hreport : Event.ofPayload c.handler.version payload = .ok (.report r)) :
    Routed c payload r.writes := by
  obtain ⟨signals, heffect, hsignals⟩ := c.effect_receive_of_ok hp hreport
  obtain ⟨hresult, hafter, hemitted⟩ := Act.run_of_effect heffect
  refine ⟨hresult, ?handler, ?labels, ?written, ?others, ?notices⟩
  case handler =>
    rw [hafter]
    rfl
  case labels =>
    rw [hafter]
    exact Registry.labels_after_of_not_registering _ fun index name =>
      Registry.register_notMem_writes _ index name
  case written =>
    intro w hw hr
    rw [hafter]
    exact c.registry.content?_after_write_of_mem r.nodup_writes hw hr
  case others =>
    intro i hi
    rw [hafter]
    apply Registry.content?_after_of_not_published
    intro content hpublished
    obtain ⟨v, hv, -⟩ := Registry.publish_mem_writes_iff.1 hpublished
    exact hi (List.mem_map_of_mem hv)
  case notices =>
    rw [hemitted, hsignals]
    exact c.registry.notices_writes r.nodup_writes

/-- **A report writes what its bytes call for, and leaves the rest.** Whatever is registered on a node,
a report of at least three bytes reaches exactly the registered values that its bytes belong to at the
version of the handler. -/
theorem report_writes_and_leaves_the_rest (c : Controller) (hv : 1 ≤ c.handler.version)
    (alarmType level : UInt8) (rest : List UInt8) :
    Routed c (0x05 :: alarmType :: level :: rest)
      (Report.routes c.handler.version alarmType level rest) := by
  obtain ⟨r, hr, hwrites⟩ := Report.exists_decode_writes hv alarmType level rest
  rw [← hwrites]
  apply routed_of_ofPayload rfl
  rw [Event.ofPayload_report, hr]
  rfl

/-- Of five writes, two reach no value and one changes nothing; the value of another type stays. -/
theorem tells_of_level_and_smoke :
    let registry : Registry := { announcesChanged := true, entries := [
      { index := 5, name := "Carbon Monoxide", content := some (.number 3) },
      { index := 4, name := "Smoke", content := some (.text "2") },
      { index := 0, name := "Alarm Type", content := some (.number 18) },
      { index := 1, name := "Alarm Level" }] }
    let c : Controller := ⟨{ version := 2 }, registry⟩
    let payload : List UInt8 := [0x05, 0x12, 0xff, 0x09, 0x00, 0x01, 0x02]
    1 ≤ c.handler.version ∧
      Report.routes 2 0x12 0xff [0x09, 0x00, 0x01, 0x02] = [(0, .number 18), (1, .number 255),
        (0x200, .text "Secured at Keypad - Success"), (2, .number 9), (4, .number 2)] ∧
      Signal.noticesOf ((receive payload).run c).trace.emissions =
        [.changed 1 (some (.number 255)), .changed 4 (some (.number 2))] ∧
      ((receive payload).run c).after.registry.content? 5 = some (.number 3) := by
  intro registry c payload
  have h := report_writes_and_leaves_the_rest c (by decide) 0x12 0xff [0x09, 0x00, 0x01, 0x02]
  refine ⟨by decide, by decide, ?_, ?_⟩
  · rw [h.notices]
    decide
  · rw [h.others 5 (by decide)]
    decide

end Controller

end MeshAlarm
