import MeshAlarm.Proofs.Controller.Repeats
import MeshAlarm.Proofs.Registry.History

/-!
# The values of a node after its first event

A node starts with the basic values, which hold nothing. Of its first event a report fills these, and
a supported report appends the values that it promises, empty. Gets do nothing. A report says more
than the basic values have room for, and all of that is lost.

## Main definitions

* `Handler.basicLabels`, `SupportedReport.labels`: the indices and names of the basic values, and of
  those that a supported report promises
* `Event.basicEntries`, `Event.promisedEntries`, `Event.entries`: the values of a node after its
  first event

## Main results

* `Registry.entries_eq_map_labels`: the entries of a registry are its labels with their contents
* `Registry.content?_after_write`: what a write to one of several indices leaves there
* `Event.entries_after`: the values of a node after its first event
-/

namespace MeshAlarm

/-! ### Labels and contents -/

namespace Registry

variable {r : Registry}

/-- If every index has one entry, the entries are the labels with their contents. -/
theorem entries_eq_map_labels (h : r.indices.Nodup) :
    r.entries = r.labels.map fun l => { index := l.1, name := l.2, content := r.content? l.1 } := by
  rw [labels, List.map_map]
  refine (List.map_id r.entries).symm.trans (List.map_congr_left fun entry hmem => ?_)
  simp [content?, find?_of_mem h hmem]

/-- Of writes to different indices, the one at a registered index is what its value holds. -/
theorem content?_after_write {ws : List (Int × Value)} (h : (ws.map Prod.fst).Nodup) {i : Int}
    (hi : r.isRegistered i) :
    (r.after (ws.map .write)).content? i = (ws.lookup i).or (r.content? i) := by
  cases hlookup : ws.lookup i with
  | some v =>
    obtain ⟨l₁, l₂, hws, -⟩ := List.lookup_eq_some_iff.1 hlookup
    have hmem : (i, v) ∈ ws := by simp [hws]
    exact r.content?_after_write_of_mem h hmem hi
  | none =>
    apply content?_after_of_not_published r
    intro content hpublished
    obtain ⟨v, hv, -⟩ := publish_mem_writes_iff.1 hpublished
    simpa using List.lookup_eq_none_iff.1 hlookup (i, v) hv

/-- Registering different indices in an empty registry gives one empty value for each. -/
theorem entries_after_adds_of_empty (hr : r.entries = []) {ls : List (Int × String)}
    (h : (ls.map Prod.fst).Nodup) :
    (r.after (ls.map .add)).entries =
      ls.map fun l => { index := l.1, name := l.2, content := none } := by
  have hmissing : ls.filter (fun l => !r.isRegistered l.1) = ls :=
    List.filter_eq_self.2 fun l _ => by simp [isRegistered, hr]
  rw [entries_after_adds r h, hr, List.nil_append, missing, hmissing]

end Registry

/-! ### Basic values -/

namespace Handler

/-- The indices and names of the values that every alarm node has. -/
def basicLabels (legacyLockState : Bool) : List (Int × String) :=
  (0, "Alarm Type") :: (1, "Alarm Level") ::
    if legacyLockState then [(0x200, "Lock State")] else []

theorem basics_eq (h : Handler) : h.basics = (basicLabels h.legacyLockState).map .add := by
  unfold basics basicLabels
  cases h.legacyLockState <;> rfl

theorem nodup_basicLabels (legacyLockState : Bool) :
    ((basicLabels legacyLockState).map Prod.fst).Nodup := by
  cases legacyLockState <;> decide

end Handler

/-! ### Promised values -/

namespace SupportedReport

/-- The indices and names of the values that a supported report of some types promises: the source,
and one for each type. -/
def labels (types : List EventType) : List (Int × String) :=
  (2, "SourceNodeId") :: types.map fun t => ((t.ordinal : Int) + 3, t.label)

theorem nodup_labels {types : List EventType} (h : types.Nodup) :
    ((labels types).map Prod.fst).Nodup := by
  rw [labels, List.map_cons, List.map_map, List.nodup_cons]
  refine ⟨?_, h.map ?_⟩
  · intro hmem
    obtain ⟨t, -, ht⟩ := List.mem_map.1 hmem
    simp only [Function.comp_apply] at ht
    omega
  · intro t u htu
    simp only [Function.comp_apply] at htu
    exact EventType.ordinal_inj.1 (by omega)

theorem operations_eq (r : SupportedReport) :
    (Event.supported r).operations = (labels r.supported).map .add := by
  rw [labels, List.map_cons, List.map_map]
  rfl

/-- No promised value is a basic one. -/
theorem nodup_basicLabels_append {types : List EventType} (h : types.Nodup)
    (legacyLockState : Bool) :
    ((Handler.basicLabels legacyLockState ++ labels types).map Prod.fst).Nodup := by
  rw [List.map_append, List.nodup_append']
  refine ⟨Handler.nodup_basicLabels _, nodup_labels h, ?_⟩
  rw [List.disjoint_left]
  intro i hbasic hlabel
  have hrange : i = 0 ∨ i = 1 ∨ i = 0x200 := by
    cases legacyLockState <;> simp [Handler.basicLabels] at hbasic <;> omega
  rw [labels, List.map_cons, List.map_map, List.mem_cons, List.mem_map] at hlabel
  rcases hlabel with hsource | ⟨t, -, ht⟩
  · omega
  · have hlt := t.ordinal_lt
    simp only [Function.comp_apply, EventType.count] at ht hlt
    omega

theorem inOrder_supported_of_decode {data : List UInt8} {r : SupportedReport}
    (h : decode data = .ok r) : EventType.InOrder r.supported := by
  cases data with
  | nil => cases h
  | cons announced rest =>
    obtain rfl := Except.ok.inj h
    show EventType.InOrder (knownTypes _)
    rw [knownTypes_of_pairwise (Bitmap.pairwise_positions _)]
    exact EventType.inOrder_filter_all _

end SupportedReport

/-! ### The first event -/

/-- A report writes a lock state if its alarm type stands for one. -/
theorem Report.lookup_writes (r : Report) :
    r.writes.lookup 0 = some (.number r.alarmType) ∧ r.writes.lookup 1 = some (.number r.level) ∧
      r.writes.lookup 0x200 = r.lockState?.map fun state => .text state.label := by
  refine ⟨rfl, rfl, ?_⟩
  have htype (t : EventType) : (0x200 == ValueIndex.ofEventType t) = false :=
    beq_false_of_ne (ValueIndex.ofEventType_ne_lockState t).symm
  unfold writes
  cases r.lockState? <;> cases r.sourceNodeId <;> cases r.knownEventType? <;>
    cases r.eventParameter <;>
    simp [List.lookup_cons, ValueIndex.alarmType, ValueIndex.level, ValueIndex.lockState,
      ValueIndex.sourceNodeId, htype]

namespace Event

/-- The report that an event is, if it is one. -/
def report? : Event → Option Report
  | report r => some r
  | _ => none

/-- The basic values after an event. -/
def basicEntries (legacyLockState : Bool) (event : Event) : List Entry :=
  { index := 0, name := "Alarm Type", content := event.report?.map fun r => .number r.alarmType } ::
    { index := 1, name := "Alarm Level", content := event.report?.map fun r => .number r.level } ::
      if legacyLockState then
        [{ index := 0x200
           name := "Lock State"
           content := (event.report?.bind Report.lockState?).map fun state => .text state.label }]
      else []

/-- The values that an event promises. -/
def promisedEntries : Event → List Entry
  | supported r =>
    { index := 2, name := "SourceNodeId" } ::
      r.supported.map fun t => { index := (t.ordinal : Int) + 3, name := t.label }
  | _ => []

/-- The values of a node after its first event. -/
def entries (legacyLockState : Bool) (event : Event) : List Entry :=
  event.basicEntries legacyLockState ++ event.promisedEntries

section After

variable {r : Registry} (hr : r.entries = []) (h : Handler)
include hr

theorem entries_after_basics : (r.after h.basics).entries =
    (Handler.basicLabels h.legacyLockState).map fun l =>
      { index := l.1, name := l.2, content := none } := by
  rw [Handler.basics_eq]
  exact Registry.entries_after_adds_of_empty hr (Handler.nodup_basicLabels _)

theorem labels_after_basics :
    (r.after h.basics).labels = Handler.basicLabels h.legacyLockState := by
  rw [Registry.labels, entries_after_basics hr h, List.map_map]
  exact List.map_id _

theorem indices_after_basics :
    (r.after h.basics).indices = (Handler.basicLabels h.legacyLockState).map Prod.fst := by
  rw [Registry.indices, entries_after_basics hr h, List.map_map]
  rfl

theorem content?_after_basics (i : Int) : (r.after h.basics).content? i = none := by
  rw [Registry.content?_after_of_not_published, Registry.content?_eq_none_of_not_registered]
  · simp [Registry.isRegistered, hr]
  · rw [Handler.basics_eq]
    simp [Operation.add]

/-- A report fills the basic values. -/
theorem entries_after_report (report : Report) :
    (r.after (h.basics ++ (Event.report report).operations)).entries =
      (Event.report report).entries h.legacyLockState := by
  have hindices := indices_after_basics hr h
  have hnodup : ((r.after h.basics).after (report.writes.map .write)).indices.Nodup := by
    apply Registry.nodup_indices_after
    rw [hindices]
    exact Handler.nodup_basicLabels _
  have hlabels : ((r.after h.basics).after (report.writes.map .write)).labels =
      Handler.basicLabels h.legacyLockState :=
    (Registry.labels_after_of_not_registering _ fun index name =>
      Registry.register_notMem_writes _ index name).trans (labels_after_basics hr h)
  have hcontent : ∀ l ∈ Handler.basicLabels h.legacyLockState,
      ((r.after h.basics).after (report.writes.map .write)).content? l.1 =
        report.writes.lookup l.1 := by
    intro l hl
    have hregistered : (r.after h.basics).isRegistered l.1 := by
      rw [← Registry.mem_indices, hindices]
      exact List.mem_map_of_mem hl
    rw [Registry.content?_after_write report.nodup_writes hregistered, content?_after_basics hr h,
      Option.or_none]
  obtain ⟨hzero, hone, hlock⟩ := report.lookup_writes
  rw [operations, Registry.after_append, Registry.entries_eq_map_labels hnodup, hlabels,
    List.map_congr_left fun l hl => by rw [hcontent l hl]]
  cases h.legacyLockState <;>
    simp [Handler.basicLabels, entries, basicEntries, promisedEntries, report?, hzero, hone, hlock]

/-- A supported report appends what it promises. -/
theorem entries_after_supported {report : SupportedReport} (hnodup : report.supported.Nodup) :
    (r.after (h.basics ++ (Event.supported report).operations)).entries =
      (Event.supported report).entries h.legacyLockState := by
  rw [Handler.basics_eq, SupportedReport.operations_eq, ← List.map_append,
    Registry.entries_after_adds_of_empty hr
      (SupportedReport.nodup_basicLabels_append hnodup h.legacyLockState)]
  cases h.legacyLockState <;>
    simp [entries, basicEntries, promisedEntries, report?, Handler.basicLabels,
      SupportedReport.labels]

/-- What a node has after its first event, if no type is promised twice. -/
theorem entries_after {event : Event}
    (hnodup : ∀ report, event = .supported report → report.supported.Nodup) :
    (r.after (h.basics ++ event.operations)).entries = event.entries h.legacyLockState := by
  cases event with
  | report report => exact entries_after_report hr h report
  | supported report => exact entries_after_supported hr h (hnodup report rfl)
  | get | supportedGet | bare =>
    show (r.after (h.basics ++ [])).entries = _
    rw [List.append_nil, entries_after_basics hr h]
    cases h.legacyLockState <;> rfl

end After

/-- No type is promised twice by an event that was read. -/
theorem inOrder_supported_of_decode {version : Int} {p : Packet} {report : SupportedReport}
    (h : decode version p = .ok (.supported report)) : EventType.InOrder report.supported := by
  obtain ⟨command, data⟩ := p
  cases command with
  | supportedReport =>
    cases hdata : SupportedReport.decode data with
    | error fault => simp [decode, hdata, Except.map] at h
    | ok read =>
      have heq : read = report := by simpa [decode, hdata, Except.map] using h
      exact heq ▸ SupportedReport.inOrder_supported_of_decode hdata
  | report =>
    cases hdata : Report.decode version data <;> simp [decode, hdata, Except.map] at h
  | get | supportedGet | set => cases h

end Event

namespace Controller

/-- The payload of a packet does to a registry what the event of the packet does. Of Gets neither
does anything. -/
theorem operations_brought_encode {version : Int} {p : Packet} {event : Event}
    (h : Event.decode version p = .ok event) :
    (Handler.brought version p.encode).operations = event.operations := by
  have hpayload : Event.ofPayload version p.encode = .ok event :=
    (Event.ofPayload_encode version p).trans h
  rw [Handler.brought]
  split
  · rw [hpayload]
  · next hhandles =>
    obtain ⟨command, data⟩ := p
    cases command with
    | report | supportedReport => exact absurd rfl hhandles
    | get | supportedGet =>
      obtain rfl := Except.ok.inj h
      rfl
    | set => cases h

end Controller

end MeshAlarm
