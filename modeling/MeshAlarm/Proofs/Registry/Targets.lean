import MeshAlarm.Proofs.Registry.History
import MeshAlarm.Proofs.TypeOrder

/-!
# The targets of a registry

The targets of a registry are the event types among its indices, each with its index, ascending. They
can be found from either side: type by type in the order of the table, as a registry finds them, or
by sorting the indices and looking up the type that each belongs to.

Which indices are registered decides about the targets. Neither the order of the registrations nor
the names nor any content can be seen in them.

## Main definitions

* `Registry.Ascending`: targets that ascend by their indices
* `Registry.targetsByIndex`: the targets, found by way of the sorted indices
* `Registry.ListsTypes`: the targets of a history

## Main results

* `Registry.Ascending.ext`: ascending targets are determined by their members
* `Registry.targets_eq_targetsByIndex`: both ways lead to the same targets
* `Registry.targets_congr`: the targets depend on which indices are registered
* `Registry.types_of_registered_indices`: the targets after every history
-/

namespace MeshAlarm

theorem ValueIndex.eventType?_eq_some_iff {i : Int} {t : EventType} :
    eventType? i = some t ↔ ofEventType t = i := by
  rw [eventType?, EventType.ofOrdinal?_eq_some_iff, ofEventType, ofOrdinal]
  omega

namespace Registry

/-! ### Targets in ascending order -/

/-- Targets that ascend by their indices. -/
def Ascending (targets : List (Int × EventType)) : Prop :=
  targets.Pairwise fun a b => a.1 < b.1

/-- Ascending targets are determined by their members. -/
theorem Ascending.ext {targets others : List (Int × EventType)} (h : Ascending targets)
    (h' : Ascending others) (hmem : ∀ i t, (i, t) ∈ targets ↔ (i, t) ∈ others) :
    targets = others := by
  have : Std.Irrefl fun a b : Int × EventType => a.1 < b.1 := ⟨fun _ => lt_irrefl _⟩
  have : Std.Antisymm fun a b : Int × EventType => a.1 < b.1 :=
    ⟨fun _ _ hlt hgt => absurd hgt (lt_asymm hlt)⟩
  exact List.Pairwise.eq_of_mem_iff h h' fun ⟨i, t⟩ => hmem i t

section Targets

variable (r : Registry)

theorem mem_targets {i : Int} {t : EventType} :
    (i, t) ∈ r.targets ↔ r.isRegistered i ∧ ValueIndex.ofEventType t = i := by
  rw [targets_eq, List.mem_map]
  constructor
  · rintro ⟨u, hu, h⟩
    obtain ⟨rfl, rfl⟩ := Prod.mk.inj h
    exact ⟨r.mem_types.1 hu, rfl⟩
  · rintro ⟨hr, rfl⟩
    exact ⟨t, r.mem_types.2 hr, rfl⟩

/-- The indices of the event types ascend as the types do. -/
theorem ascending_targets : Ascending r.targets := by
  rw [Ascending, targets_eq, List.pairwise_map]
  refine r.inOrder_types.imp ?_
  intro t u hlt
  simp only [ValueIndex.ofEventType, ValueIndex.ofOrdinal]
  omega

/-! ### Targets by way of the indices -/

/-- The targets, found by sorting the indices and looking up the type of each. -/
def targetsByIndex : List (Int × EventType) :=
  (r.indices.mergeSort (· ≤ ·)).filterMap fun i =>
    (ValueIndex.eventType? i).map fun t => (i, t)

theorem mem_targetsByIndex {i : Int} {t : EventType} :
    (i, t) ∈ r.targetsByIndex ↔ r.isRegistered i ∧ ValueIndex.ofEventType t = i := by
  simp only [targetsByIndex, List.mem_filterMap, List.mem_mergeSort, mem_indices,
    Option.map_eq_some_iff, ValueIndex.eventType?_eq_some_iff]
  constructor
  · rintro ⟨_, hr, u, hu, h⟩
    obtain ⟨rfl, rfl⟩ := Prod.mk.inj h
    exact ⟨hr, hu⟩
  · rintro ⟨hr, ht⟩
    exact ⟨i, hr, t, ht, rfl⟩

theorem ascending_targetsByIndex {r : Registry} (h : r.indices.Nodup) :
    Ascending r.targetsByIndex := by
  have hsorted : (r.indices.mergeSort (· ≤ ·)).SortedLE := List.sortedLE_mergeSort
  have hnodup : (r.indices.mergeSort (· ≤ ·)).Nodup := (List.mergeSort_perm _ _).nodup_iff.2 h
  have hascending : (r.indices.mergeSort (· ≤ ·)).Pairwise (· < ·) :=
    (hsorted.sortedLT_of_nodup hnodup).pairwise
  rw [Ascending, targetsByIndex, List.pairwise_filterMap]
  refine hascending.imp ?_
  intro i j hlt a ha b hb
  obtain ⟨t, -, rfl⟩ := Option.map_eq_some_iff.1 ha
  obtain ⟨u, -, rfl⟩ := Option.map_eq_some_iff.1 hb
  exact hlt

/-- Both ways lead to the same targets. -/
theorem targets_eq_targetsByIndex {r : Registry} (h : r.indices.Nodup) :
    r.targets = r.targetsByIndex :=
  r.ascending_targets.ext (ascending_targetsByIndex h) fun _ _ =>
    r.mem_targets.trans r.mem_targetsByIndex.symm

end Targets

/-- The targets depend on which indices are registered, and on nothing else. -/
theorem targets_congr {r s : Registry} (h : ∀ i, r.isRegistered i ↔ s.isRegistered i) :
    r.targets = s.targets := by
  apply r.ascending_targets.ext s.ascending_targets
  intro i t
  rw [mem_targets, mem_targets, h]

/-! ### Targets of a history -/

/-- Targets are the event types among the indices that a history registers. -/
structure ListsTypes (past : List Operation) (targets : List (Int × EventType)) : Prop where
  ascending : Ascending targets
  /-- The indices from 3 to 16 that were registered, under any name. -/
  indices : ∀ i, i ∈ targets.map Prod.fst ↔ (∃ name, .register i name ∈ past) ∧ 3 ≤ i ∧ i ≤ 16
  /-- Each index stands beside the type that has it. -/
  paired : ∀ target ∈ targets, ValueIndex.ofEventType target.2 = target.1

theorem listsTypes {r : Registry} {past : List Operation}
    (h : ∀ i, r.isRegistered i ↔ ∃ name, .register i name ∈ past) : ListsTypes past r.targets where
  ascending := r.ascending_targets
  indices i := by
    rw [← h, ← ValueIndex.exists_ofEventType_iff, List.mem_map]
    constructor
    · rintro ⟨⟨_, t⟩, hmem, rfl⟩
      obtain ⟨hr, ht⟩ := r.mem_targets.1 hmem
      exact ⟨hr, t, ht⟩
    · rintro ⟨hr, t, ht⟩
      exact ⟨(i, t), r.mem_targets.2 ⟨hr, ht⟩, rfl⟩
  paired := fun ⟨_, _⟩ hmem => (r.mem_targets.1 hmem).2

section New

variable {fresh : Registry} (hfresh : fresh.entries = []) (ops : List Operation)
include hfresh

theorem isRegistered_after_of_new (i : Int) :
    (fresh.after ops).isRegistered i ↔ ∃ name, .register i name ∈ ops := by
  rw [isRegistered_after, isRegistered, hfresh]
  simp

theorem nodup_indices_after_of_new : (fresh.after ops).indices.Nodup := by
  apply nodup_indices_after
  simp [indices, hfresh]

end New

/-- **The targets are the event types among the registered indices.** Whatever a new registry is
asked to do, its targets are then the registered indices of event types with their types, ascending,
as sorting all its indices would find them. Every history that registers the same indices leads to
the same targets, in whatever order it registers them and whatever it publishes. -/
theorem types_of_registered_indices {fresh : Registry} (hfresh : fresh.entries = [])
    (ops : List Operation) :
    ((Act.each perform ops).run fresh).result = .ok () ∧
      ListsTypes ops (fresh.after ops).targets ∧
        (fresh.after ops).targets = (fresh.after ops).targetsByIndex ∧
          ∀ others : List Operation,
            (∀ i, (∃ name, .register i name ∈ others) ↔ ∃ name, .register i name ∈ ops) →
              (fresh.after others).targets = (fresh.after ops).targets := by
  refine ⟨congrArg Effect.result ((Act.Answers.each answers_perform ops).effect fresh),
    listsTypes (isRegistered_after_of_new hfresh ops),
    targets_eq_targetsByIndex (nodup_indices_after_of_new hfresh ops), ?_⟩
  intro others hothers
  apply targets_congr
  intro i
  rw [isRegistered_after_of_new hfresh, isRegistered_after_of_new hfresh, hothers]

/-- A name given twice and a content given too early leave no mark, and neither do indices that
belong to no type. -/
theorem sorts_general_before_home_health :
    let ops : List Operation := [.register 17 "Beyond", .register 16 "HomeHealth",
      .publish 3 (some (.number 9)), .register (-3) "Below", .register 3 "General",
      .register 3 "Again"]
    let others : List Operation := [.register (-3) "a", .register 3 "b", .publish 3 none,
      .register 16 "c", .register 17 "d", .publish 16 (some (.text "e"))]
    (({} : Registry).entries = [] ∧
      ∀ i, (∃ name, .register i name ∈ others) ↔ ∃ name, .register i name ∈ ops) ∧
    ListsTypes ops [(3, .general), (16, .homeHealth)] ∧
      (({} : Registry).after others).targets = [(3, .general), (16, .homeHealth)] := by
  intro ops others
  have hothers (i : Int) :
      (∃ name, .register i name ∈ others) ↔ ∃ name, .register i name ∈ ops := by
    have hperm : (registeredIndices others).Perm (registeredIndices ops) := by decide
    rw [← mem_registeredIndices, ← mem_registeredIndices, hperm.mem_iff]
  obtain ⟨-, hlists, -, hsame⟩ := @types_of_registered_indices {} rfl ops
  have htargets : (({} : Registry).after ops).targets = [(3, .general), (16, .homeHealth)] := by
    decide
  rw [htargets] at hlists
  exact ⟨⟨rfl, hothers⟩, hlists, (hsame others hothers).trans htargets⟩

end Registry

end MeshAlarm
