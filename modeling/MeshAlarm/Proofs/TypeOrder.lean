import Mathlib.Data.List.Sort
import MeshAlarm.Request

/-!
# Event types in the order of the table

A list of event types that is in the order of the table, without repetition, is determined by its
members. Every selection from the table is such a list, and so are the types that a registry has
registered, which are therefore polled in the order in which they stand.

## Main definitions

* `EventType.InOrder`: lists in the order of the table, without repetition
* `Registry.types`: the registered event types

## Main results

* `EventType.InOrder.ext`: such lists with the same members are equal
* `EventType.inOrder_filter_all`: a selection from the table is such a list
* `ValueIndex.exists_ofEventType_iff`: the indices of the event types
* `Request.inTypeOrder_targets`: the targets of a registry are in order already
-/

namespace MeshAlarm

namespace EventType

/-! ### Indices -/

theorem ordinal_getElem_all : ∀ i : Fin all.length, all[i].ordinal = i := by
  decide

theorem ofOrdinal?_eq_some_iff {raw : Int} {t : EventType} :
    ofOrdinal? raw = some t ↔ (t.ordinal : Int) = raw := by
  constructor
  · intro h
    unfold ofOrdinal? at h
    split at h
    · next h₀ =>
      obtain ⟨k, rfl⟩ := Int.eq_ofNat_of_zero_le h₀
      obtain ⟨hk, ht⟩ := List.getElem?_eq_some_iff.1 h
      rw [← ht]
      exact congrArg Int.ofNat (ordinal_getElem_all ⟨k, hk⟩)
    · cases h
  · rintro rfl
    exact ofOrdinal?_ordinal t

theorem ofOrdinal?_eq_none_iff {raw : Int} : ofOrdinal? raw = none ↔ raw < 0 ∨ count ≤ raw := by
  unfold ofOrdinal?
  split
  · next h =>
    rw [List.getElem?_eq_none_iff, length_all]
    omega
  · next h => exact iff_of_true rfl (.inl (by omega))

theorem toNat_byte (t : EventType) : t.byte.toNat = t.ordinal := by
  cases t <;> rfl

/-! ### Lists in order -/

/-- A list in the order of the table, without repetition. -/
def InOrder (ts : List EventType) : Prop :=
  ts.Pairwise fun t u => t.ordinal < u.ordinal

theorem InOrder.nodup {ts : List EventType} (h : InOrder ts) : ts.Nodup := by
  refine h.imp ?_
  rintro t _ hlt rfl
  exact lt_irrefl _ hlt

theorem inOrder_all : InOrder all := by
  unfold InOrder
  decide

theorem inOrder_filter_all (p : EventType → Bool) : InOrder (all.filter p) :=
  inOrder_all.filter p

/-- Lists in order are determined by their members. -/
theorem InOrder.ext {ts us : List EventType} (ht : InOrder ts) (hu : InOrder us)
    (h : ∀ t, t ∈ ts ↔ t ∈ us) : ts = us := by
  have : Std.Irrefl fun t u : EventType => t.ordinal < u.ordinal := ⟨fun _ => lt_irrefl _⟩
  have : Std.Antisymm fun t u : EventType => t.ordinal < u.ordinal :=
    ⟨fun _ _ h h' => absurd h' (lt_asymm h)⟩
  exact List.Pairwise.eq_of_mem_iff ht hu h

theorem InOrder.eq_filter_all {ts : List EventType} (h : InOrder ts) {p : EventType → Bool}
    (hp : ∀ t, t ∈ ts ↔ p t) : ts = all.filter p :=
  h.ext (inOrder_filter_all p) fun t => by simp [hp]

end EventType

namespace ValueIndex

/-- The indices from 3 to 16 are those of the event types. -/
theorem exists_ofEventType_iff {i : Int} : (∃ t, ofEventType t = i) ↔ 3 ≤ i ∧ i ≤ 16 := by
  constructor
  · rintro ⟨t, rfl⟩
    have hlt := t.ordinal_lt
    simp only [ofEventType, ofOrdinal, EventType.count] at hlt ⊢
    omega
  · rintro ⟨h₃, h₁₆⟩
    cases ht : EventType.ofOrdinal? (i - 3) with
    | none =>
      have hout := EventType.ofOrdinal?_eq_none_iff.1 ht
      simp only [EventType.count] at hout
      omega
    | some t =>
      have hordinal := EventType.ofOrdinal?_eq_some_iff.1 ht
      exact ⟨t, by rw [ofEventType, ofOrdinal]; omega⟩

theorem ofEventType_ne {i : Int} (h : ¬ (3 ≤ i ∧ i ≤ 16)) (t : EventType) : ofEventType t ≠ i :=
  fun ht => h (exists_ofEventType_iff.1 ⟨t, ht⟩)

@[simp] theorem ofEventType_ne_alarmType (t : EventType) : ofEventType t ≠ alarmType :=
  ofEventType_ne (by decide) t

@[simp] theorem ofEventType_ne_level (t : EventType) : ofEventType t ≠ level :=
  ofEventType_ne (by decide) t

@[simp] theorem ofEventType_ne_sourceNodeId (t : EventType) : ofEventType t ≠ sourceNodeId :=
  ofEventType_ne (by decide) t

@[simp] theorem ofEventType_ne_lockState (t : EventType) : ofEventType t ≠ lockState :=
  ofEventType_ne (by decide) t

@[simp] theorem sourceNodeId_ne_lockState : sourceNodeId ≠ lockState := by decide

end ValueIndex

/-! ### Targets -/

namespace Request

open EventType (all)

/-- Going through the table type by type finds a selection from it in the order of the table. -/
theorem flatMap_filter_all (p : EventType → Bool) (index : EventType → Int) :
    (all.flatMap fun t => ((all.filter p).map fun u => (index u, u)).filter fun u => u.2 == t) =
      (all.filter p).map fun u => (index u, u) := by
  have hone (t : EventType) :
      ((all.filter p).map fun u => (index u, u)).filter (fun u => u.2 == t) =
        if p t then [(index t, t)] else [] := by
    have hcomp : ((fun u : Int × EventType => u.2 == t) ∘ fun u => (index u, u)) = (· == t) := rfl
    rw [List.filter_map, hcomp, List.filter_beq,
      (EventType.inOrder_filter_all p).nodup.count]
    cases hp : p t <;> simp [hp]
  have hall (ts : List EventType) :
      (ts.flatMap fun t => if p t then [(index t, t)] else []) =
        (ts.filter p).map fun u => (index u, u) := by
    induction ts with
    | nil => rfl
    | cons t ts ih => cases hp : p t <;> simp [hp, ih]
  simp only [hone, hall]

end Request

namespace Registry

variable (r : Registry)

/-- The registered event types, in the order of the table. -/
def types : List EventType :=
  EventType.all.filter fun t => r.isRegistered (ValueIndex.ofEventType t)

theorem mem_types {t : EventType} :
    t ∈ r.types ↔ r.isRegistered (ValueIndex.ofEventType t) := by
  simp [types]

theorem inOrder_types : EventType.InOrder r.types :=
  EventType.inOrder_filter_all _

theorem targets_eq : r.targets = r.types.map fun t => (ValueIndex.ofEventType t, t) := by
  rw [targets, types]
  -- For any table, as the induction runs through its tails.
  generalize EventType.all = ts
  induction ts with
  | nil => rfl
  | cons t ts ih => cases ht : r.isRegistered (ValueIndex.ofEventType t) <;> simp [ht, ih]

end Registry

/-- The targets of a registry are in order already. -/
theorem Request.inTypeOrder_targets (r : Registry) : inTypeOrder r.targets = r.targets := by
  rw [Registry.targets_eq, inTypeOrder, Registry.types, flatMap_filter_all]

end MeshAlarm
