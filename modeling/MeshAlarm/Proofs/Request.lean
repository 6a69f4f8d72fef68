import Mathlib.Data.List.Perm.Basic
import MeshAlarm.Proofs.Handler.Effect

/-!
# The Gets for the targets of a node

A node is polled with one Get for each target, type by type in the order of the table. Going through
the table loses no target and adds none, so that it sorts the targets by their types. A Get depends on
the type of its target only. So the Gets depend on neither the indices of the targets nor the order in
which they were listed, and they are read back as Gets for the types of the targets, ascending.

## Main definitions

* `EventType.Ascending`: lists in the order of the table, with repetition
* `Request.AsksEach`: packets that ask for each target of a list

## Main results

* `EventType.Ascending.eq_of_perm`: ascending lists of the same types are equal
* `Request.inTypeOrder_perm`, `Request.ascending_inTypeOrder`: targets are sorted by their types
* `Request.decode_poll`: the Get for a type is read as it was meant
* `Request.asks_for_every_target`: the Gets that poll a node ask for each of its targets
-/

namespace MeshAlarm

open scoped List

/-- A list in the order of the table, with repetition. -/
def EventType.Ascending (ts : List EventType) : Prop :=
  ts.Pairwise fun t u => t.ordinal ≤ u.ordinal

instance (ts : List EventType) : Decidable (EventType.Ascending ts) :=
  inferInstanceAs (Decidable (ts.Pairwise _))

/-- Ascending lists of the same types are equal, if every type occurs in both equally often. -/
theorem EventType.Ascending.eq_of_perm {ts us : List EventType} (ht : Ascending ts)
    (hu : Ascending us) (h : ts ~ us) : ts = us := by
  refine h.eq_of_pairwise ?_ ht hu
  intro t u _ _ htu hut
  exact EventType.ordinal_inj.1 (le_antisymm htu hut)

namespace Request

/-! ### Targets in the order of the table -/

/-- Going through the table loses no target and adds none. -/
theorem inTypeOrder_perm (targets : List (Int × EventType)) :
    inTypeOrder targets ~ targets := by
  induction targets with
  | nil => simp [inTypeOrder]
  | cons target targets ih =>
    have hone : inTypeOrder [target] = [target] := by
      rcases target with ⟨index, t⟩
      cases t <;> rfl
    have hstep (t : EventType) : (target :: targets).filter (fun u => u.2 == t) =
        [target].filter (fun u => u.2 == t) ++ targets.filter fun u => u.2 == t :=
      List.filter_append [target] targets
    calc inTypeOrder (target :: targets)
        = EventType.all.flatMap fun t => [target].filter (fun u => u.2 == t) ++
            targets.filter fun u => u.2 == t := by simp only [inTypeOrder, hstep]
      _ ~ inTypeOrder [target] ++ inTypeOrder targets :=
          (List.flatMap_append_perm EventType.all _ _).symm
      _ ~ target :: targets := by
          rw [hone]
          exact ih.cons target

theorem ascending_inTypeOrder (targets : List (Int × EventType)) :
    EventType.Ascending ((inTypeOrder targets).map Prod.snd) := by
  have htype {t : EventType} {u : Int × EventType} (hu : u ∈ targets.filter fun u => u.2 == t) :
      u.2 = t := by
    simpa using (List.mem_filter.1 hu).2
  rw [EventType.Ascending, List.pairwise_map, inTypeOrder, List.pairwise_flatMap]
  refine ⟨?_, ?_⟩
  · intro t _
    apply List.pairwise_of_forall_mem_list
    intro u hu v hv
    rw [htype hu, htype hv]
  · refine EventType.inOrder_all.imp ?_
    intro t t' hlt u hu v hv
    rw [htype hu, htype hv]
    exact hlt.le

/-- The types of the sorted targets follow from the types of the targets. -/
theorem types_inTypeOrder_congr {targets others : List (Int × EventType)}
    (h : others.map Prod.snd ~ targets.map Prod.snd) :
    (inTypeOrder others).map Prod.snd = (inTypeOrder targets).map Prod.snd := by
  apply (ascending_inTypeOrder others).eq_of_perm (ascending_inTypeOrder targets)
  calc (inTypeOrder others).map Prod.snd
      ~ others.map Prod.snd := (inTypeOrder_perm others).map _
    _ ~ targets.map Prod.snd := h
    _ ~ (inTypeOrder targets).map Prod.snd := ((inTypeOrder_perm targets).map _).symm

/-! ### Gets -/

/-- The Get for a type is read as it was meant. -/
theorem decode_poll {version : Int} (h : version ≠ 1) (t : EventType) :
    Get.decode version (poll version t).data =
      { eventType := some t, firstEvent := decide (3 ≤ version) } := by
  have htype : EventType.ofOrdinal? t.byte.toNat = some t := by
    rw [EventType.toNat_byte, EventType.ofOrdinal?_ordinal]
  by_cases h₃ : 3 ≤ version <;>
    simp [poll, Get.encode, Get.decode, firstEventVersion, h, h₃, htype]

theorem polls_eq_map {version : Int} (h : version ≠ 1) (targets : List (Int × EventType)) :
    polls { targets } version = ((inTypeOrder targets).map Prod.snd).map (poll version) := by
  rw [polls, List.map_map]
  exact if_neg h

theorem result_pollsFor {version : Int} (h : 1 ≤ version) (targets : List (Int × EventType)) :
    ((pollsFor { targets } version).run ()).result = .ok (polls { targets } version) := by
  obtain ⟨asked, heffect⟩ := effect_pollsFor h { targets } ()
  exact (Act.run_of_effect heffect).1

/-- Packets ask for each target of a list. -/
structure AsksEach (version : Int) (targets : List (Int × EventType)) (packets : List Packet) :
    Prop where
  /-- There is one for each entry, whether or not its type occurs again. -/
  length : packets.length = targets.length
  command : ∀ p ∈ packets, p.command = .get
  /-- They are read as Gets for the types of the targets, ascending and each as often as it occurs. -/
  read : ∃ types, EventType.Ascending types ∧ types ~ targets.map Prod.snd ∧
    packets.map (fun p => Get.decode version p.data) =
      types.map fun t => { eventType := some t, firstEvent := decide (3 ≤ version) }

theorem asksEach_polls {version : Int} (h : version ≠ 1) (targets : List (Int × EventType)) :
    AsksEach version targets (polls { targets } version) where
  length := by
    rw [polls_eq_map h, List.length_map, List.length_map]
    exact (inTypeOrder_perm targets).length_eq
  command _ hp := command_of_mem_polls hp
  read := by
    refine ⟨(inTypeOrder targets).map Prod.snd, ascending_inTypeOrder targets,
      (inTypeOrder_perm targets).map _, ?_⟩
    rw [polls_eq_map h, List.map_map]
    refine List.map_congr_left fun t _ => ?_
    exact decode_poll h t

/-- **Every target is asked for.** From version 2 on, a node that answers Gets is polled with one Get
for each of its targets, whatever their indices and in whatever order they are listed. In version 1 it
is polled with the bare Get, and a node that answers no Gets is not polled at all. -/
theorem asks_for_every_target (targets : List (Int × EventType)) :
    (∀ version, 2 ≤ version → ∃ packets, AsksEach version targets packets ∧
      ∀ others : List (Int × EventType), others.map Prod.snd ~ targets.map Prod.snd →
        ((pollsFor { targets := others } version).run ()).result = .ok packets) ∧
    (∃ p, ((pollsFor { targets } 1).run ()).result = .ok [p] ∧ p.encode = [0x04]) ∧
    ∀ version, ∃ fault,
      ((pollsFor { answersGet := false, targets } version).run ()).result = .error fault ∧
        fault.kind = .notSupported := by
  refine ⟨?_, ⟨Get.encode {}, rfl, rfl⟩, fun version => ⟨.noGetCapability, rfl, rfl⟩⟩
  intro version h₂
  have h₁ : version ≠ 1 := by omega
  refine ⟨polls { targets } version, asksEach_polls h₁ targets, ?_⟩
  intro others hothers
  rw [result_pollsFor (by omega), polls_eq_map h₁, polls_eq_map h₁,
    types_inTypeOrder_congr hothers]

/-- Flood is asked for as often as it is listed, behind smoke. -/
theorem asks_twice_for_flood :
    let targets : List (Int × EventType) := [(8, .flood), (-1, .smoke), (8, .flood)]
    let others : List (Int × EventType) := [(300, .smoke), (8, .flood), (0, .flood)]
    ((2 : Int) ≤ 3 ∧ others.map Prod.snd ~ targets.map Prod.snd) ∧
      ∃ packets, ((pollsFor { targets := others } 3).run ()).result = .ok packets ∧
        packets.map (fun p => Get.decode 3 p.data) = [{ eventType := some .smoke, firstEvent := true },
          { eventType := some .flood, firstEvent := true },
          { eventType := some .flood, firstEvent := true }] := by
  intro targets others
  have hothers : others.map Prod.snd ~ targets.map Prod.snd := by decide
  obtain ⟨packets, hasks, hbuilt⟩ := (asks_for_every_target targets).1 3 (by decide)
  refine ⟨⟨by decide, hothers⟩, packets, hbuilt others hothers, ?_⟩
  obtain ⟨types, hascending, hperm, hread⟩ := hasks.read
  have htypes : types = [.smoke, .flood, .flood] :=
    hascending.eq_of_perm (by decide) (hperm.trans (by decide))
  rw [hread, htypes]
  rfl

end Request

end MeshAlarm
