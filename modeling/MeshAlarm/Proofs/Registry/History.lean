import Mathlib.Data.List.Nodup
import Mathlib.Data.List.TakeWhile
import MeshAlarm.Proofs.Registry

/-!
# A registry as its history

What a new registry holds after operations can be read off the operations alone. The first
registration of an index gives the value its name and its place, and everything that is registered
there later is lost. The last content that is published at an index wins, and everything that was
published there before its registration is lost. Contents that are the same as before, or none, are
passed over by the registry; the history has no such cases, so they cannot be seen.

## Main definitions

* `Registry.indices`: the registered indices, in the order of registration
* `Registry.registeredIndices`: the indices that a history registers, in the order of registration
* `Registry.firstName?`: the name of the first registration of an index
* `Registry.lastContent?`: the last content published at an index after its registration
* `Registry.Recounts`: a registry that holds what a history comes to

## Main results

* `Registry.indices_after_register`, `Registry.indices_after_publish`: one operation, seen in the
  indices
* `Registry.firstName?_concat`, `Registry.registeredIndices_register`,
  `Registry.lastContent?_concat`: one more operation in a history
* `Registry.first_name_and_last_content`: a new registry recounts every history
-/

namespace MeshAlarm

/-! ### What an operation says of an index -/

namespace Operation

/-- The index that an operation registers, if it is a registration. -/
def registers? : Operation → Option Int
  | register index _ => some index
  | publish .. => none

/-- The name that an operation registers an index with, if it does. -/
def nameFor? (i : Int) : Operation → Option String
  | register index name => if index = i then some name else none
  | publish .. => none

/-- The content that an operation publishes at an index, if it does. -/
def contentFor? (i : Int) : Operation → Option (Option Value)
  | register .. => none
  | publish index content => if index = i then some content else none

end Operation

namespace Registry

/-! ### Histories -/

/-- The indices that a history registers, each once, in the order of their first registrations. -/
def registeredIndices (past : List Operation) : List Int :=
  (past.filterMap Operation.registers?).eraseDups

/-- The name of the first registration of an index. -/
def firstName? (past : List Operation) (i : Int) : Option String :=
  past.findSome? (Operation.nameFor? i)

/-- A history from the first registration of an index on. -/
def sinceRegistered (past : List Operation) (i : Int) : List Operation :=
  past.dropWhile fun op => (op.nameFor? i).isNone

/-- The last content that a history publishes at an index after the index was registered. There is
none if the index is never registered or nothing is published there afterwards. -/
def lastContent? (past : List Operation) (i : Int) : Option Value :=
  ((sinceRegistered past i).filterMap (Operation.contentFor? i)).getLastD none

variable {past : List Operation} {i : Int}

theorem mem_registeredIndices : i ∈ registeredIndices past ↔ ∃ name, .register i name ∈ past := by
  rw [registeredIndices, List.mem_eraseDups, List.mem_filterMap]
  constructor
  · rintro ⟨⟨index, name⟩ | ⟨index, content⟩, hmem, hop⟩
    · obtain rfl := Option.some.inj hop
      exact ⟨name, hmem⟩
    · cases hop
  · rintro ⟨name, hmem⟩
    exact ⟨_, hmem, rfl⟩

theorem registeredIndices_register (past : List Operation) (index : Int) (name : String) :
    registeredIndices (past ++ [.register index name]) =
      if index ∈ registeredIndices past then registeredIndices past
      else registeredIndices past ++ [index] := by
  have hlast : [Operation.register index name].filterMap Operation.registers? = [index] := rfl
  have hone : [index].eraseDups = [index] := rfl
  rw [registeredIndices, List.filterMap_append, hlast, List.eraseDups_append, ← registeredIndices]
  by_cases h : index ∈ past.filterMap Operation.registers?
  · rw [List.removeAll, List.filter_singleton]
    simp [registeredIndices, h]
  · rw [List.removeAll, List.filter_singleton]
    simp [registeredIndices, h, hone]

theorem registeredIndices_publish (past : List Operation) (index : Int) (content : Option Value) :
    registeredIndices (past ++ [.publish index content]) = registeredIndices past := by
  have hlast : [Operation.publish index content].filterMap Operation.registers? = [] := rfl
  rw [registeredIndices, List.filterMap_append, hlast, List.append_nil, registeredIndices]

theorem firstName?_concat (past : List Operation) (op : Operation) (i : Int) :
    firstName? (past ++ [op]) i = (firstName? past i).or (op.nameFor? i) := by
  rw [firstName?, List.findSome?_append, List.findSome?_singleton, firstName?]

/-- A history reaches the registration of an index exactly if there is one. -/
theorem sinceRegistered_eq_nil_iff : sinceRegistered past i = [] ↔ firstName? past i = none := by
  rw [sinceRegistered, List.dropWhile_eq_nil_iff, firstName?, List.findSome?_eq_none_iff]
  simp only [Option.isNone_iff_eq_none]

theorem lastContent?_of_not_registered (h : firstName? past i = none) :
    lastContent? past i = none := by
  rw [lastContent?, sinceRegistered_eq_nil_iff.2 h]
  rfl

/-- The last operation decides about a content, if the index was registered before it. -/
theorem lastContent?_concat (past : List Operation) (op : Operation) (i : Int) :
    lastContent? (past ++ [op]) i =
      if firstName? past i = none then none else (op.contentFor? i).getD (lastContent? past i) := by
  have hsince : sinceRegistered (past ++ [op]) i =
      if firstName? past i = none then [op].dropWhile fun op => (op.nameFor? i).isNone
      else sinceRegistered past i ++ [op] := by
    rw [sinceRegistered, List.dropWhile_append, ← sinceRegistered]
    simp only [List.isEmpty_iff, sinceRegistered_eq_nil_iff]
  by_cases h : firstName? past i = none
  · rw [lastContent?, hsince, if_pos h, if_pos h]
    cases op with
    | register index name =>
      by_cases hi : index = i <;> simp [Operation.nameFor?, hi, Operation.contentFor?]
    | publish index content => rfl
  · rw [lastContent?, hsince, if_neg h, if_neg h, Act.getLastD_filterMap_concat]
    rfl

/-! ### Entries -/

variable (r : Registry)

/-- The registered indices, in the order of registration. -/
def indices : List Int :=
  r.entries.map (·.index)

theorem mem_indices : i ∈ r.indices ↔ r.isRegistered i := by
  simp [indices, isRegistered]

theorem indices_after_register (index : Int) (name : String) :
    ((perform (.register index name)).effect r).after.indices =
      if index ∈ r.indices then r.indices else r.indices ++ [index] := by
  rw [perform, effect_register]
  simp only [mem_indices]
  split
  · rfl
  · simp [indices]

theorem indices_after_publish (index : Int) (content : Option Value) :
    ((perform (.publish index content)).effect r).after.indices = r.indices := by
  have hindices (s : Registry) : s.indices = s.labels.map Prod.fst := by
    rw [labels, List.map_map]
    rfl
  rw [hindices, hindices, labels_after_publish]

/-- An operation leaves one entry for each index. -/
theorem nodup_indices_perform {r : Registry} (h : r.indices.Nodup) (op : Operation) :
    ((perform op).effect r).after.indices.Nodup := by
  cases op with
  | register index name =>
    rw [indices_after_register]
    split
    · exact h
    · next hnew =>
      rw [← List.concat_eq_append]
      exact h.concat hnew
  | publish index content =>
    rw [indices_after_publish]
    exact h

theorem nodup_indices_after {r : Registry} (h : r.indices.Nodup) (ops : List Operation) :
    (r.after ops).indices.Nodup :=
  r.after_induction (P := fun s => s.indices.Nodup)
    (fun op _ _ hs => nodup_indices_perform hs op) h

/-- The entry at the index of an entry is that entry, if every index has one. -/
theorem find?_of_mem {r : Registry} (h : r.indices.Nodup) {entry : Entry}
    (hmem : entry ∈ r.entries) : r.find? entry.index = some entry := by
  have hsome : (r.find? entry.index).isSome := by
    rw [isSome_find?, ← mem_indices]
    exact List.mem_map_of_mem hmem
  obtain ⟨found, hfound⟩ := Option.isSome_iff_exists.1 hsome
  have hindex := r.index_of_find? hfound
  have hsame : found = entry :=
    List.inj_on_of_nodup_map h (List.mem_of_find?_eq_some hfound) hmem hindex
  rw [hfound, hsame]

/-! ### Registries and histories -/

/-- A registry holds what a history of operations comes to. -/
structure Recounts (past : List Operation) (r : Registry) : Prop where
  /-- An index is registered if the history registers it, under any name. -/
  registered : ∀ i, r.isRegistered i ↔ ∃ name, .register i name ∈ past
  /-- Every index has one entry. -/
  once : r.indices.Nodup
  /-- The entries stand in the order of the first registrations. -/
  ordered : r.indices = registeredIndices past
  /-- The name at an index is that of its first registration. -/
  named : ∀ i, (r.find? i).map (·.name) = firstName? past i
  /-- The names are listed in the order of the first registrations. -/
  listed : r.names.map some = (registeredIndices past).map (firstName? past)
  /-- The content at an index is the last one published after its registration. -/
  holds : ∀ i, r.content? i = lastContent? past i

namespace Recounts

variable {r : Registry}

/-- The rest follows from what each single entry holds and from the order of the indices. -/
theorem of_entries (once : r.indices.Nodup) (ordered : r.indices = registeredIndices past)
    (named : ∀ i, (r.find? i).map (·.name) = firstName? past i)
    (holds : ∀ i, r.content? i = lastContent? past i) : Recounts past r where
  registered i := by rw [← mem_indices, ordered, mem_registeredIndices]
  once := once
  ordered := ordered
  named := named
  listed := by
    rw [← ordered, indices, names, List.map_map, List.map_map]
    refine List.map_congr_left fun entry hmem => ?_
    have hname := named entry.index
    rwa [find?_of_mem once hmem] at hname
  holds := holds

theorem of_new (h : r.entries = []) : Recounts [] r := by
  have hfind (i : Int) : r.find? i = none := by simp [find?, h]
  refine of_entries ?_ ?_ ?_ ?_
  · simp [indices, h]
  · simp [indices, h, registeredIndices]
  · intro i
    rw [hfind]
    rfl
  · intro i
    rw [content?, hfind]
    rfl

/-- A name is missing from the history exactly if its index is missing from the registry. -/
theorem firstName?_eq_none_iff (h : Recounts past r) (i : Int) :
    firstName? past i = none ↔ r.isRegistered i = false := by
  rw [← h.named, Option.map_eq_none_iff, find?_eq_none_iff]

/-- A registration is the first of its index, or lost. -/
theorem register (h : Recounts past r) (index : Int) (name : String) :
    Recounts (past ++ [.register index name])
      ((perform (.register index name)).effect r).after := by
  refine of_entries (nodup_indices_perform h.once _) ?ordered ?named ?holds
  case ordered =>
    rw [indices_after_register, registeredIndices_register, h.ordered]
  case named =>
    intro i
    rw [find?_after_register, firstName?_concat, Option.map_or, h.named]
    by_cases hi : index = i <;> simp [Operation.nameFor?, hi]
  case holds =>
    intro i
    rw [content?_after_register, lastContent?_concat, h.holds]
    split
    · next hnone => exact lastContent?_of_not_registered hnone
    · rfl

/-- A content is the last one at its index, or lost. -/
theorem publish (h : Recounts past r) (index : Int) (content : Option Value) :
    Recounts (past ++ [.publish index content])
      ((perform (.publish index content)).effect r).after := by
  refine of_entries (nodup_indices_perform h.once _) ?ordered ?named ?holds
  case ordered =>
    rw [indices_after_publish, registeredIndices_publish, h.ordered]
  case named =>
    intro i
    rw [find?_after_publish, firstName?_concat, ← h.named]
    cases r.find? i with
    | none => rfl
    | some entry =>
      simp only [Option.map_some, Entry.write]
      split <;> rfl
  case holds =>
    intro i
    rw [content?_after_publish, lastContent?_concat, ← h.holds]
    simp only [h.firstName?_eq_none_iff]
    by_cases hr : r.isRegistered i
    · by_cases hi : index = i <;> simp [Operation.contentFor?, hi, hr]
    · simp [hr, content?_eq_none_of_not_registered r hr]

end Recounts

/-- One operation more is one more in the history. -/
theorem Recounts.perform {r : Registry} (h : Recounts past r) (op : Operation) :
    Recounts (past ++ [op]) ((Registry.perform op).effect r).after := by
  cases op with
  | register index name => exact h.register index name
  | publish index content => exact h.publish index content

theorem after_concat (ops : List Operation) (op : Operation) :
    r.after (ops ++ [op]) = ((perform op).effect (r.after ops)).after := by
  rw [after_append, after_cons, after_nil]

/-- **The first registration and the last content count.** Whatever a new registry is asked to do,
it does without fail, and afterwards it holds what the history comes to: an entry for each index
that was registered, in the order of the first registrations and under the first names, with the
last content that was published there since. -/
theorem first_name_and_last_content {fresh : Registry} (hfresh : fresh.entries = [])
    (ops : List Operation) :
    ((Act.each perform ops).run fresh).result = .ok () ∧
      Recounts ops ((Act.each perform ops).run fresh).after := by
  refine ⟨congrArg Effect.result ((Act.Answers.each answers_perform ops).effect fresh), ?_⟩
  show Recounts ops (fresh.after ops)
  -- Induction from the end: the last operation comes on top of the history of all the others.
  induction ops using List.reverseRecOn with
  | nil => exact .of_new hfresh
  | append_singleton past op ih =>
    rw [after_concat]
    exact ih.perform op

/-- Content that came too early is lost, a second name is lost, and a removed content is
replaced. -/
theorem second_name_and_early_content_are_lost :
    ({} : Registry).entries = [] ∧
      ∃ r, ((Act.each perform [.publish 7 (some (.number 1)), .register 7 "First",
          .publish 7 (some (.number 2)), .register (-3) "Other", .register 7 "Second",
          .publish 7 none, .publish 7 (some (.text "last")), .publish 8 (some (.number 3))]).run
            {}).after = r ∧
        r.names = ["First", "Other"] ∧ r.content? 7 = some (.text "last") ∧
          r.content? (-3) = none ∧ r.content? 8 = none := by
  obtain ⟨-, h⟩ := @first_name_and_last_content {} rfl [.publish 7 (some (.number 1)),
    .register 7 "First", .publish 7 (some (.number 2)), .register (-3) "Other",
    .register 7 "Second", .publish 7 none, .publish 7 (some (.text "last")),
    .publish 8 (some (.number 3))]
  refine ⟨rfl, _, rfl, ?_, h.holds 7, h.holds (-3), h.holds 8⟩
  exact (List.map_inj_right fun _ _ => Option.some.inj).1 h.listed

end Registry

end MeshAlarm
