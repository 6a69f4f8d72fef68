import MeshAlarm.Proofs.Registry.History

/-!
# A registry as its notices

Whoever hears the notices of a new registry can keep a copy of its entries and never needs to ask
for one. An operation either finds nothing to do and is silent, or it announces one piece of news
and does what the notice says. So the copy is right after every operation, and the notices of an
index start with its registration, which is announced once.

## Main definitions

* `Notice.apply`, `Notice.copyOf`: a copy of the entries after one notice, and after all
* `Registry.watched`: a new registry whose notices are all heard
* `Registry.notices`: what a registry announces in the course of operations
* `Registry.IsNews`: notices that tell what is not known yet
* `Registry.Followed`: a run that can be followed by its notices

## Main results

* `Registry.perform_cases`: an operation is silent and idle, or announces what it does
* `Registry.copyOf_notices`: the copy that notices make holds the entries
* `Registry.followed_by_notices`: every run of a new registry can be followed by its notices
-/

namespace MeshAlarm

/-! ### Copies -/

namespace Notice

/-- A copy of the entries after a notice: a new value comes last and without content, and a changed
content takes the place of the one before. -/
def apply (copy : List Entry) : Notice → List Entry
  | added index name => copy ++ [{ index, name }]
  | changed index content => copy.map (Entry.write index content)

/-- The copy of the entries that notices make. -/
def copyOf (notices : List Notice) : List Entry :=
  notices.foldl apply []

/-- The index that a notice announces as added, if it does. -/
def added? : Notice → Option Int
  | added index _ => some index
  | changed .. => none

theorem copyOf_concat (heard : List Notice) (n : Notice) :
    copyOf (heard ++ [n]) = n.apply (copyOf heard) := by
  rw [copyOf, List.foldl_append, ← copyOf]
  rfl

theorem mem_filterMap_added? {notices : List Notice} {i : Int} :
    i ∈ notices.filterMap added? ↔ ∃ name, .added i name ∈ notices := by
  rw [List.mem_filterMap]
  constructor
  · rintro ⟨⟨index, name⟩ | ⟨index, content⟩, hmem, hadded⟩
    · obtain rfl := Option.some.inj hadded
      exact ⟨name, hmem⟩
    · cases hadded
  · rintro ⟨name, hmem⟩
    exact ⟨_, hmem, rfl⟩

/-- The indices of a copy are those that were announced as added, in the same order. -/
theorem map_index_copyOf (notices : List Notice) :
    (copyOf notices).map (·.index) = notices.filterMap added? := by
  induction notices using List.reverseRecOn with
  | nil => rfl
  | append_singleton heard n ih =>
    rw [copyOf_concat, List.filterMap_append, ← ih]
    rcases n with ⟨index, name⟩ | ⟨index, content⟩
    · rw [apply, List.map_append]
      rfl
    · have hindex : (·.index) ∘ Entry.write index content = (·.index) := by
        ext e
        simp only [Function.comp_apply, Entry.write]
        split <;> rfl
      rw [apply, List.map_map, hindex]
      exact (List.append_nil _).symm

end Notice

namespace Registry

/-! ### Notices -/

/-- A new registry whose notices are all heard. -/
def watched (nodeId : Int) (answersGet : Bool) : Registry :=
  { nodeId, answersGet, announcesAdded := true, announcesChanged := true }

variable (r : Registry)

/-- What a registry announces in the course of operations. -/
def notices (ops : List Operation) : List Notice :=
  ((Act.each perform ops).run r).trace.emissions

/-- A notice tells what is not known yet: a value that is not registered, or content other than
that of a registered value. -/
def IsNews : Notice → Prop
  | .added index _ => ¬ r.isRegistered index
  | .changed index content => r.isRegistered index ∧ r.content? index ≠ content

theorem notices_cons (op : Operation) (ops : List Operation) :
    r.notices (op :: ops) =
      ((perform op).effect r).emitted ++ ((perform op).effect r).after.notices ops := by
  show ((Act.each perform (op :: ops)).effect r).emitted = _
  rw [Act.each, Act.effect_bind, (answers_perform op).effect]
  rfl

theorem notices_singleton (op : Operation) :
    r.notices [op] = ((perform op).effect r).emitted := by
  rw [notices_cons]
  exact List.append_nil _

/-- The notices of a run are those of its parts. -/
theorem notices_append (ops more : List Operation) :
    r.notices (ops ++ more) = r.notices ops ++ (r.after ops).notices more := by
  induction ops generalizing r with
  | nil => rfl
  | cons op ops ih =>
    rw [List.cons_append, notices_cons, notices_cons, after_cons, ih, List.append_assoc]

variable {r}

/-- An operation finds nothing to do and is silent, or it announces one piece of news and does what
the notice says. -/
theorem perform_cases (hadded : r.announcesAdded) (hchanged : r.announcesChanged)
    (op : Operation) :
    (r.notices [op] = [] ∧ r.after [op] = r) ∨
      ∃ n, r.notices [op] = [n] ∧ r.IsNews n ∧ (r.after [op]).entries = n.apply r.entries := by
  rw [notices_singleton, after_cons, after_nil]
  cases op with
  | register index name =>
    rw [perform, effect_register, if_pos hadded]
    by_cases hr : r.isRegistered index
    · rw [if_pos hr]
      exact .inl ⟨rfl, rfl⟩
    · rw [if_neg hr]
      exact .inr ⟨_, rfl, hr, rfl⟩
  | publish index content =>
    rw [perform, effect_publish, if_pos hchanged]
    cases hf : r.find? index with
    | none => exact .inl ⟨rfl, rfl⟩
    | some entry =>
      dsimp only
      by_cases hcontent : entry.content = content
      · rw [if_pos hcontent]
        exact .inl ⟨rfl, rfl⟩
      · have hr : r.isRegistered index := by
          rw [← isSome_find?, hf]
          rfl
        have hdiffers : r.content? index ≠ content := by
          rw [content?, hf]
          exact hcontent
        rw [if_neg hcontent]
        exact .inr ⟨_, rfl, ⟨hr, hdiffers⟩, rfl⟩

/-! ### Runs of a new registry -/

variable {nodeId : Int} {answersGet : Bool}

/-- One more operation is silent, or it announces one more piece of news. -/
theorem watched_cases (past : List Operation) (op : Operation) :
    let r := (watched nodeId answersGet).after past
    (r.notices [op] = [] ∧ r.after [op] = r) ∨
      ∃ n, r.notices [op] = [n] ∧ r.IsNews n ∧ (r.after [op]).entries = n.apply r.entries := by
  intro r
  apply perform_cases
  · exact congrArg announcesAdded (after_eq _ past)
  · exact congrArg announcesChanged (after_eq _ past)

/-- The copy that notices make holds the entries, in the order of registration. -/
theorem copyOf_notices (ops : List Operation) :
    Notice.copyOf ((watched nodeId answersGet).notices ops) =
      ((watched nodeId answersGet).after ops).entries := by
  -- Induction from the end: the last operation adds at most one notice, and does what it says.
  induction ops using List.reverseRecOn with
  | nil => rfl
  | append_singleton past op ih =>
    rw [notices_append, after_append]
    rcases watched_cases past op with ⟨hsilent, hsame⟩ | ⟨n, hnotice, -, hdone⟩
    · rw [hsilent, hsame, List.append_nil, ih]
    · rw [hnotice, hdone, Notice.copyOf_concat, ih]

/-- The registered indices are those that were announced as added, in the same order. -/
theorem indices_after_watched (ops : List Operation) :
    ((watched nodeId answersGet).after ops).indices =
      ((watched nodeId answersGet).notices ops).filterMap Notice.added? := by
  rw [← Notice.map_index_copyOf, copyOf_notices, indices]

theorem nodup_indices_after_watched (ops : List Operation) :
    ((watched nodeId answersGet).after ops).indices.Nodup := by
  have hempty : (watched nodeId answersGet).indices.Nodup := List.nodup_nil
  exact nodup_indices_after hempty ops

/-- A change of content is announced only behind the notice that the value was added. -/
theorem added_before_changed {ops : List Operation} {before : List Notice} {i : Int}
    {content : Option Value}
    (h : before ++ [.changed i content] <+: (watched nodeId answersGet).notices ops) :
    ∃ name, .added i name ∈ before := by
  induction ops using List.reverseRecOn with
  | nil =>
    rw [notices] at h
    exact absurd (List.prefix_nil.1 h) (List.append_ne_nil_of_right_ne_nil _ (List.cons_ne_nil _ _))
  | append_singleton past op ih =>
    rw [notices_append] at h
    rcases watched_cases past op with ⟨hsilent, -⟩ | ⟨n, hnotice, hnews, -⟩
    · rw [hsilent, List.append_nil] at h
      exact ih h
    · rw [hnotice, List.prefix_concat_iff] at h
      rcases h with hlast | hearlier
      · obtain ⟨rfl, hn⟩ := List.append_inj' hlast rfl
        obtain rfl : .changed i content = n := List.head_eq_of_cons_eq hn
        apply Notice.mem_filterMap_added?.1
        rw [← indices_after_watched, mem_indices]
        exact hnews.1
      · exact ih hearlier

/-- A run can be followed by its notices. -/
structure Followed (fresh : Registry) (ops : List Operation) : Prop where
  /-- No operation fails. -/
  answered : ((Act.each perform ops).run fresh).result = .ok ()
  /-- The notices come as the operations go. -/
  ordered : ∀ past later, ops = past ++ later →
    fresh.notices ops = fresh.notices past ++ (fresh.after past).notices later
  /-- After every operation the copy that the notices made holds exactly the entries. -/
  copied : ∀ past later, ops = past ++ later →
    Notice.copyOf (fresh.notices past) = (fresh.after past).entries
  /-- Every registered index is announced as added exactly once, and no other ever is. -/
  added_once : ∀ i, ((fresh.notices ops).filterMap Notice.added?).count i =
    if (fresh.after ops).isRegistered i then 1 else 0
  /-- A value is announced as added before any change of its content is. -/
  added_first : ∀ before i content, before ++ [.changed i content] <+: fresh.notices ops →
    ∃ name, .added i name ∈ before
  /-- A change is never announced with the content that the value had before. -/
  differs : ∀ past op later i content, ops = past ++ op :: later →
    .changed i content ∈ (fresh.after past).notices [op] →
      (fresh.after past).isRegistered i ∧ (fresh.after past).content? i ≠ content

/-- **A registry can be followed by its notices.** Whatever a new registry is asked to do, whoever
hears its notices holds a copy of the entries after every operation. Each value is announced once as
added, before its content changes, and contents are announced only if they differ. -/
theorem followed_by_notices (nodeId : Int) (answersGet : Bool) (ops : List Operation) :
    Followed (watched nodeId answersGet) ops where
  answered := congrArg Effect.result ((Act.Answers.each answers_perform ops).effect _)
  ordered := by
    rintro past later rfl
    exact notices_append _ past later
  copied past _ _ := copyOf_notices past
  added_once i := by
    rw [← indices_after_watched, (nodup_indices_after_watched ops).count]
    simp only [mem_indices]
  added_first _ _ _ := added_before_changed
  differs := by
    rintro past op later i content - hmem
    rcases watched_cases past op with ⟨hsilent, -⟩ | ⟨n, hnotice, hnews, -⟩
    · rw [hsilent] at hmem
      exact absurd hmem List.not_mem_nil
    · rw [hnotice, List.mem_singleton] at hmem
      subst hmem
      exact hnews

end Registry

end MeshAlarm
