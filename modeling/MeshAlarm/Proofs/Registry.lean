import MeshAlarm.Proofs.Effect
import MeshAlarm.Registry

/-!
# What operations do to a registry

Operations on a registry never fail, and they touch nothing but the entries. What they do is seen
through the entry at an index: a registration adds an entry where there was none, and publishing
rewrites the content of the entry that is there. The indices and names, in their order, grow at the
end and are otherwise never touched.

An operation is idle if it finds nothing to do. Idle operations change nothing and are announced to
nobody.

## Main definitions

* `Operation.write`, `Operation.add`: the operations that publish a value and that register an index
  under a name
* `Registry.after`: a registry after operations
* `Registry.labels`: the indices and names, in order
* `Registry.missing`: the entries for what is not registered
* `Registry.Idle`: operations that find nothing to do

## Main results

* `Registry.find?_after_register`, `Registry.find?_after_publish`: one operation, seen at an index
* `Registry.isRegistered_after`: what is registered after operations
* `Registry.content?_after_writes`: the content after writes that agree with each other
* `Registry.entries_after_adds`: registrations append what is missing
* `Registry.effect_each_of_idle`: idle operations do nothing
-/

namespace MeshAlarm

/-- Publishes a value at an index. -/
def Operation.write (w : Int × Value) : Operation :=
  .publish w.1 (some w.2)

/-- Registers an index under a name. -/
def Operation.add (l : Int × String) : Operation :=
  .register l.1 l.2

namespace Registry

variable (r : Registry)

/-- A registry after operations. -/
def after (ops : List Operation) : Registry :=
  ((Act.each perform ops).run r).after

/-- The indices and names of the values, in the order of registration. -/
def labels : List (Int × String) :=
  r.entries.map fun e => (e.index, e.name)

/-! ### One operation -/

theorem effect_register (index : Int) (name : String) :
    (register index name).effect r =
      if r.isRegistered index then ⟨.ok (), r, []⟩
      else ⟨.ok (), { r with entries := r.entries ++ [{ index, name }] },
        if r.announcesAdded then [.added index name] else []⟩ := by
  unfold register
  simp only [Act.effect_bind, Act.effect_read, Effect.andThen_ok, Effect.behind_nil]
  split
  · rfl
  · cases ha : r.announcesAdded <;> simp [ha]

theorem effect_publish (index : Int) (content : Option Value) :
    (publish index content).effect r =
      match r.find? index with
      | none => ⟨.ok (), r, []⟩
      | some entry =>
        if entry.content = content then ⟨.ok (), r, []⟩
        else ⟨.ok (), { r with entries := r.entries.map (Entry.write index content) },
          if r.announcesChanged then [.changed index content] else []⟩ := by
  unfold publish
  simp only [Act.effect_bind, Act.effect_read, Effect.andThen_ok, Effect.behind_nil]
  cases r.find? index with
  | none => rfl
  | some entry =>
    by_cases h : entry.content = content
    · simp [h]
    · cases hc : r.announcesChanged <;> simp [h, hc]

/-- Operations on a registry never fail. -/
theorem answers_perform (op : Operation) : (perform op).Answers := by
  intro r
  refine ⟨(), ?_⟩
  cases op with
  | register index name => rw [perform, effect_register]; split <;> rfl
  | publish index content =>
    rw [perform, effect_publish]
    split
    · rfl
    · split <;> rfl

/-! ### Operations in a row -/

@[simp] theorem after_nil : r.after [] = r := rfl

theorem after_cons (op : Operation) (ops : List Operation) :
    r.after (op :: ops) = (((perform op).effect r).after).after ops := by
  show ((Act.each perform (op :: ops)).effect r).after = _
  rw [Act.each, Act.effect_bind, (answers_perform op).effect]
  rfl

theorem after_append (ops more : List Operation) :
    r.after (ops ++ more) = (r.after ops).after more := by
  induction ops generalizing r with
  | nil => rfl
  | cons op ops ih => rw [List.cons_append, after_cons, after_cons, ih]

/-- What every operation keeps, operations in a row keep. -/
theorem after_induction {P : Registry → Prop} {ops : List Operation}
    (h : ∀ op ∈ ops, ∀ r, P r → P ((perform op).effect r).after) (hr : P r) : P (r.after ops) := by
  induction ops generalizing r with
  | nil => exact hr
  | cons op ops ih =>
    have hlater : ∀ op' ∈ ops, ∀ r, P r → P ((perform op').effect r).after := by
      intro op' hop
      exact h op' (List.mem_cons_of_mem _ hop)
    rw [after_cons]
    exact ih _ hlater (h op List.mem_cons_self r hr)

/-- Operations touch nothing but the entries. -/
theorem after_eq (ops : List Operation) :
    r.after ops = { r with entries := (r.after ops).entries } := by
  refine after_induction r (P := fun s => s = { r with entries := s.entries }) ?_ rfl
  rintro (⟨index, name⟩ | ⟨index, content⟩) - s hs
  · rw [perform, effect_register]
    split
    · exact hs
    · show ({ s with entries := s.entries ++ [{ index, name }] } : Registry) = _
      rw [hs]
  · rw [perform, effect_publish]
    split
    · exact hs
    · split
      · exact hs
      · show ({ s with entries := s.entries.map (Entry.write index content) } : Registry) = _
        rw [hs]

@[simp] theorem answersGet_after (ops : List Operation) :
    (r.after ops).answersGet = r.answersGet := by
  rw [after_eq]

/-! ### The entry at an index -/

theorem isSome_find? (index : Int) : (r.find? index).isSome = r.isRegistered index := by
  rw [find?, isRegistered, List.isSome_find?]

theorem find?_eq_none_iff (index : Int) : r.find? index = none ↔ r.isRegistered index = false := by
  rw [← isSome_find?, Option.isSome_eq_false_iff, Option.isNone_iff_eq_none]

theorem index_of_find? {index : Int} {entry : Entry} (h : r.find? index = some entry) :
    entry.index = index := by
  simpa using List.find?_some h

/-- A registration adds an entry where there was none. -/
theorem find?_after_register (index : Int) (name : String) (i : Int) :
    ((perform (.register index name)).effect r).after.find? i =
      (r.find? i).or (if index = i then some { index, name } else none) := by
  rw [perform, effect_register]
  by_cases hr : r.isRegistered index
  · rw [if_pos hr]
    by_cases hi : index = i
    · subst hi
      rw [← isSome_find?] at hr
      exact (Option.or_of_isSome hr).symm
    · simp [hi]
  · rw [if_neg hr]
    simp only [find?, List.find?_append, List.find?_singleton, beq_iff_eq]

/-- Publishing rewrites the entry that is there. -/
theorem find?_after_publish (index : Int) (content : Option Value) (i : Int) :
    ((perform (.publish index content)).effect r).after.find? i =
      (r.find? i).map (Entry.write index content) := by
  have hkeep (h : ∀ entry, r.find? index = some entry → entry.content = content) :
      r.find? i = (r.find? i).map (Entry.write index content) := by
    cases hi : r.find? i with
    | none => rfl
    | some entry =>
      have hindex := r.index_of_find? hi
      by_cases heq : i = index
      · subst heq
        rw [Option.map_some, Entry.write, if_pos hindex, ← h entry hi]
      · simp [Entry.write, hindex, heq]
  rw [perform, effect_publish]
  cases hf : r.find? index with
  | none => exact hkeep (by simp [hf])
  | some entry =>
    dsimp only
    split
    · next hcontent => exact hkeep (by simp [hf, hcontent])
    · have hsame : (fun e => e.index == i) ∘ Entry.write index content = (fun e => e.index == i) := by
        funext e
        simp only [Function.comp_apply, Entry.write]
        split <;> rfl
      simp only [find?, List.find?_map, hsame]

/-! ### What is registered -/

theorem isRegistered_after_register (index : Int) (name : String) (i : Int) :
    ((perform (.register index name)).effect r).after.isRegistered i ↔
      r.isRegistered i ∨ index = i := by
  rw [← isSome_find?, find?_after_register, ← isSome_find?]
  by_cases h : index = i <;> simp [h]

theorem isRegistered_after_publish (index : Int) (content : Option Value) (i : Int) :
    ((perform (.publish index content)).effect r).after.isRegistered i = r.isRegistered i := by
  rw [← isSome_find?, find?_after_publish, Option.isSome_map, isSome_find?]

/-- An index is registered after operations if it was before, or if one of them registers it. -/
theorem isRegistered_after (ops : List Operation) (i : Int) :
    (r.after ops).isRegistered i ↔ r.isRegistered i ∨ ∃ name, .register i name ∈ ops := by
  induction ops generalizing r with
  | nil => simp
  | cons op ops ih =>
    rw [after_cons, ih]
    cases op with
    | register index name =>
      rw [isRegistered_after_register, or_assoc]
      refine or_congr Iff.rfl ⟨?_, ?_⟩
      · rintro (rfl | ⟨n, hn⟩)
        · exact ⟨name, List.mem_cons_self⟩
        · exact ⟨n, List.mem_cons_of_mem _ hn⟩
      · rintro ⟨n, hn⟩
        rcases List.mem_cons.1 hn with h | h
        · exact .inl (Operation.register.inj h).1.symm
        · exact .inr ⟨n, h⟩
    | publish index content =>
      rw [isRegistered_after_publish]
      simp

/-! ### Contents -/

theorem content?_eq_none_of_not_registered {i : Int} (h : ¬ r.isRegistered i) :
    r.content? i = none := by
  rw [Bool.not_eq_true, ← find?_eq_none_iff] at h
  simp [content?, h]

theorem content?_after_register (index : Int) (name : String) (i : Int) :
    ((perform (.register index name)).effect r).after.content? i = r.content? i := by
  rw [content?, find?_after_register, content?]
  cases r.find? i with
  | some entry => rfl
  | none => by_cases h : index = i <;> simp [h]

theorem content?_after_publish (index : Int) (content : Option Value) (i : Int) :
    ((perform (.publish index content)).effect r).after.content? i =
      if index = i ∧ r.isRegistered i then content else r.content? i := by
  rw [content?, find?_after_publish, content?, ← isSome_find?]
  cases hf : r.find? i with
  | none => simp
  | some entry =>
    have hindex := r.index_of_find? hf
    by_cases h : index = i
    · simp [Entry.write, hindex, h]
    · simp [Entry.write, hindex, h, Ne.symm h]

/-- Registrations leave every content alone, and so does publishing at other indices. -/
theorem content?_after_of_not_published {ops : List Operation} {i : Int}
    (h : ∀ content, .publish i content ∉ ops) : (r.after ops).content? i = r.content? i := by
  refine after_induction r (P := fun s => s.content? i = r.content? i) ?_ rfl
  rintro (⟨index, name⟩ | ⟨index, content⟩) hop s hs
  · rw [content?_after_register, hs]
  · have hne : index ≠ i := by
      rintro rfl
      exact h content hop
    rw [content?_after_publish, if_neg (fun hand => hne hand.1), hs]

/-- If all that is published at a registered index agrees, that is its content afterwards. -/
theorem content?_after_of_mem {ops : List Operation} {i : Int} {content : Option Value}
    (hr : r.isRegistered i) (hmem : .publish i content ∈ ops)
    (hagree : ∀ other, .publish i other ∈ ops → other = content) :
    (r.after ops).content? i = content := by
  -- Induction on the operations. What a later one publishes at the index wins, and it agrees.
  induction ops generalizing r with
  | nil => simp at hmem
  | cons op ops ih =>
    have hagree' : ∀ other, .publish i other ∈ ops → other = content := by
      intro other h
      exact hagree other (List.mem_cons_of_mem _ h)
    rw [after_cons]
    by_cases hlater : .publish i content ∈ ops
    · apply ih _ ?_ hlater hagree'
      cases op with
      | register index name =>
        rw [isRegistered_after_register]
        exact .inl hr
      | publish index content =>
        rw [isRegistered_after_publish]
        exact hr
    · obtain rfl : op = .publish i content := by
        rcases List.mem_cons.1 hmem with h | h
        · exact h.symm
        · exact absurd h hlater
      rw [content?_after_of_not_published, content?_after_publish, if_pos ⟨rfl, hr⟩]
      intro other h
      exact hlater (hagree' other h ▸ h)

/-! ### Writes -/

theorem register_notMem_writes (ws : List (Int × Value)) (index : Int) (name : String) :
    .register index name ∉ ws.map Operation.write := by
  simp [Operation.write]

theorem publish_mem_writes_iff {ws : List (Int × Value)} {i : Int} {content : Option Value} :
    .publish i content ∈ ws.map Operation.write ↔ ∃ v, (i, v) ∈ ws ∧ content = some v := by
  rw [List.mem_map]
  constructor
  · rintro ⟨⟨i, v⟩, hmem, h⟩
    obtain ⟨rfl, rfl⟩ := Operation.publish.inj h
    exact ⟨v, hmem, rfl⟩
  · rintro ⟨v, hmem, rfl⟩
    exact ⟨_, hmem, rfl⟩

theorem isRegistered_after_writes (ws : List (Int × Value)) (i : Int) :
    (r.after (ws.map .write)).isRegistered i = r.isRegistered i := by
  rw [Bool.eq_iff_iff, isRegistered_after]
  apply or_iff_left
  rintro ⟨name, h⟩
  exact register_notMem_writes ws i name h

/-- Writes that agree on what each index is to show leave it there wherever they reach a value. -/
theorem content?_after_writes {ws : List (Int × Value)} {shown : Int → Option Value}
    (h : ∀ w ∈ ws, shown w.1 = some w.2) (i : Int) :
    (r.after (ws.map .write)).content? i =
      if r.isRegistered i ∧ i ∈ ws.map Prod.fst then shown i else r.content? i := by
  by_cases hi : r.isRegistered i ∧ i ∈ ws.map Prod.fst
  · rw [if_pos hi]
    obtain ⟨hr, hmem⟩ := hi
    obtain ⟨w, hw, rfl⟩ := List.mem_map.1 hmem
    have hpublished : .publish w.1 (shown w.1) ∈ ws.map Operation.write :=
      publish_mem_writes_iff.2 ⟨w.2, hw, h w hw⟩
    apply content?_after_of_mem r hr hpublished
    intro other hother
    obtain ⟨v, hv, rfl⟩ := publish_mem_writes_iff.1 hother
    exact (h _ hv).symm
  · rw [if_neg hi]
    by_cases hr : r.isRegistered i
    · apply content?_after_of_not_published r
      intro content hpublished
      obtain ⟨v, hv, -⟩ := publish_mem_writes_iff.1 hpublished
      exact hi ⟨hr, List.mem_map.2 ⟨_, hv, rfl⟩⟩
    · have hr' : ¬ (r.after (ws.map .write)).isRegistered i := by
        rwa [isRegistered_after_writes]
      rw [content?_eq_none_of_not_registered r hr, content?_eq_none_of_not_registered _ hr']

/-! ### Indices and names -/

/-- Publishing touches no index and no name. -/
theorem labels_after_publish (index : Int) (content : Option Value) :
    ((perform (.publish index content)).effect r).after.labels = r.labels := by
  rw [perform, effect_publish]
  split
  · rfl
  · split
    · rfl
    · simp only [labels, List.map_map]
      refine List.map_congr_left fun e _ => ?_
      simp only [Function.comp_apply, Entry.write]
      split <;> rfl

theorem labels_after_of_not_registering {ops : List Operation}
    (h : ∀ index name, .register index name ∉ ops) : (r.after ops).labels = r.labels := by
  refine after_induction r (P := fun s => s.labels = r.labels) ?_ rfl
  rintro (⟨index, name⟩ | ⟨index, content⟩) hop s hs
  · exact absurd hop (h index name)
  · rw [labels_after_publish, hs]

/-! ### Registrations in a row -/

/-- The entries for those of some indices and names that are not registered, in order and without
content. -/
def missing (ls : List (Int × String)) : List Entry :=
  (ls.filter fun l => !r.isRegistered l.1).map fun l =>
    { index := l.1, name := l.2, content := none }

/-- Registering different indices appends the entries that are missing. -/
theorem entries_after_adds {ls : List (Int × String)} (h : (ls.map Prod.fst).Nodup) :
    (r.after (ls.map .add)).entries = r.entries ++ r.missing ls := by
  -- Induction on the indices. The first one is none of the later ones, so that these are missing
  -- after it if they were missing before.
  induction ls generalizing r with
  | nil => exact (List.append_nil _).symm
  | cons l ls ih =>
    obtain ⟨hl, hrest⟩ := List.nodup_cons.1 h
    rw [List.map_cons, after_cons, ih _ hrest]
    by_cases hr : r.isRegistered l.1
    · rw [Operation.add, perform, effect_register, if_pos hr]
      simp [missing, hr]
    · have hlater : ((perform (.add l)).effect r).after.missing ls = r.missing ls := by
        refine congrArg _ (List.filter_congr fun l' hl' => congrArg not (Bool.eq_iff_iff.2 ?_))
        have hne : l.1 ≠ l'.1 := by
          intro heq
          exact hl (heq ▸ List.mem_map_of_mem hl')
        rw [Operation.add, isRegistered_after_register]
        exact or_iff_left hne
      rw [hlater, Operation.add, perform, effect_register, if_neg hr]
      simp [missing, hr]

/-! ### Idle operations -/

/-- An operation that finds nothing to do: the index is registered already, or the content is
there already, or lost. -/
def Idle : Operation → Prop
  | .register index _ => r.isRegistered index
  | .publish index content => ∀ entry, r.find? index = some entry → entry.content = content

theorem effect_perform_of_idle {op : Operation} (h : r.Idle op) :
    (perform op).effect r = ⟨.ok (), r, []⟩ := by
  cases op with
  | register index name =>
    have hr : r.isRegistered index = true := h
    rw [perform, effect_register, if_pos hr]
  | publish index content =>
    rw [perform, effect_publish]
    cases hf : r.find? index with
    | none => rfl
    | some entry => exact if_pos (h entry hf)

/-- Idle operations change nothing and announce nothing. -/
theorem effect_each_of_idle {ops : List Operation} (h : ∀ op ∈ ops, r.Idle op) :
    (Act.each perform ops).effect r = ⟨.ok (), r, []⟩ := by
  induction ops with
  | nil => rfl
  | cons op ops ih =>
    have hrest : ∀ op' ∈ ops, r.Idle op' := by
      intro op' hop
      exact h op' (List.mem_cons_of_mem _ hop)
    rw [Act.each, Act.effect_bind, effect_perform_of_idle r (h op List.mem_cons_self),
      Effect.andThen_ok, ih hrest, Effect.behind_nil]

theorem after_of_idle {ops : List Operation} (h : ∀ op ∈ ops, r.Idle op) : r.after ops = r :=
  congrArg Effect.after (effect_each_of_idle r h)

theorem idle_publish {index : Int} {content : Option Value}
    (h : r.isRegistered index → r.content? index = content) : r.Idle (.publish index content) := by
  intro entry hf
  have hr : r.isRegistered index := by
    rw [← isSome_find?, hf]
    rfl
  simpa [content?, hf] using h hr

/-- What was registered is registered, so that registering it once more is idle. -/
theorem idle_after_adds (ls : List (Int × String)) :
    ∀ op ∈ ls.map Operation.add, (r.after (ls.map .add)).Idle op := by
  intro op hop
  obtain ⟨l, -, rfl⟩ := List.mem_map.1 hop
  exact (r.isRegistered_after _ _).2 (.inr ⟨l.2, hop⟩)

end Registry

end MeshAlarm
