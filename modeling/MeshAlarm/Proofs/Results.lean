/-!
# Results and their faults

A result is a value or a fault. Results in a row go on from each value and end at the first fault, so
that a row of results is a value exactly if each of them is, and its fault is the fault of one of
them.

## Main results

* `exists_of_bind_eq_ok`, `bind_eq_error_iff`: what two results in a row come from
* `mapM_of_forall`, `exists_mapM_error`: a row of values, and a row with a fault
* `exists_error_iff`, `not_exists_error`, `exists_mapError_iff`: which faults a result has
-/

namespace MeshAlarm

section Results

variable {ε ε' α β γ : Type} {result : Except ε β}

/-! ### Faults -/

@[simp] theorem ok_bind (b : β) (next : β → Except ε γ) : Except.ok b >>= next = next b := rfl

@[simp] theorem error_bind (fault : ε) (next : β → Except ε γ) :
    Except.error fault >>= next = .error fault := rfl

theorem not_exists_error {b : β} (h : result = .ok b) (P : ε → Prop) :
    ¬ ∃ fault, result = .error fault ∧ P fault := by
  rintro ⟨fault, hfault, -⟩
  rw [h] at hfault
  cases hfault

theorem exists_error_iff {fault : ε} (h : result = .error fault) (P : ε → Prop) :
    (∃ other, result = .error other ∧ P other) ↔ P fault := by
  constructor
  · rintro ⟨other, hother, hP⟩
    rw [h] at hother
    cases hother
    exact hP
  · intro hP
    exact ⟨fault, h, hP⟩

/-! ### Other faults for the same results -/

theorem mapError_eq_ok_iff {f : ε → ε'} {b : β} : result.mapError f = .ok b ↔ result = .ok b := by
  cases result with
  | ok b' =>
    constructor
    · exact fun h => congrArg _ (Except.ok.inj h)
    · exact fun h => congrArg _ (Except.ok.inj h)
  | error cause => exact iff_of_false nofun nofun

theorem mapError_eq_error_iff {f : ε → ε'} {fault : ε'} :
    result.mapError f = .error fault ↔ ∃ cause, result = .error cause ∧ f cause = fault := by
  cases result with
  | ok b =>
    refine iff_of_false nofun ?_
    rintro ⟨cause, hcause, -⟩
    cases hcause
  | error cause =>
    constructor
    · exact fun h => ⟨cause, rfl, Except.error.inj h⟩
    · rintro ⟨other, hother, hfault⟩
      obtain rfl := Except.error.inj hother
      exact congrArg _ hfault

theorem exists_mapError_iff {f : ε → ε'} (P : ε' → Prop) :
    (∃ fault, result.mapError f = .error fault ∧ P fault) ↔
      ∃ fault, result = .error fault ∧ P (f fault) := by
  simp only [mapError_eq_error_iff]
  constructor
  · rintro ⟨_, ⟨cause, hcause, rfl⟩, hP⟩
    exact ⟨cause, hcause, hP⟩
  · rintro ⟨cause, hcause, hP⟩
    exact ⟨_, ⟨cause, hcause, rfl⟩, hP⟩

/-! ### Results in a row -/

theorem exists_of_bind_eq_ok {reading : Except ε α} {next : α → Except ε β} {b : β}
    (h : reading >>= next = .ok b) : ∃ a, reading = .ok a ∧ next a = .ok b := by
  cases reading with
  | error fault => cases h
  | ok a => exact ⟨a, rfl, h⟩

theorem bind_eq_error_iff {reading : Except ε α} {next : α → Except ε β} {fault : ε} :
    reading >>= next = .error fault ↔
      reading = .error fault ∨ ∃ a, reading = .ok a ∧ next a = .error fault := by
  cases reading with
  | error other => simp
  | ok a => simp

/-- If each result of a row is a value, the row is the list of the values. -/
theorem mapM_of_forall {f : α → Except ε β} {g : α → β} {as : List α}
    (h : ∀ a ∈ as, f a = .ok (g a)) : as.mapM f = .ok (as.map g) := by
  induction as with
  | nil => rfl
  | cons a as ih =>
    rw [List.mapM_cons, h a List.mem_cons_self, ih fun a' ha' => h a' (List.mem_cons_of_mem a ha')]
    rfl

/-- If one result of a row is a fault, the row is one, and has what all faults of the row have. -/
theorem exists_mapM_error {f : α → Except ε β} {P : ε → Prop} {as : List α}
    (hP : ∀ a ∈ as, ∀ fault, f a = .error fault → P fault)
    (h : ∃ a ∈ as, ∃ fault, f a = .error fault) : ∃ fault, as.mapM f = .error fault ∧ P fault := by
  induction as with
  | nil => simp at h
  | cons a as ih =>
    rw [List.mapM_cons]
    cases ha : f a with
    | error fault => exact ⟨fault, rfl, hP a List.mem_cons_self fault ha⟩
    | ok b =>
      have hrest : ∃ a' ∈ as, ∃ fault, f a' = .error fault := by
        obtain ⟨a', hmem, fault, hfault⟩ := h
        rcases List.mem_cons.1 hmem with rfl | hmem
        · rw [ha] at hfault
          cases hfault
        · exact ⟨a', hmem, fault, hfault⟩
      obtain ⟨fault, hfault, hPfault⟩ := ih (fun a' ha' => hP a' (List.mem_cons_of_mem a ha')) hrest
      refine ⟨fault, ?_, hPfault⟩
      rw [ok_bind, hfault]
      rfl

end Results

end MeshAlarm
