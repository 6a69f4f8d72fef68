import MeshAlarm.CommandLine.Run

/-!
# Runs on more lines

The input of a run may come line by line. A run that does not break off on the lines that have come
so far is the same on more lines, whatever they are. A run that does is the beginning of the run on
more lines: what it has printed and logged stays printed and logged. So a program may read its lines
one at a time, and write what each of them adds.

## Main definitions

* `Act.GoesOn`: actions that do the same, or go on where another had to stop

## Main results

* `Act.GoesOn.bind`, `Act.GoesOn.map`, `Act.GoesOn.during`: actions that end in one which goes on
* `Shell.goesOn_converse`: a conversation goes on with more lines
* `CommandLine.Task.run_append`, `CommandLine.Invocation.run_append`: runs on more lines
-/

namespace MeshAlarm

/-! ### Actions that go on -/

namespace Act

variable {σ τ α β γ : Type}

/-- An action does what another does, or the other stopped at an answer for want of more, and what it
had done by then is done first. -/
def GoesOn (IsWanting : β → Prop) (m n : Act σ α β) : Prop :=
  ∀ s, n.run s = m.run s ∨
    (∃ b, (m.run s).result = .ok b ∧ IsWanting b) ∧ (m.run s).trace <+: (n.run s).trace

namespace GoesOn

variable {IsWanting : β → Prop}

theorem refl (m : Act σ α β) : GoesOn IsWanting m m :=
  fun _ => .inl rfl

/-- Behind the same action, one of two actions goes on where the other stopped. -/
theorem bind (m : Act σ α γ) {f g : γ → Act σ α β} (h : ∀ c, GoesOn IsWanting (f c) (g c)) :
    GoesOn IsWanting (m >>= f) (m >>= g) := by
  intro s
  rcases hm : m.run s with ⟨_ | c, s', t⟩
  · exact .inl ((run_bind_of_error hm).trans (run_bind_of_error hm).symm)
  · rw [run_bind_of_ok hm, run_bind_of_ok hm]
    rcases h c s' with hsame | ⟨hwanting, htrace⟩
    · exact .inl (by rw [hsame])
    · exact .inr ⟨hwanting, (List.prefix_append_right_inj t).2 htrace⟩

/-- The answers may be told in other words. -/
theorem map {m n : Act σ α γ} {IsShort : γ → Prop} (h : GoesOn IsShort m n) (f : γ → β)
    (hf : ∀ c, IsShort c → IsWanting (f c)) :
    GoesOn IsWanting (m >>= fun c => pure (f c)) (n >>= fun c => pure (f c)) := by
  intro s
  rcases h s with hsame | ⟨⟨c, hresult, hshort⟩, htrace⟩
  · exact .inl (by rw [run_bind, run_bind, hsame])
  · right
    obtain ⟨s', t, hm⟩ : ∃ s' t, m.run s = ⟨.ok c, s', t⟩ := ⟨_, _, by rw [← hresult]⟩
    rw [run_bind_of_ok hm]
    refine ⟨⟨f c, rfl, hf c hshort⟩, ?_⟩
    rw [hm] at htrace
    rcases hn : n.run s with ⟨_ | c', s'', t'⟩ <;> rw [hn] at htrace
    · rw [run_bind_of_error hn]
      simpa using htrace
    · rw [run_bind_of_ok hn]
      simpa using htrace

theorem during (t : τ) {m n : Act τ α β} (h : GoesOn IsWanting m n) :
    GoesOn IsWanting (Act.during t m : Act σ α β) (Act.during t n) := by
  intro s
  rcases h t with hsame | hgoesOn
  · exact .inl (by rw [run_during, run_during, hsame])
  · exact .inr hgoesOn

end GoesOn

end Act

/-! ### Conversations -/

/-- A conversation that no line has ended goes on with the next one. -/
theorem Shell.goesOn_converse (lines more : List String) :
    Act.GoesOn (· = false) (converse lines) (converse (lines ++ more)) := by
  induction lines with
  | nil =>
    cases more with
    | nil => exact .refl _
    | cons line more =>
      intro e
      right
      rw [List.nil_append, converse, Act.run_bind_of_ok (Act.run_emit _ e)]
      exact ⟨⟨false, rfl, rfl⟩, List.prefix_append _ _⟩
  | cons line lines ih =>
    refine .bind _ fun _ => .bind _ fun goesOn => ?_
    cases goesOn with
    | true => exact ih
    | false => exact .refl _

namespace CommandLine

/-! ### Runs -/

variable (task : Task) (threshold : Log.Level) (lines more : List String)

theorem Task.goesOn_perform :
    Act.GoesOn (· = .aborted) (task.perform lines) (task.perform (lines ++ more)) := by
  cases task with
  | emulate settings =>
    have hconverse : Act.GoesOn (· = false)
        (if settings.interactive then Shell.converse lines else return true)
        (if settings.interactive then Shell.converse (lines ++ more) else return true) := by
      split
      · exact Shell.goesOn_converse lines more
      · exact .refl _
    refine .bind _ fun (emulator, trace) => .bind _ fun _ => ?_
    refine .map (.during emulator (.bind _ fun _ => hconverse)) _ ?_
    rintro _ rfl
    rfl
  | version | decode | request => exact .refl _

/-- A run on more lines is the same run, unless that one broke off, and then it goes on from there. -/
theorem Task.run_append :
    task.run threshold (lines ++ more) = task.run threshold lines ∨
      (task.run threshold lines).ending = .aborted ∧
        (task.run threshold lines).trace <+: (task.run threshold (lines ++ more)).trace := by
  rcases task.goesOn_perform lines more () with hsame | ⟨⟨ending, hresult, haborted⟩, htrace⟩
  · exact .inl (by rw [Task.run, Task.run, hsame])
  · right
    refine ⟨?_, (List.prefix_cons_inj _).2 htrace⟩
    rw [Task.run, ofOutcome, hresult]
    exact haborted

/-- What a command line asks for is run on lines as they come. -/
theorem Invocation.run_append (invocation : Invocation) :
    invocation.run (lines ++ more) = invocation.run lines ∨
      (invocation.run lines).ending = .aborted ∧
        (invocation.run lines).trace <+: (invocation.run (lines ++ more)).trace := by
  unfold Invocation.run
  cases invocation.task with
  | ok task => exact task.run_append _ lines more
  | error refusal => exact .inl rfl

end CommandLine

end MeshAlarm
