import Mathlib.Data.List.Induction
import MeshAlarm.Act

/-!
# The effect of an action

What an action does, its log records aside: the answer or the fault, the state afterwards, and what
was emitted. Two actions that differ only in what they log have the same effect, so that effects are
computed without a look at any wording.

A part acts inside a whole by acting alone; then the whole carries out what the part emitted. If
nothing of that can fail, the whole answers as the part does.

## Main definitions

* `Effect`, `Act.effect`: what an action comes to, its log records aside
* `Act.each`: carries out emissions one by one
* `Act.Answers`: actions that never fail
* `Act.LeavesNoTrace`: actions that fail without a trace, if they fail
* `Act.afterAll`: the state after calls in a row
* `Act.transcript`, `Act.answered`: the calls with their results, and the calls that did not fail

## Main results

* `Act.effect_bind`: the effect of two actions in a row
* `Act.effect_inside`: the effect of a part that acts in a whole
* `Act.afterAll_history`: what holds of the calls so far and the state, after any calls
* `Act.transcript_concat`, `Act.answered_concat`: what one more call adds
* `Act.Keeps.inside`: what a whole keeps while its part acts
-/

namespace MeshAlarm

variable {σ τ α α' β γ : Type}

/-- What an action comes to, its log records aside: the answer or the fault, the state afterwards,
and what was emitted. -/
@[ext] structure Effect (σ α β : Type) where
  result : Except Fault β
  after : σ
  emitted : List α

namespace Effect

/-- An effect behind what was emitted before. -/
def behind (before : List α) (e : Effect σ α β) : Effect σ α β :=
  { e with emitted := before ++ e.emitted }

/-- The effect of going on, unless there was a fault. -/
def andThen (e : Effect σ α β) (next : β → σ → Effect σ α γ) : Effect σ α γ :=
  match e.result with
  | .ok b => (next b e.after).behind e.emitted
  | .error fault => ⟨.error fault, e.after, e.emitted⟩

@[simp] theorem behind_mk (before emitted : List α) (result : Except Fault β) (s : σ) :
    behind before ⟨result, s, emitted⟩ = ⟨result, s, before ++ emitted⟩ := rfl

@[simp] theorem behind_nil (e : Effect σ α β) : e.behind [] = e := rfl

@[simp] theorem behind_behind (before earlier : List α) (e : Effect σ α β) :
    (e.behind before).behind earlier = e.behind (earlier ++ before) := by
  simp [behind]

@[simp] theorem behind_result (before : List α) (e : Effect σ α β) :
    (e.behind before).result = e.result := rfl

@[simp] theorem behind_after (before : List α) (e : Effect σ α β) :
    (e.behind before).after = e.after := rfl

@[simp] theorem behind_emitted (before : List α) (e : Effect σ α β) :
    (e.behind before).emitted = before ++ e.emitted := rfl

@[simp] theorem andThen_ok (b : β) (s : σ) (emitted : List α) (next : β → σ → Effect σ α γ) :
    andThen ⟨.ok b, s, emitted⟩ next = (next b s).behind emitted := rfl

@[simp] theorem andThen_error (fault : Fault) (s : σ) (emitted : List α)
    (next : β → σ → Effect σ α γ) :
    andThen ⟨.error fault, s, emitted⟩ next = ⟨.error fault, s, emitted⟩ := rfl

end Effect

namespace Act

/-- The effect of an action in a state. -/
def effect (m : Act σ α β) (s : σ) : Effect σ α β :=
  ⟨(m.run s).result, (m.run s).after, (m.run s).trace.emissions⟩

theorem run_of_effect {m : Act σ α β} {s s' : σ} {result : Except Fault β} {emitted : List α}
    (h : m.effect s = ⟨result, s', emitted⟩) :
    (m.run s).result = result ∧ (m.run s).after = s' ∧ (m.run s).trace.emissions = emitted :=
  Effect.mk.inj h

theorem effect_of_result {m : Act σ α β} {s : σ} {b : β} (h : (m.run s).result = .ok b) :
    m.effect s = ⟨.ok b, (m.run s).after, (m.run s).trace.emissions⟩ := by
  rw [effect, h]

theorem after_run (m : Act σ α β) (s : σ) : (m.run s).after = (m.effect s).after := rfl

/-! ### Basic actions -/

@[simp] theorem effect_pure (b : β) (s : σ) : (pure b : Act σ α β).effect s = ⟨.ok b, s, []⟩ := rfl

@[simp] theorem effect_bind (m : Act σ α β) (f : β → Act σ α γ) (s : σ) :
    (m >>= f).effect s = (m.effect s).andThen fun b => (f b).effect := by
  rcases h : m.run s with ⟨_ | b, s', t⟩
  · simp [effect, run_bind_of_error h, h]
  · simp [effect, run_bind_of_ok h, h]

@[simp] theorem effect_map (f : β → γ) (m : Act σ α β) (s : σ) :
    (f <$> m).effect s = (m.effect s).andThen fun b s' => ⟨.ok (f b), s', []⟩ := by
  rw [map_eq_pure_bind, effect_bind]
  rfl

@[simp] theorem effect_fail (fault : Fault) (s : σ) :
    (fail fault : Act σ α β).effect s = ⟨.error fault, s, []⟩ := rfl

@[simp] theorem effect_ofExcept (result : Except Fault β) (s : σ) :
    (ofExcept result : Act σ α β).effect s = ⟨result, s, []⟩ := rfl

@[simp] theorem effect_log (level : Log.Level) (text : String) (s : σ) :
    (log level text : Act σ α Unit).effect s = ⟨.ok (), s, []⟩ := rfl

theorem emissions_logs (records : List Log.Record) :
    Trace.emissions (records.map .log : Trace α) = [] := by
  induction records with
  | nil => rfl
  | cons record records ih => rw [List.map_cons, Trace.emissions_log, ih]

@[simp] theorem effect_logAll (records : List Log.Record) (s : σ) :
    (logAll records : Act σ α Unit).effect s = ⟨.ok (), s, []⟩ := by
  simp [effect, emissions_logs]

@[simp] theorem effect_emit (emission : α) (s : σ) :
    (emit emission : Act σ α Unit).effect s = ⟨.ok (), s, [emission]⟩ := rfl

@[simp] theorem effect_read (s : σ) : (read : Act σ α σ).effect s = ⟨.ok s, s, []⟩ := rfl

@[simp] theorem effect_update (f : σ → σ) (s : σ) :
    (update f : Act σ α Unit).effect s = ⟨.ok (), f s, []⟩ := rfl

@[simp] theorem effect_replay (trace : Trace α) (s : σ) :
    (replay trace : Act σ α Unit).effect s = ⟨.ok (), s, trace.emissions⟩ := rfl

@[simp] theorem effect_during (t : τ) (m : Act τ α β) (s : σ) :
    (during t m : Act σ α β).effect s = ⟨(m.effect t).result, s, (m.effect t).emitted⟩ := rfl

@[simp] theorem effect_attempt (m : Act σ α β) (s : σ) :
    (attempt m).effect s = ⟨.ok (m.effect s).result, (m.effect s).after, (m.effect s).emitted⟩ :=
  rfl

/-! ### Parts and wholes -/

/-- Carries out emissions one by one. -/
def each (carry : α → Act σ α' Unit) : List α → Act σ α' Unit
  | [] => pure ()
  | emission :: emissions => do
    carry emission
    each carry emissions

@[simp] theorem effect_each_nil (carry : α → Act σ α' Unit) (s : σ) :
    (each carry []).effect s = ⟨.ok (), s, []⟩ := rfl

/-- Only the emissions of a trace are carried out. -/
theorem effect_carryOut (carry : α → Act σ α' Unit) (t : Trace α) (s : σ) :
    (carryOut carry t).effect s = (each carry t.emissions).effect s := by
  induction t generalizing s with
  | nil => rfl
  | cons item t ih =>
    cases item with
    | log record => simp [carryOut, ih]
    | emit emission =>
      simp only [carryOut, Trace.emissions_emit, each, effect_bind, funext ih]

/-- A whole acts as its part does, and then carries out what the part emitted. -/
theorem effect_inside (part : σ → τ) (withPart : σ → τ → σ) (carry : α → Act σ α' Unit)
    (m : Act τ α β) (s : σ) :
    (inside part withPart carry m).effect s =
      ((each carry (m.effect (part s)).emitted).effect (withPart s (m.effect (part s)).after)).andThen
        fun _ s' => ⟨(m.effect (part s)).result, s', []⟩ := by
  simp only [inside, effect_bind, effect_read, effect_update, Effect.andThen_ok, effect_carryOut,
    Effect.behind_nil]
  rfl

/-! ### Actions that never fail -/

/-- An action answers in every state. -/
def Answers (m : Act σ α β) : Prop :=
  ∀ s, ∃ b, (m.effect s).result = .ok b

theorem Answers.effect {m : Act σ α Unit} (h : m.Answers) (s : σ) :
    m.effect s = ⟨.ok (), (m.effect s).after, (m.effect s).emitted⟩ := by
  obtain ⟨_, hb⟩ := h s
  rw [← hb]

theorem Answers.bind {m : Act σ α β} {f : β → Act σ α γ} (hm : m.Answers)
    (hf : ∀ b, (f b).Answers) : (m >>= f).Answers := by
  intro s
  obtain ⟨b, hb⟩ := hm s
  obtain ⟨c, hc⟩ := hf b (m.effect s).after
  refine ⟨c, ?_⟩
  rw [effect_bind, Effect.andThen, hb]
  exact hc

theorem Answers.each {carry : α → Act σ α' Unit} (h : ∀ a, (carry a).Answers)
    (emissions : List α) : (Act.each carry emissions).Answers := by
  induction emissions with
  | nil =>
    intro s
    exact ⟨(), rfl⟩
  | cons a emissions ih => exact Answers.bind (h a) fun _ => ih

theorem answers_emit (emission : α) : (emit emission : Act σ α Unit).Answers :=
  fun _ => ⟨(), rfl⟩

theorem effect_each_emit (f : α → α') (emissions : List α) (s : σ) :
    (each (fun a => (emit (f a) : Act σ α' Unit)) emissions).effect s =
      ⟨.ok (), s, emissions.map f⟩ := by
  induction emissions with
  | nil => rfl
  | cons a emissions ih => simp [each, ih]

/-- If nothing that is carried out can fail, a whole answers as its part does. -/
theorem effect_inside_of_answers {part : σ → τ} {withPart : σ → τ → σ}
    {carry : α → Act σ α' Unit} (h : ∀ a, (carry a).Answers) (m : Act τ α β) (s : σ) :
    (inside part withPart carry m).effect s =
      let carried := (each carry (m.effect (part s)).emitted).effect
        (withPart s (m.effect (part s)).after)
      ⟨(m.effect (part s)).result, carried.after, carried.emitted⟩ := by
  rw [effect_inside, (Answers.each h _).effect]
  simp

/-! ### Failures without a trace -/

/-- If an action fails in a state, the state stays and nothing was emitted. -/
def LeavesNoTrace (m : Act σ α β) (s : σ) : Prop :=
  ∀ fault, (m.run s).result = .error fault →
    (m.run s).after = s ∧ (m.run s).trace.emissions = []

theorem leavesNoTrace_of_ok {m : Act σ α β} {s s' : σ} {b : β} {emitted : List α}
    (h : m.effect s = ⟨.ok b, s', emitted⟩) : m.LeavesNoTrace s := by
  intro fault hfault
  rw [(run_of_effect h).1] at hfault
  cases hfault

theorem leavesNoTrace_of_error {m : Act σ α β} {s : σ} {fault : Fault}
    (h : m.effect s = ⟨.error fault, s, []⟩) : m.LeavesNoTrace s :=
  fun _ _ => (run_of_effect h).2

/-! ### Actions in a row -/

variable {ι : Type}

/-- The state after calls in a row, whether they answer or fail. -/
def afterAll (act : ι → Act σ α β) (s : σ) (calls : List ι) : σ :=
  calls.foldl (fun s call => ((act call).run s).after) s

theorem afterAll_concat (act : ι → Act σ α β) (s : σ) (calls : List ι) (call : ι) :
    afterAll act s (calls ++ [call]) = ((act call).run (afterAll act s calls)).after := by
  simp [afterAll]

@[simp] theorem after_map (f : β → γ) (m : Act σ α β) (s : σ) :
    ((f <$> m).run s).after = (m.run s).after := by
  rw [after_run, after_run, effect_map, Effect.andThen]
  split <;> rfl

theorem result_map_of_ok {f : β → γ} {m : Act σ α β} {s : σ} {b : β}
    (h : (m.run s).result = .ok b) : ((f <$> m).run s).result = .ok (f b) := by
  have heffect : (m.effect s).result = .ok b := h
  change ((f <$> m).effect s).result = .ok (f b)
  rw [effect_map, Effect.andThen, heffect]
  rfl

theorem result_map_of_error {f : β → γ} {m : Act σ α β} {s : σ} {fault : Fault}
    (h : (m.run s).result = .error fault) : ((f <$> m).run s).result = .error fault := by
  have heffect : (m.effect s).result = .error fault := h
  change ((f <$> m).effect s).result = .error fault
  rw [effect_map, Effect.andThen, heffect]

/-- What holds of the calls so far and the state holds after any calls, if each call extends it. -/
theorem afterAll_history {act : ι → Act σ α β} {P : List ι → σ → Prop} {s : σ} (start : P [] s)
    (step : ∀ past call s, P past s → P (past ++ [call]) ((act call).run s).after)
    (calls : List ι) : P calls (afterAll act s calls) := by
  -- Induction from the end: the last call comes on top of the history of all the others.
  induction calls using List.reverseRecOn with
  | nil => exact start
  | append_singleton past call ih =>
    rw [afterAll_concat]
    exact step past call _ ih

/-- Calls in a row, each with its answer or its fault. -/
def transcript (act : ι → Act σ α β) (s : σ) : List ι → List (ι × Except Fault β)
  | [] => []
  | call :: calls =>
    (call, ((act call).run s).result) :: transcript act ((act call).run s).after calls

theorem transcript_concat (act : ι → Act σ α β) (s : σ) (calls : List ι) (call : ι) :
    transcript act s (calls ++ [call]) =
      transcript act s calls ++ [(call, ((act call).run (afterAll act s calls)).result)] := by
  induction calls generalizing s with
  | nil => rfl
  | cons first calls ih =>
    rw [List.cons_append, transcript, ih, transcript, List.cons_append]
    rfl

/-- A call that did not fail, given its result. -/
def answered? : ι × Except Fault β → Option ι
  | (call, .ok _) => some call
  | (_, .error _) => none

/-- The calls in a row that did not fail, in order. -/
def answered (act : ι → Act σ α β) (s : σ) (calls : List ι) : List ι :=
  (transcript act s calls).filterMap answered?

theorem answered_concat (act : ι → Act σ α β) (s : σ) (calls : List ι) (call : ι) :
    answered act s (calls ++ [call]) = answered act s calls ++
      (answered? (call, ((act call).run (afterAll act s calls)).result)).toList := by
  rw [answered, transcript_concat, List.filterMap_append]
  cases ((act call).run (afterAll act s calls)).result <;> rfl

/-- The last thing that a history shows is what its last call shows, if it shows anything. -/
theorem getLastD_filterMap_concat {κ : Type} (view : ι → Option κ) (past : List ι) (call : ι)
    (start : κ) : ((past ++ [call]).filterMap view).getLastD start =
      (view call).getD ((past.filterMap view).getLastD start) := by
  rw [List.filterMap_append]
  cases hview : view call <;> simp [hview]

/-! ### Kept properties -/

theorem after_bind_of_ok {m : Act σ α β} {s : σ} {b : β} (h : (m.effect s).result = .ok b)
    (f : β → Act σ α γ) : ((m >>= f).run s).after = ((f b).run (m.effect s).after).after := by
  rw [after_run, effect_bind, Effect.andThen, h]
  rfl

theorem after_bind_of_error {m : Act σ α β} {s : σ} {fault : Fault}
    (h : (m.effect s).result = .error fault) (f : β → Act σ α γ) :
    ((m >>= f).run s).after = (m.effect s).after := by
  rw [after_run, effect_bind, Effect.andThen, h]

variable {P : σ → Prop}

theorem Keeps.each {carry : α → Act σ α' Unit} (h : ∀ a, (carry a).Keeps P)
    (emissions : List α) : (Act.each carry emissions).Keeps P := by
  induction emissions with
  | nil => exact Keeps.pure ()
  | cons a emissions ih => exact Keeps.bind (h a) fun _ => ih

/-- A whole keeps what replacing the part keeps and carrying out keeps. -/
theorem Keeps.inside {part : σ → τ} {withPart : σ → τ → σ} {carry : α → Act σ α' Unit}
    {m : Act τ α β} (hm : ∀ s, P s → P (withPart s (m.run (part s)).after))
    (hc : ∀ a, (carry a).Keeps P) : (Act.inside part withPart carry m).Keeps P := by
  intro s hs
  have hwith : P (withPart s (m.run (part s)).after) := hm s hs
  exact Keeps.bind (Keeps.carryOut hc _) (fun _ _ h => h) _ hwith

end Act

end MeshAlarm
