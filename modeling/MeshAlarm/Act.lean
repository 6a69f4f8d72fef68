import MeshAlarm.Fault
import MeshAlarm.Log

/-!
# Actions of a machine

A machine acts on its state, reports what it does as log records, emits what its surroundings are to
carry out, and answers or fails. All of this is data: an action takes a state to its outcome, and
the outcome holds the answer or the fault, the state afterwards and the trace, in order. What was
changed, reported and emitted before a fault stays so.

A machine may be part of a larger one. `Act.inside` lets the part act and then has the whole carry
out, one by one, what the part emitted.

## Main definitions

* `Item`, `Trace`: log records and emissions in order
* `Outcome`, `Act`: an outcome, and an action as a function from states to outcomes
* `Act.fail`, `Act.log`, `Act.emit`, `Act.read`, `Act.update`, `Act.attempt`: the basic actions
* `Act.during`: another machine acts from a state of its own
* `Act.carryOut`, `Act.inside`: the whole acts as its part does
* `Act.Keeps`: actions that keep a property of the state

The projections of the basic actions are `simp` lemmas, and `Act` is a lawful monad.
-/

namespace MeshAlarm

/-! ### Traces -/

/-- One thing that happened: a record was logged, or something was emitted. -/
inductive Item (α : Type)
  | log (record : Log.Record)
  | emit (emission : α)
  deriving DecidableEq, Repr

/-- What happened, in order. -/
abbrev Trace (α : Type) := List (Item α)

namespace Trace

variable {α : Type}

/-- The log records of a trace. -/
def records (t : Trace α) : List Log.Record :=
  t.filterMap fun
    | .log record => some record
    | .emit _ => none

/-- The emissions of a trace. -/
def emissions (t : Trace α) : List α :=
  t.filterMap fun
    | .log _ => none
    | .emit emission => some emission

@[simp] theorem emissions_nil : emissions ([] : Trace α) = [] := rfl

@[simp] theorem emissions_append (t u : Trace α) :
    emissions (t ++ u) = emissions t ++ emissions u :=
  List.filterMap_append

@[simp] theorem emissions_log (r : Log.Record) (t : Trace α) :
    emissions (.log r :: t) = emissions t := rfl

@[simp] theorem emissions_emit (a : α) (t : Trace α) :
    emissions (.emit a :: t) = a :: emissions t := rfl

end Trace

/-! ### Outcomes and actions -/

/-- What an action comes to. -/
structure Outcome (σ α β : Type) where
  /-- The answer, or why there is none. -/
  result : Except Fault β
  /-- The state afterwards. -/
  after : σ
  /-- What happened, in order. -/
  trace : Trace α

/-- An action of a machine with state `σ` that emits `α` and answers `β`. -/
structure Act (σ α β : Type) where
  /-- The outcome of the action in a state. -/
  run : σ → Outcome σ α β

namespace Act

variable {σ τ α α' β γ : Type}

@[ext] theorem ext {m n : Act σ α β} (h : ∀ s, m.run s = n.run s) : m = n := by
  cases m; cases n; congr; exact funext h

/-- Goes on from an outcome, unless it is a fault. -/
protected def andThen (o : Outcome σ α β) (f : β → Act σ α γ) : Outcome σ α γ :=
  match o.result with
  | .ok b =>
    let next := (f b).run o.after
    { next with trace := o.trace ++ next.trace }
  | .error fault => { result := .error fault, after := o.after, trace := o.trace }

instance : Monad (Act σ α) where
  pure b := ⟨fun s => { result := .ok b, after := s, trace := [] }⟩
  bind m f := ⟨fun s => Act.andThen (m.run s) f⟩

@[simp] theorem run_pure (b : β) (s : σ) :
    (pure b : Act σ α β).run s = { result := .ok b, after := s, trace := [] } := rfl

theorem run_bind (m : Act σ α β) (f : β → Act σ α γ) (s : σ) :
    (m >>= f).run s = Act.andThen (m.run s) f := rfl

protected theorem map_id (m : Act σ α β) : id <$> m = m := by
  ext s
  show Act.andThen (m.run s) _ = m.run s
  rcases h : m.run s with ⟨_ | _, _, _⟩ <;> simp [Act.andThen]

protected theorem pure_bind (b : β) (f : β → Act σ α γ) : pure b >>= f = f b := by
  ext s
  simp [run_bind, Act.andThen]

protected theorem bind_assoc {δ : Type} (m : Act σ α β) (f : β → Act σ α γ)
    (g : γ → Act σ α δ) : m >>= f >>= g = m >>= fun b => f b >>= g := by
  ext s
  simp only [run_bind]
  rcases h : m.run s with ⟨_ | b, s₁, t₁⟩
  · rfl
  · rcases h' : (f b).run s₁ with ⟨_ | c, s₂, t₂⟩ <;>
      simp [Act.andThen, run_bind, h', List.append_assoc]

instance : LawfulMonad (Act σ α) :=
  LawfulMonad.mk' (Act σ α) Act.map_id Act.pure_bind Act.bind_assoc

/-- After an action that answers, the rest runs from the state it left. -/
theorem run_bind_of_ok {m : Act σ α β} {f : β → Act σ α γ} {s s' : σ} {b : β} {t : Trace α}
    (h : m.run s = ⟨.ok b, s', t⟩) :
    (m >>= f).run s =
      ⟨((f b).run s').result, ((f b).run s').after, t ++ ((f b).run s').trace⟩ := by
  simp [run_bind, h, Act.andThen]

/-- After an action that fails, nothing runs. -/
theorem run_bind_of_error {m : Act σ α β} {f : β → Act σ α γ} {s s' : σ} {fault : Fault}
    {t : Trace α} (h : m.run s = ⟨.error fault, s', t⟩) :
    (m >>= f).run s = ⟨.error fault, s', t⟩ := by
  simp [run_bind, h, Act.andThen]

/-! ### Basic actions -/

/-- Fails. -/
def fail (fault : Fault) : Act σ α β :=
  ⟨fun s => { result := .error fault, after := s, trace := [] }⟩

/-- Answers or fails as a result says. -/
def ofExcept (result : Except Fault β) : Act σ α β :=
  ⟨fun s => { result, after := s, trace := [] }⟩

/-- Logs records. -/
def logAll (records : List Log.Record) : Act σ α Unit :=
  ⟨fun s => { result := .ok (), after := s, trace := records.map .log }⟩

/-- Logs one record. -/
def log (level : Log.Level) (text : String) : Act σ α Unit :=
  ⟨fun s => { result := .ok (), after := s, trace := [.log ⟨level, text⟩] }⟩

/-- Emits something for the surroundings to carry out. -/
def emit (emission : α) : Act σ α Unit :=
  ⟨fun s => { result := .ok (), after := s, trace := [.emit emission] }⟩

/-- Reads the state. -/
def read : Act σ α σ :=
  ⟨fun s => { result := .ok s, after := s, trace := [] }⟩

/-- Changes the state. -/
def update (f : σ → σ) : Act σ α Unit :=
  ⟨fun s => { result := .ok (), after := f s, trace := [] }⟩

/-- Repeats a trace. -/
def replay (trace : Trace α) : Act σ α Unit :=
  ⟨fun s => { result := .ok (), after := s, trace }⟩

/-- Lets another machine act from a state of its own. -/
def during (t : τ) (m : Act τ α β) : Act σ α β :=
  ⟨fun s => { m.run t with after := s }⟩

/-- Answers with the answer or the fault of an action; what it did before the fault stays. -/
def attempt (m : Act σ α β) : Act σ α (Except Fault β) :=
  ⟨fun s => { m.run s with result := .ok (m.run s).result }⟩

@[simp] theorem run_fail (fault : Fault) (s : σ) :
    (fail fault : Act σ α β).run s = ⟨.error fault, s, []⟩ := rfl

@[simp] theorem run_ofExcept (result : Except Fault β) (s : σ) :
    (ofExcept result : Act σ α β).run s = ⟨result, s, []⟩ := rfl

@[simp] theorem run_logAll (records : List Log.Record) (s : σ) :
    (logAll records : Act σ α Unit).run s = ⟨.ok (), s, records.map .log⟩ := rfl

@[simp] theorem run_log (level : Log.Level) (text : String) (s : σ) :
    (log level text : Act σ α Unit).run s = ⟨.ok (), s, [.log ⟨level, text⟩]⟩ := rfl

@[simp] theorem run_emit (emission : α) (s : σ) :
    (emit emission : Act σ α Unit).run s = ⟨.ok (), s, [.emit emission]⟩ := rfl

@[simp] theorem run_read (s : σ) : (read : Act σ α σ).run s = ⟨.ok s, s, []⟩ := rfl

@[simp] theorem run_update (f : σ → σ) (s : σ) :
    (update f : Act σ α Unit).run s = ⟨.ok (), f s, []⟩ := rfl

@[simp] theorem run_replay (trace : Trace α) (s : σ) :
    (replay trace : Act σ α Unit).run s = ⟨.ok (), s, trace⟩ := rfl

@[simp] theorem run_during (t : τ) (m : Act τ α β) (s : σ) :
    (during t m : Act σ α β).run s = ⟨(m.run t).result, s, (m.run t).trace⟩ := rfl

@[simp] theorem run_attempt (m : Act σ α β) (s : σ) :
    (attempt m).run s = ⟨.ok (m.run s).result, (m.run s).after, (m.run s).trace⟩ := rfl

/-! ### Parts and wholes -/

/-- Repeats the log records of a trace and carries out its emissions, in order. -/
def carryOut (carry : α → Act σ α' Unit) : Trace α → Act σ α' Unit
  | [] => pure ()
  | .log record :: rest => do
    log record.level record.text
    carryOut carry rest
  | .emit emission :: rest => do
    carry emission
    carryOut carry rest

/-- Lets a part of the state act, then carries out what it emitted, and answers as the part did. -/
def inside (part : σ → τ) (withPart : σ → τ → σ) (carry : α → Act σ α' Unit) (m : Act τ α β) :
    Act σ α' β := do
  let outcome := m.run (part (← read))
  update fun s => withPart s outcome.after
  carryOut carry outcome.trace
  ofExcept outcome.result

/-! ### Kept properties -/

/-- An action keeps a property of the state whether it answers or fails. -/
def Keeps (P : σ → Prop) (m : Act σ α β) : Prop :=
  ∀ s, P s → P (m.run s).after

namespace Keeps

variable {P : σ → Prop}

theorem bind {m : Act σ α β} {f : β → Act σ α γ} (hm : m.Keeps P) (hf : ∀ b, (f b).Keeps P) :
    (m >>= f).Keeps P := by
  intro s hs
  have hm := hm s hs
  rcases h : m.run s with ⟨_ | b, s', t⟩ <;> rw [h] at hm
  · rw [run_bind_of_error h]; exact hm
  · rw [run_bind_of_ok h]; exact hf b s' hm

theorem pure (b : β) : (Pure.pure b : Act σ α β).Keeps P := fun _ hs => hs

theorem carryOut {carry : α → Act σ α' Unit} (h : ∀ a, (carry a).Keeps P) (t : Trace α) :
    (Act.carryOut carry t).Keeps P := by
  induction t with
  | nil => exact pure ()
  | cons item rest ih =>
    cases item with
    | log record => exact bind (fun _ hs => hs) fun _ => ih
    | emit emission => exact bind (h emission) fun _ => ih

end Keeps

end Act

end MeshAlarm
