import MeshAlarm.CommandLine.Run
import MeshAlarm.Proofs.Emulator.Conversation

/-!
# Runs that converse stop at the first quit

An emulator whose settings are in bounds can be made, discovered and polled. If it is to converse, the
run goes on with the lines of the input up to the first that quits, and then ends well. If no line
quits, the run breaks off at a last prompt. Nothing else ends it, and no run depends on what stands
behind the first line that quits.

## Main definitions

* `EmulateTask.InBounds`: the settings of an emulator that are in bounds
* `StopsAtQuit`: how a run ends that converses, and what it writes

## Main results

* `Task.run_upToQuit`: no run depends on the lines behind the first that quits
* `Task.run_of_effect`: how the run of a task ends and what it writes
* `stops_at_first_quit`: runs that converse stop at the first quit
-/

namespace MeshAlarm.CommandLine

open Shell (Quits upToQuit turns prompt)

variable {task : EmulateTask}

/-! ### Lines that are not looked at -/

theorem Task.perform_upToQuit (lines : List String) (task : Task) :
    task.perform (upToQuit lines) = task.perform lines := by
  cases task with
  | emulate settings => simp only [Task.perform, runEmulator, Shell.converse_upToQuit]
  | version | decode | request => rfl

/-- No run depends on the lines behind the first that quits. -/
theorem Task.run_upToQuit (task : Task) (threshold : Log.Level) (lines : List String) :
    task.run threshold (upToQuit lines) = task.run threshold lines := by
  rw [Task.run, Task.run, task.perform_upToQuit]

/-! ### What is written before the first prompt -/

/-- The settings of an emulator in bounds: a version from one on, and a node id of a network. -/
structure EmulateTask.InBounds (task : EmulateTask) : Prop where
  version : 1 ≤ task.version
  nodeId : 1 ≤ task.nodeId ∧ task.nodeId ≤ 232

theorem EmulateTask.InBounds.fits (h : task.InBounds) : Bytes.Fits task.nodeId := by
  obtain ⟨hleast, hgreatest⟩ := h.nodeId
  exact ⟨by omega, by omega⟩

/-- An emulator in bounds is made, discovered and polled, and then fits its configuration. -/
theorem EmulateTask.InBounds.exists_start (h : task.InBounds) :
    ∃ e trace, Emulator.create task.configuration = .ok (e, trace) ∧
      (Emulator.discover.run e).result = .ok () ∧
      (Emulator.poll.run (Emulator.discover.run e).after).result = .ok () ∧
      (Emulator.poll.run (Emulator.discover.run e).after).after.Configured task.configuration := by
  have hv : 1 ≤ task.configuration.version := h.version
  have hid : Bytes.Fits task.configuration.nodeId := h.fits
  obtain ⟨trace, hcreate⟩ := Emulator.exists_create hv
  have hstable := (Emulator.stable_configured hv hid).invariant
  have hnew := Emulator.configured_new task.configuration
  have hdiscovered := hstable.discover none _ hnew
  have hpolled := hstable.poll none _ hdiscovered
  obtain ⟨_, _, hdiscover⟩ := Emulator.discover_answers hnew hv hid
  obtain ⟨_, _, hpoll⟩ := Emulator.poll_answers hdiscovered hv hid
  exact ⟨_, trace, hcreate, (Act.run_of_effect hdiscover).1, (Act.run_of_effect hpoll).1, hpolled⟩

/-! ### What a run writes -/

@[simp] theorem effect_printLine (line : String) :
    (printLine line).effect () = ⟨.ok (), (), [line ++ "\n"]⟩ := rfl

@[simp] theorem effect_printLines (lines : List String) :
    (printLines lines).effect () = ⟨.ok (), (), lines.map (· ++ "\n")⟩ := by
  have hemissions : Trace.emissions (lines.map fun line => .emit (line ++ "\n")) =
      lines.map (· ++ "\n") := by
    induction lines with
    | nil => rfl
    | cons line lines ih => rw [List.map_cons, Trace.emissions_emit, ih, List.map_cons]
  rw [printLines, Act.effect_replay, hemissions]

section Refusing

variable {β : Type} {answersFor : FaultKind → Bool} {m : Act Unit String β}
  {next : β → Act Unit String Unit} {written : List String}

theorem effect_refusing_of_ok {b : β} {more : List String}
    (h : m.effect () = ⟨.ok b, (), written⟩) (hnext : (next b).effect () = ⟨.ok (), (), more⟩) :
    (refusing answersFor m next).effect () = ⟨.ok .finished, (), written ++ more⟩ := by
  simp [refusing, h, hnext]

theorem effect_refusing_of_error {fault : Fault} (h : m.effect () = ⟨.error fault, (), written⟩)
    (hkind : answersFor fault.kind) : (refusing answersFor m next).effect () =
      ⟨.ok (.refused (.because fault.message)), (), written⟩ := by
  simp [refusing, h, hkind]

end Refusing

/-- How the run of a task ends, and what it writes. -/
theorem Task.run_of_effect (task : Task) (threshold : Log.Level) (lines : List String)
    {ending : Ending} {written : List String}
    (h : (task.perform lines).effect () = ⟨.ok ending, (), written⟩) :
    (task.run threshold lines).ending = ending ∧
      (task.run threshold lines).output = String.join written := by
  obtain ⟨hresult, -, hwritten⟩ := Act.run_of_effect h
  refine ⟨?_, ?_⟩
  · rw [Task.run, ofOutcome, hresult]
  · rw [Task.run, ofOutcome, Run.output, Trace.emissions_log, hwritten]

/-- An emulator that is ready takes its turns up to the first quit. -/
theorem effect_perform_emulate (h : task.InBounds) (hinteractive : task.interactive)
    {e discovered polled : Emulator} {trace : Trace String} {found shown : List String}
    (hcreate : Emulator.create task.configuration = .ok (e, trace))
    (hdiscover : Emulator.discover.effect e = ⟨.ok (), discovered, found⟩)
    (hpoll : Emulator.poll.effect discovered = ⟨.ok (), polled, shown⟩)
    (hc : polled.Configured task.configuration) (lines : List String) :
    (Task.perform lines (.emulate task)).effect () =
      ⟨.ok (if ∃ line ∈ lines, Quits line then .finished else .aborted), (),
        trace.emissions ++ found ++ shown ++ turns polled (upToQuit lines) ++
          if ∃ line ∈ lines, Quits line then [] else [prompt]⟩ := by
  have hconverse := Shell.effect_converse hc h.version h.fits lines
  simp [Task.perform, runEmulator, hcreate, Emulator.start, hinteractive, hdiscover, hpoll,
    hconverse]

/-! ### Runs -/

/-- How a run ends that converses, and what it writes: `opening` up to the first prompt, where the
emulator is `e`. -/
structure StopsAtQuit (task : Task) (threshold : Log.Level) (lines opening : List String)
    (e : Emulator) : Prop where
  /-- It ends well exactly if a line quits. -/
  finished : (task.run threshold lines).ending = .finished ↔ ∃ line ∈ lines, Quits line
  /-- It breaks off exactly if none does. -/
  aborted : (task.run threshold lines).ending = .aborted ↔ ¬ ∃ line ∈ lines, Quits line
  /-- It writes the turns with the lines up to the first that quits, and a last prompt if none
  does. -/
  output : (task.run threshold lines).output =
    String.join (opening ++ turns e (upToQuit lines) ++
      if ∃ line ∈ lines, Quits line then [] else [prompt])
  /-- It is the same run for all lines that agree up to the first that quits. -/
  unread : ∀ other, upToQuit other = upToQuit lines →
    task.run threshold other = task.run threshold lines

/-- **Runs that converse stop at the first quit.** An emulator in bounds is made, discovered and
polled, which cannot fail. If it is to converse, the run then ends well at the first line that quits,
or it breaks off at the end of the input, and nothing else ends it. -/
theorem stops_at_first_quit (h : task.InBounds) (hinteractive : task.interactive) :
    ∃ e trace, Emulator.create task.configuration = .ok (e, trace) ∧
      let discovered := Emulator.discover.run e
      let polled := Emulator.poll.run discovered.after
      discovered.result = .ok () ∧ polled.result = .ok () ∧
        ∀ threshold lines, StopsAtQuit (.emulate task) threshold lines
          (trace.emissions ++ discovered.trace.emissions ++ polled.trace.emissions)
          polled.after := by
  obtain ⟨e, trace, hcreate, hdiscover, hpoll, hc⟩ := h.exists_start
  refine ⟨e, trace, hcreate, hdiscover, hpoll, fun threshold lines => ?_⟩
  have hperform := effect_perform_emulate h hinteractive hcreate
    (Act.effect_of_result hdiscover) (Act.effect_of_result hpoll) hc lines
  obtain ⟨hending, houtput⟩ := (Task.emulate task).run_of_effect threshold lines hperform
  refine ⟨?_, ?_, houtput, ?_⟩
  · rw [hending]
    split <;> simp [*]
  · rw [hending]
    split <;> simp [*]
  · intro other hother
    rw [← Task.run_upToQuit, hother, Task.run_upToQuit]

/-- A small q among other words quits, and a longer word does not. -/
theorem stops_at_q_now :
    let task : EmulateTask := { version := 3, nodeId := 7, supported := [.smoke, .flood] }
    let run := (Task.emulate task).run .warning
    (task.InBounds ∧ task.interactive) ∧
      (run ["t smoke 2", " q now", "v"]).ending = .finished ∧
        run ["t smoke 2", " q now", "v"] = run ["t smoke 2", " q now"] ∧
          (run ["t smoke 2", "quit"]).ending = .aborted := by
  intro task run
  have hbounds : task.InBounds := ⟨by decide, by decide⟩
  obtain ⟨e, trace, -, -, -, h⟩ := stops_at_first_quit hbounds rfl
  refine ⟨⟨hbounds, rfl⟩, ?_, ?_, ?_⟩
  · exact (h _ _).finished.2 (by decide +kernel)
  · exact (h _ _).unread _ (by decide +kernel)
  · exact (h _ _).aborted.2 (by decide +kernel)

end MeshAlarm.CommandLine
