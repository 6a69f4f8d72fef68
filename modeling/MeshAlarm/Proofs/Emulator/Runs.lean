import MeshAlarm.Proofs.Emulator.Effect
import MeshAlarm.Shell

/-!
# Runs of an emulator

An emulator is called in any order, and calls that fail are part of a run like all others. Whatever
a call does is made of a few parts: the handler's discovery moves, packets are sent to the device, an
event is raised, or the lock turns. A property that these parts keep is kept by every run. It may
depend on the state to which the lock was last turned with success.

If the device can write its reports, then sending packets comes down to payloads in which the device
speaks of itself, and what it raises and turns is reported. What survives these is kept.

## Main definitions

* `Emulator.Call`, `Emulator.run`: the calls, and an emulator after calls
* `Emulator.turnedBy`, `Emulator.lastTurn`: the lock state that a call, and that calls turn to
* `Emulator.Invariant`: properties that the parts of a call keep
* `Emulator.Stable`: properties that survive what a device says of itself

## Main results

* `Emulator.Invariant.call`, `Emulator.Invariant.run`: an invariant is kept by a call, and by a run
* `Emulator.Stable.invariant`, `Emulator.Stable.run`: a stable property is an invariant, and so it
  survives a run
-/

namespace MeshAlarm.Emulator

/-- What an emulator is called to do. -/
inductive Call
  | start
  | discover
  | poll
  /-- A line is typed into the shell. -/
  | command (line : String)
  | raise (t : EventType) (parameter : Int)
  | turnLock (alarmType level : Int)
  | send (packets : List Packet)

def Call.act : Call → Act Emulator String Unit
  | start => Emulator.start
  | discover => Emulator.discover
  | poll => Emulator.poll
  | command line => (fun _ => ()) <$> Shell.respond line
  | raise t parameter => (fun _ => ()) <$> onDevice (Device.raise t parameter)
  | turnLock alarmType level => (fun _ => ()) <$> onDevice (Device.turnLock alarmType level)
  | send packets => Emulator.send packets

/-- An emulator after calls. -/
def run (e : Emulator) (calls : List Call) : Emulator :=
  Act.afterAll Call.act e calls

/-! ### The last turn of the lock -/

/-- The alarm type and the level with which a shell command turns the lock, if it does. -/
def commandedTurn? : Shell.Command → Option (Int × Int)
  | .lock alarmType level =>
    match Shell.lockLevel level, Shell.integer alarmType with
    | .ok level, .ok alarmType => some (alarmType, level)
    | _, _ => none
  | _ => none

/-- The alarm type and the level with which a call turns the lock, if it does. -/
def Call.turn? : Call → Option (Int × Int)
  | turnLock alarmType level => some (alarmType, level)
  | command line => commandedTurn? (.ofLine line)
  | _ => none

/-- The lock state that a turn of the lock comes to, if it succeeds. -/
def turnedTo (e : Emulator) (alarmType level : Int) : Option LockState :=
  match ((onDevice (Device.turnLock alarmType level)).run e).result with
  | .ok _ => LockState.ofAlarmType? alarmType
  | .error _ => none

/-- The lock state that a call turns to, if it turns the lock with success. -/
def turnedBy (e : Emulator) (call : Call) : Option LockState :=
  call.turn?.bind fun turn => e.turnedTo turn.1 turn.2

/-- The lock state that the last successful turn of the lock among calls came to. -/
def lastTurn (e : Emulator) : List Call → Option LockState
  | [] => none
  | call :: calls => (lastTurn (call.act.run e).after calls).or (e.turnedBy call)

/-! ### The shell -/

/-- A lock command comes to the turn that its arguments ask for, if they are numerals. -/
theorem after_execute_lock (e : Emulator) (alarmType : String) (level : Option String) :
    ((Shell.execute (.lock alarmType level)).run e).after =
      match commandedTurn? (.lock alarmType level) with
      | some turn => ((onDevice (Device.turnLock turn.1 turn.2)).run e).after
      | none => e := by
  rw [Act.after_run, Shell.execute, commandedTurn?, Act.effect_bind, Act.effect_ofExcept]
  cases Shell.lockLevel level with
  | error fault => rfl
  | ok l =>
    rw [Effect.andThen_ok, Effect.behind_nil, Act.effect_bind, Act.effect_ofExcept]
    cases Shell.integer alarmType with
    | error fault => rfl
    | ok a =>
      rw [Effect.andThen_ok, Effect.behind_nil, Act.effect_bind, Effect.andThen]
      split <;> rfl

/-- A response leaves what the command of the line leaves. -/
theorem after_respond (e : Emulator) (line : String) :
    ((Shell.respond line).run e).after = ((Shell.execute (.ofLine line)).run e).after := by
  rw [Act.after_run, Act.after_run]
  simp only [Shell.respond, Act.effect_bind, effect_print, Act.effect_attempt, Effect.andThen_ok,
    Effect.behind_after]
  cases ((Shell.execute (.ofLine line)).effect e).result with
  | ok goesOn => rfl
  | error fault => dsimp only; split <;> rfl

/-! ### Invariants -/

/-- A property of the last turn of the lock and of the emulator that the parts of a call keep; where
the lock turns, it goes over to the new lock state. -/
structure Invariant (P : Option LockState → Emulator → Prop) : Prop where
  version : ∀ lock {e}, P lock e → 1 ≤ e.controller.handler.version
  discovery : ∀ lock {e} (stage : Discovery), P lock e →
    P lock { e with controller.handler.discovery := stage }
  send : ∀ lock (packets : List Packet), (Emulator.send packets).Keeps (P lock)
  raise : ∀ lock (t : EventType) (parameter : Int), (onDevice (Device.raise t parameter)).Keeps (P lock)
  turnLock : ∀ lock (alarmType level : Int) {e}, P lock e →
    P ((e.turnedTo alarmType level).or lock)
      ((onDevice (Device.turnLock alarmType level)).run e).after

namespace Invariant

variable {P : Option LockState → Emulator → Prop} (hP : Invariant P)

include hP

/-- Building requests moves the discovery at most. -/
theorem refresh (lock : Option LockState) (scope : Scope) :
    (onController (Controller.refresh scope)).Keeps (P lock) := by
  intro e he
  rw [(Act.run_of_effect (e.effect_refresh (hP.version lock he) scope)).2.1]
  unfold Handler.refreshed
  split
  · exact hP.discovery lock _ he
  · exact he

theorem discover (lock : Option LockState) : Emulator.discover.Keeps (P lock) := by
  refine Act.Keeps.bind ?_ fun _ => ?_
  · intro e he
    exact hP.discovery lock .unknown he
  · exact Act.Keeps.bind (hP.refresh lock _) fun packets => hP.send lock packets

theorem poll (lock : Option LockState) : Emulator.poll.Keeps (P lock) :=
  Act.Keeps.bind (hP.refresh lock _) fun packets => hP.send lock packets

/-- A shell command turns the lock at most. -/
theorem execute (lock : Option LockState) (command : Shell.Command) {e : Emulator} (he : P lock e) :
    P (((commandedTurn? command).bind fun turn => e.turnedTo turn.1 turn.2).or lock)
      ((Shell.execute command).run e).after := by
  cases command with
  | discover => exact Act.Keeps.bind (hP.discover lock) (fun _ => Act.Keeps.pure _) e he
  | poll => exact Act.Keeps.bind (hP.poll lock) (fun _ => Act.Keeps.pure _) e he
  | trigger eventType parameter =>
    refine Act.Keeps.bind (fun _ h => h) (fun t => ?_) e he
    refine Act.Keeps.bind (fun _ h => h) fun n => ?_
    exact Act.Keeps.bind (hP.raise lock t n) fun _ => Act.Keeps.pure _
  | lock alarmType level =>
    rw [after_execute_lock]
    cases commandedTurn? (.lock alarmType level) with
    | none => exact he
    | some turn => exact hP.turnLock lock turn.1 turn.2 he
  | values =>
    refine Act.Keeps.bind (fun _ h => h) (fun shown => ?_) e he
    exact Act.Keeps.bind (keeps_printAll _) fun _ => Act.Keeps.pure _
  | quit => exact he
  | help => exact Act.Keeps.bind (keeps_printAll _) (fun _ => Act.Keeps.pure _) e he

theorem call (lock : Option LockState) (call : Call) {e : Emulator} (he : P lock e) :
    P ((e.turnedBy call).or lock) (call.act.run e).after := by
  cases call with
  | start => exact Act.Keeps.bind (hP.discover lock) (fun _ => hP.poll lock) e he
  | discover => exact hP.discover lock e he
  | poll => exact hP.poll lock e he
  | command line =>
    rw [Call.act, Act.after_map, after_respond]
    exact hP.execute lock (.ofLine line) he
  | raise t parameter =>
    rw [Call.act, Act.after_map]
    exact hP.raise lock t parameter e he
  | turnLock alarmType level =>
    rw [Call.act, Act.after_map]
    exact hP.turnLock lock alarmType level he
  | send packets => exact hP.send lock packets e he

theorem run (lock : Option LockState) (calls : List Call) {e : Emulator} (he : P lock e) :
    P ((e.lastTurn calls).or lock) (e.run calls) := by
  -- Induction on the calls. The last turn before them is that of the call in front, if it turned.
  induction calls generalizing lock e with
  | nil => exact he
  | cons call calls ih =>
    have hrest := ih _ (hP.call lock call he)
    rwa [← Option.or_assoc] at hrest

end Invariant

/-! ### Stable properties -/

/-- A property of the last turn of the lock and of the emulator that survives what an emulator
does. It comes with what lets the device write its reports and send them unasked, and the handler
build its requests. -/
structure Stable (P : Option LockState → Emulator → Prop) : Prop where
  fits : ∀ lock {e}, P lock e → Bytes.Fits e.device.sourceNodeId
  announces : ∀ lock {e}, P lock e → e.device.announces
  version : ∀ lock {e}, P lock e → 1 ≤ e.controller.handler.version
  discovery : ∀ lock {e} (stage : Discovery), P lock e →
    P lock { e with controller.handler.discovery := stage }
  received : ∀ lock {e payload}, P lock e → e.device.Says payload → P lock (e.received payload)
  raised : ∀ lock {e t} (parameter : UInt8), P lock e → t ∈ e.device.supported →
    let d := Device.raised t parameter e.device
    P lock (Emulator.received { e with device := d } (d.reportBytes (some t)))
  turned : ∀ lock {e state} {alarmType : UInt8} (level : UInt8), P lock e →
    LockState.ofAlarmType? alarmType.toNat = some state →
    let d := Device.turned alarmType level e.device
    P (some state) (Emulator.received { e with device := d } (d.reportBytes none))

namespace Stable

variable {P : Option LockState → Emulator → Prop} (hP : Stable P)

include hP

/-- An event is raised and reported, or fails and leaves everything as it was. -/
theorem raise (lock : Option LockState) (t : EventType) (parameter : Int) :
    (onDevice (Device.raise t parameter)).Keeps (P lock) := by
  intro e he
  by_cases h : t ∈ e.device.supported ∧ Bytes.Fits parameter
  · obtain ⟨lines, hlines⟩ :=
      e.effect_onDevice_raise (hP.fits lock he) (hP.announces lock he) h.1 h.2
    rw [(Act.run_of_effect hlines).2.1]
    exact hP.raised lock _ he h.1
  · obtain ⟨fault, heffect, -⟩ := e.device.effect_raise_of_not h
    rw [(Act.run_of_effect (e.effect_onDevice_of_error heffect)).2.1]
    exact he

/-- The lock turns and is reported, or fails to turn and leaves everything as it was. -/
theorem turnLock (lock : Option LockState) (alarmType level : Int) {e : Emulator} (he : P lock e) :
    P ((e.turnedTo alarmType level).or lock)
      ((onDevice (Device.turnLock alarmType level)).run e).after := by
  unfold turnedTo
  by_cases h : LockState.Covers alarmType ∧ Bytes.Fits level
  · obtain ⟨state, hstate⟩ := LockState.exists_ofAlarmType? h.1
    obtain ⟨lines, hlines⟩ := e.effect_onDevice_turnLock (hP.announces lock he) h.1 h.2
    obtain ⟨hresult, hafter, -⟩ := Act.run_of_effect hlines
    have hbyte : LockState.ofAlarmType? (UInt8.ofNat alarmType.toNat).toNat = some state := by
      rw [Bytes.toNat_ofNat h.1.fits, hstate]
    rw [hresult, hafter, hstate]
    exact hP.turned lock _ he hbyte
  · obtain ⟨fault, heffect, -⟩ := e.device.effect_turnLock_of_not h
    obtain ⟨hresult, hafter, -⟩ := Act.run_of_effect (e.effect_onDevice_of_error heffect)
    rw [hresult, hafter]
    exact he

theorem invariant : Invariant P where
  version := hP.version
  discovery := hP.discovery
  send lock packets := keeps_send (fun _ => hP.fits lock) (fun _ _ => hP.received lock) packets
  raise := hP.raise
  turnLock := hP.turnLock

theorem run (lock : Option LockState) (calls : List Call) {e : Emulator} (he : P lock e) :
    P ((e.lastTurn calls).or lock) (e.run calls) :=
  hP.invariant.run lock calls he

end Stable

end MeshAlarm.Emulator
