import MeshAlarm.Proofs.CommandLine.Run
import MeshAlarm.Proofs.Controller.Values

/-!
# Runs that show one event

Decoding a payload shows one event twice: as its description, and as the values that it leaves on a
node that knows nothing else. The two come about on different ways. The description is that of the
event of the packet in the text; the values come from the payload of this packet, which a handler
reads once more. Both are the same event, for every text and at every version, so that the rows
always fit the description.

Nothing but the text can be refused, and then nothing is printed.

## Main definitions

* `DecodeTask.event`: the event that is to be shown, or why there is none
* `DecodeTask.shown`: the lines that show an event
* `ShowsOneEvent`: how a run ends that decodes a payload, and what it writes

## Main results

* `entries_firstPayload`: the values after a payload are those of its event
* `effect_decodePayload_of_ok`, `effect_decodePayload_of_error`: what decoding prints
* `shows_one_event`: runs that decode a payload show one event
-/

namespace MeshAlarm

/-- What cannot be decoded is a bad value. -/
theorem Fault.isBadValue_of_mapError {β : Type} {result : Except DecodeFault β} {fault : Fault}
    (h : result.mapError undecodable = .error fault) : fault.kind.isBadValue := by
  obtain ⟨cause, -, rfl⟩ := mapError_eq_error_iff.1 h
  cases cause <;> rfl

theorem Packet.isBadValue_of_bytesOfHex {text : String} {fault : Fault}
    (h : bytesOfHex text = .error fault) : fault.kind.isBadValue := by
  unfold bytesOfHex at h
  split at h
  · cases h
  · obtain rfl := Except.error.inj h
    rfl

namespace CommandLine

/-! ### Two ways to one event -/

/-- The values that a payload leaves on a new node are those of the event of its packet. -/
theorem entries_firstPayload {handler : Handler} {p : Packet} {event : Event}
    (h : Event.decode handler.version p = .ok event) :
    ((firstPayload p.encode).run ⟨handler, {}⟩).after.registry.entries =
      event.entries handler.legacyLockState := by
  have hregistry : ((firstPayload p.encode).run ⟨handler, {}⟩).after.registry =
      ({} : Registry).after (handler.basics ++ event.operations) := by
    obtain ⟨_, hbasics, -⟩ := Controller.effect_registerBasics ⟨handler, {}⟩
    obtain ⟨_, _, hreceive, -⟩ := Controller.effect_receive
      ⟨handler, ({} : Registry).after handler.basics⟩ p.encode
    rw [Act.after_run, Registry.after_append, ← Controller.operations_brought_encode h]
    simp only [firstPayload, Act.effect_bind, hbasics, hreceive, Effect.andThen_ok]
    rfl
  rw [hregistry]
  apply Event.entries_after rfl
  rintro report rfl
  exact (Event.inOrder_supported_of_decode h).nodup

namespace DecodeTask

/-- The event that is to be shown, or why there is none. -/
def event (task : DecodeTask) : Except Fault Event := do
  let p ← Packet.ofHex task.payload
  (Event.decode task.version p).mapError .undecodable

/-- The lines that show an event: its description, and a row for each value that it leaves. -/
def shown (task : DecodeTask) (event : Event) : List String :=
  event.describe :: Registry.rows { entries := event.entries task.legacyLockState }

variable {task : DecodeTask} {event : Event} {fault : Fault}

/-- What is refused is a bad value, be it as hexadecimal text, as a payload or as an event. -/
theorem isBadValue_of_event (h : task.event = .error fault) : fault.kind.isBadValue := by
  rcases bind_eq_error_iff.1 h with htext | ⟨p, -, hevent⟩
  · rcases bind_eq_error_iff.1 htext with hbytes | ⟨bytes, -, hpacket⟩
    · exact Packet.isBadValue_of_bytesOfHex hbytes
    · exact Fault.isBadValue_of_mapError hpacket
  · exact Fault.isBadValue_of_mapError hevent

/-- An event that is shown is that of a packet in the text. -/
theorem exists_packet_of_event (h : task.event = .ok event) :
    ∃ p, Packet.ofHex task.payload = .ok p ∧ Event.decode task.version p = .ok event := by
  obtain ⟨p, hpacket, hevent⟩ := exists_of_bind_eq_ok h
  exact ⟨p, hpacket, mapError_eq_ok_iff.1 hevent⟩

theorem inOrder_of_event {report : SupportedReport} (h : task.event = .ok (.supported report)) :
    EventType.InOrder report.supported := by
  obtain ⟨p, -, hevent⟩ := exists_packet_of_event h
  exact Event.inOrder_supported_of_decode hevent

/-! ### What is printed -/

theorem effect_readEvent_of_ok {p : Packet} (hpacket : Packet.ofHex task.payload = .ok p)
    (hevent : Event.decode task.version p = .ok event) :
    (readEvent task).effect () = ⟨.ok (p, event), (), []⟩ := by
  simp [readEvent, hpacket, hevent, Except.mapError]

theorem effect_readEvent_of_error (h : task.event = .error fault) :
    (readEvent task).effect () = ⟨.error fault, (), []⟩ := by
  rcases bind_eq_error_iff.1 h with hpacket | ⟨p, hpacket, hevent⟩
  · simp [readEvent, hpacket]
  · simp [readEvent, hpacket, hevent]

/-- At a version from one on, a packet is shown as its event. -/
theorem effect_showEvent (hv : 1 ≤ task.version) {p : Packet}
    (hevent : Event.decode task.version p = .ok event) :
    (showEvent task p event).effect () = ⟨.ok (), (), (task.shown event).map (· ++ "\n")⟩ := by
  let handler : Handler :=
    { nodeId := 1, version := task.version, legacyLockState := task.legacyLockState }
  have hcreate : Handler.create 1 task.version task.legacyLockState = .ok handler :=
    if_neg (Int.not_lt.2 hv)
  have hentries := @entries_firstPayload handler p event hevent
  simp [showEvent, hcreate, shown, Registry.rows, hentries, handler]

theorem effect_decodePayload_of_ok (hv : 1 ≤ task.version) (h : task.event = .ok event) :
    (decodePayload task).effect () =
      ⟨.ok .finished, (), (task.shown event).map (· ++ "\n")⟩ := by
  obtain ⟨p, hpacket, hevent⟩ := exists_packet_of_event h
  have hread := effect_readEvent_of_ok hpacket hevent
  rw [decodePayload, Act.effect_bind, Act.effect_log, Effect.andThen_ok, Effect.behind_nil]
  exact effect_refusing_of_ok hread (effect_showEvent hv hevent)

theorem effect_decodePayload_of_error (h : task.event = .error fault) :
    (decodePayload task).effect () = ⟨.ok (.refused (.because fault.message)), (), []⟩ := by
  have hread := effect_readEvent_of_error h
  rw [decodePayload, Act.effect_bind, Act.effect_log, Effect.andThen_ok, Effect.behind_nil]
  exact effect_refusing_of_error hread (isBadValue_of_event h)

end DecodeTask

/-! ### Runs -/

section Runs

variable {task : DecodeTask} (threshold : Log.Level) (lines : List String)

theorem run_of_event (hv : 1 ≤ task.version) {event : Event} (h : task.event = .ok event) :
    ((Task.decode task).run threshold lines).ending = .finished ∧
      ((Task.decode task).run threshold lines).output =
        String.join ((task.shown event).map (· ++ "\n")) :=
  (Task.decode task).run_of_effect threshold lines (DecodeTask.effect_decodePayload_of_ok hv h)

theorem run_of_event_fault {fault : Fault} (h : task.event = .error fault) :
    ((Task.decode task).run threshold lines).ending = .refused (.because fault.message) ∧
      ((Task.decode task).run threshold lines).output = "" :=
  (Task.decode task).run_of_effect threshold lines (DecodeTask.effect_decodePayload_of_error h)

end Runs

/-- How a run ends that decodes a payload, and what it writes. -/
structure ShowsOneEvent (task : DecodeTask) (run : Run) : Prop where
  /-- It is refused exactly if there is no event to be shown. -/
  refused : (∃ refusal, run.ending = .refused refusal) ↔ ∃ fault, task.event = .error fault
  /-- Then the value given is to blame, the fault says why, and nothing is printed. -/
  because : ∀ fault, task.event = .error fault → fault.kind.isBadValue ∧
    run.ending = .refused (.because fault.message) ∧ run.output = ""
  /-- Otherwise it ends well, and prints the lines that show the event. -/
  shows : ∀ event, task.event = .ok event → run.ending = .finished ∧
    run.output = String.join ((task.shown event).map (· ++ "\n"))
  /-- The rows of reported types are in the order of the table. -/
  inOrder : ∀ report, task.event = .ok (.supported report) → EventType.InOrder report.supported

/-- **Runs that decode a payload show one event.** Whatever text is to be decoded at a version from
one on, it is refused for what is wrong with the text or with the payload that it spells. Otherwise
the run prints the event, and the values that this event alone leaves on a node. -/
theorem shows_one_event {task : DecodeTask} (hv : 1 ≤ task.version) (threshold : Log.Level)
    (lines : List String) : ShowsOneEvent task ((Task.decode task).run threshold lines) := by
  constructor
  case refused =>
    constructor
    · rintro ⟨refusal, hrefused⟩
      cases hevent : task.event with
      | error fault => exact ⟨fault, rfl⟩
      | ok event =>
        rw [(run_of_event threshold lines hv hevent).1] at hrefused
        cases hrefused
    · rintro ⟨fault, hfault⟩
      exact ⟨_, (run_of_event_fault threshold lines hfault).1⟩
  case because =>
    intro fault hfault
    exact ⟨DecodeTask.isBadValue_of_event hfault, run_of_event_fault threshold lines hfault⟩
  case shows => exact fun event => run_of_event threshold lines hv
  case inOrder => exact fun report => DecodeTask.inOrder_of_event

/-- A lock report shows its lock state, and neither its source nor the smoke that it tells of. -/
theorem shows_lock_without_source_or_smoke :
    let task : DecodeTask := { payload := "05:12:ff 09000102", version := 2 }
    let event := Event.report {
      alarmType := 18
      level := 255
      sourceNodeId := some 9
      status := some 0
      eventType := some 1
      eventParameter := some 2 }
    let run := (Task.decode task).run .warning []
    (1 ≤ task.version ∧ task.event = .ok event) ∧ run.ending = .finished ∧
      run.output = String.join [event.describe, "\n",
        "    0 Alarm Type: 18\n", "    1 Alarm Level: 255\n",
        "  512 Lock State: Secured at Keypad - Success\n"] := by
  intro task event run
  have hv : 1 ≤ task.version := by decide
  have hevent : task.event = .ok event := by decide +kernel
  obtain ⟨hending, houtput⟩ := (shows_one_event hv .warning []).shows event hevent
  refine ⟨⟨hv, hevent⟩, hending, houtput.trans ?_⟩
  decide +kernel

end CommandLine

end MeshAlarm
