import MeshAlarm.Proofs.Decoding
import MeshAlarm.Proofs.Packet

/-!
# Reports, written and read

The layout of a report is chosen twice. Reading goes by the version and the length of the payload,
writing by the presence of an event type. The two agree: what was read is written as the bytes that
were read, and what was written is read with all that there was room for.

An extended field that is missing is written as zero if there is an event type. Without one no
extended field is written, and then it does not matter whether the numbers in them are bytes.

## Main definitions

* `Report.usedLength`: the number of bytes of a payload that a report is read from
* `Report.Overflows`: reports with a number that would be written and is no byte
* `Report.basic`, `Report.filled`: what is left of a report at version 1, and at the others
* `Report.WrittenAndRead`: what becomes of a report that is written

## Main results

* `Report.exists_used`: a report holds the numbers of the bytes that it was read from
* `Report.rewritten_as_prefix`: what was read is written as the bytes that were read
* `Report.decode_of_numbers`, `Report.decode_one_of_numbers`: what is read from the numbers of a
  report
* `Report.read_back_filled`: which reports can be written, and what is read back at each version
-/

namespace MeshAlarm.Report

/-! ### What was read -/

/-- The number of bytes of a payload that a report is read from. -/
def usedLength (version : Int) (length : Nat) : Nat :=
  if version = 1 ∨ length < 7 then 3 else 7

theorem usedLength_basic {version : Int} {more : Nat} (h : version = 1 ∨ more < 4) :
    usedLength version (more + 3) = 3 :=
  if_pos (h.imp_right (Nat.add_lt_add_right · 3))

theorem usedLength_extended {version : Int} {more : Nat} (hversion : version ≠ 1)
    (hmore : ¬ more < 4) : usedLength version (more + 3) = 7 :=
  if_neg (not_or.2 ⟨hversion, fun h => hmore (Nat.lt_of_add_lt_add_right h)⟩)

/-- A report holds the numbers of the bytes that it was read from. The other bytes have no say. -/
theorem exists_used (version : Int) (alarmType level : UInt8) (rest : List UInt8) :
    ∃ r used, decode version (alarmType :: level :: rest) = .ok r ∧
      decode version used = .ok r ∧ r.numbers = Bytes.toNumbers used ∧
      0x05 :: used =
        (0x05 :: alarmType :: level :: rest).take (usedLength version (rest.length + 3)) := by
  by_cases hbasic : version = 1 ∨ rest.length < 4
  · rw [usedLength_basic hbasic]
    exact ⟨_, [alarmType, level], decode_basic hbasic _ _, decode_basic (.inr (by decide)) _ _,
      rfl, rfl⟩
  · obtain ⟨hversion, hrest⟩ := not_or.1 hbasic
    rw [usedLength_extended hversion hrest]
    obtain ⟨source, status, eventType, parameter, more, rfl⟩ := exists_eq_extended hrest
    exact ⟨_, [alarmType, level, source, status, eventType, parameter],
      decode_extended hversion .., decode_extended hversion .., rfl, rfl⟩

/-- **What was read is written as the bytes that were read.** The report in a payload of three bytes
or more is written as the first three of them, or as the first seven if there are as many and the
version is not the first. The same report is read from these. -/
theorem rewritten_as_prefix (version : Int) (alarmType level : UInt8) (rest : List UInt8) :
    let payload := 0x05 :: alarmType :: level :: rest
    ∃ r packet,
      Event.ofPayload version payload = .ok (.report r) ∧ r.encode = .ok packet ∧
      packet.encode = payload.take (usedLength version payload.length) ∧
      Event.ofPayload version packet.encode = .ok (.report r) := by
  obtain ⟨r, used, hdata, hused, hnumbers, htake⟩ := exists_used version alarmType level rest
  refine ⟨r, { command := .report, data := used }, ?_, encode_of_numbers hnumbers, htake, ?_⟩
  · rw [Event.ofPayload_report, hdata]
    rfl
  · rw [Event.ofPayload_encode, Event.decode, hused]
    rfl

/-! ### What was written -/

/-- An optional field holds a number that is no byte. -/
def FieldOverflows (field : Option Int) : Prop :=
  ∃ n ∈ field, ¬ Bytes.Fits n

/-- A number that would be written is no byte. The fields behind the level are written if one of
them is an event type. -/
def Overflows (r : Report) : Prop :=
  ¬ Bytes.Fits r.alarmType ∨ ¬ Bytes.Fits r.level ∨
    r.eventType.isSome ∧
      ∃ field ∈ [r.sourceNodeId, r.status, r.eventType, r.eventParameter], FieldOverflows field

/-- What is left of a report at version 1. -/
def basic (r : Report) : Report where
  alarmType := r.alarmType
  level := r.level

/-- What is left of a report at other versions: zeros for what is missing beside an event type, and
no extended fields without one. -/
def filled (r : Report) : Report :=
  { r with
    sourceNodeId := r.eventType.map fun _ => r.sourceNodeId.getD 0
    status := r.eventType.map fun _ => r.status.getD 0
    eventParameter := r.eventType.map fun _ => r.eventParameter.getD 0 }

variable {r : Report}

/-- Zero is a byte, so that a missing number does no harm. -/
theorem fieldOverflows_iff {field : Option Int} :
    FieldOverflows field ↔ ¬ Bytes.Fits (field.getD 0) := by
  cases field with
  | none => simp [FieldOverflows, Bytes.Fits]
  | some n => simp [FieldOverflows]

theorem overflows_iff : r.Overflows ↔ ∃ n ∈ r.numbers, ¬ Bytes.Fits n := by
  unfold Overflows numbers
  cases heventType : r.eventType with
  | none => simp
  | some eventType => simp [fieldOverflows_iff]

/-- At other versions than the first, all the numbers of a report are read back. -/
theorem decode_of_numbers {bytes : List UInt8} (h : Bytes.toNumbers bytes = r.numbers)
    {version : Int} (hversion : version ≠ 1) : decode version bytes = .ok r.filled := by
  cases heventType : r.eventType with
  | none =>
    simp only [numbers, heventType, Bytes.toNumbers, List.map_eq_cons_iff, List.map_eq_nil_iff] at h
    obtain ⟨alarmType, _, rfl, ha, level, _, rfl, hl, rfl⟩ := h
    rw [decode_basic (.inr (by decide)), ha, hl]
    simp [filled, heventType]
  | some eventType =>
    simp only [numbers, heventType, Bytes.toNumbers, List.map_eq_cons_iff, List.map_eq_nil_iff] at h
    obtain ⟨alarmType, _, rfl, ha, level, _, rfl, hl, source, _, rfl, hs, status, _, rfl, ht,
      event, _, rfl, he, parameter, _, rfl, hp, rfl⟩ := h
    rw [decode_extended hversion, ha, hl, hs, ht, he, hp]
    simp [filled, heventType]

/-- Version 1 reads the first two numbers. -/
theorem decode_one_of_numbers {bytes : List UInt8} (h : Bytes.toNumbers bytes = r.numbers) :
    decode 1 bytes = .ok r.basic := by
  obtain ⟨others, hnumbers⟩ : ∃ others, r.numbers = r.alarmType :: r.level :: others := by
    unfold numbers
    cases r.eventType <;> exact ⟨_, rfl⟩
  simp only [hnumbers, Bytes.toNumbers, List.map_eq_cons_iff] at h
  obtain ⟨alarmType, _, rfl, ha, level, _, rfl, hl, -⟩ := h
  rw [decode_basic (.inl rfl), ha, hl]
  rfl

theorem exists_encode (h : ¬ r.Overflows) :
    ∃ bytes, Bytes.toNumbers bytes = r.numbers ∧
      r.encode = .ok { command := .report, data := bytes } := by
  have hsome : Bytes.ofNumbers? r.numbers ≠ none := by
    rwa [Ne, Bytes.ofNumbers?_eq_none_iff, ← overflows_iff]
  obtain ⟨bytes, hbytes⟩ := Option.ne_none_iff_exists'.1 hsome
  refine ⟨bytes, Bytes.toNumbers_of_ofNumbers? hbytes, ?_⟩
  rw [encode, hbytes]

/-- What becomes of a report that is written. -/
structure WrittenAndRead (r : Report) : Prop where
  /-- It is refused if a number that would be written is no byte. -/
  refused : (∃ fault, r.encode = .error fault ∧ fault.kind = .badValue) ↔ r.Overflows
  /-- Otherwise it is written, and read back as the version allows. -/
  readBack : r.Overflows ∨ ∃ packet, r.encode = .ok packet ∧
    (∀ version, version ≠ 1 → Event.ofPayload version packet.encode = .ok (.report r.filled)) ∧
    Event.ofPayload 1 packet.encode = .ok (.report r.basic)
  /-- What is read back stands for the same lock state. -/
  lockState : r.filled.lockState? = r.lockState? ∧ r.basic.lockState? = r.lockState?

/-- **What was written is read back, as far as the version goes.** A report of any numbers can be
written exactly if those that have to be are bytes. Version 1 then reads the alarm type and the
level; the other versions read the extended fields as well if there is an event type, and find zeros
for those that were missing. -/
theorem read_back_filled (r : Report) : WrittenAndRead r := by
  by_cases hoverflows : r.Overflows
  · have herror : r.encode = .error .byteOverflow :=
      encode_of_not_fits (overflows_iff.1 hoverflows)
    refine ⟨?_, .inl hoverflows, rfl, rfl⟩
    rw [exists_error_iff herror]
    exact iff_of_true rfl hoverflows
  · obtain ⟨bytes, hnumbers, hok⟩ := exists_encode hoverflows
    refine ⟨iff_of_false (not_exists_error hok _) hoverflows, .inr ⟨_, hok, ?_, ?_⟩, rfl, rfl⟩
    · intro version hversion
      rw [Event.ofPayload_encode, Event.decode, decode_of_numbers hnumbers hversion]
      rfl
    · rw [Event.ofPayload_encode, Event.decode, decode_one_of_numbers hnumbers]
      rfl

/-- A missing status is written as zero. A source that is no byte does no harm without an event
type. -/
example :
    encode { alarmType := 7, level := 255, sourceNodeId := some 9, eventType := some 1 } =
        .ok { command := .report, data := [0x07, 0xff, 0x09, 0x00, 0x01, 0x00] } ∧
      encode { alarmType := 7, level := 255, sourceNodeId := some 300 } =
        .ok { command := .report, data := [0x07, 0xff] } := by
  decide

end MeshAlarm.Report
