import MeshAlarm.Proofs.Decoding
import MeshAlarm.Proofs.Packet

/-!
# Reading by position

Payloads can also be read without taking them apart: look at the length first, then at the bytes at
fixed positions, where a position behind the last byte is a fault. The lengths that are asked for
first are the right ones: no position that is then looked at lies outside, and the events are the
same.

## Main definitions

* `entryAt`: the entry of a list at a position, or a fault
* `Report.byPosition`, `SupportedReport.byPosition`, `Get.byPosition`, `LockState.byPosition`:
  readings by position
* `Event.byPosition`: the event of a payload, read by position

## Main results

* `Event.byPosition_eq`: no position lies outside, and the events are the same
-/

namespace MeshAlarm

/-- The entry at a position. A position outside is a fault. -/
def entryAt {α : Type} (entries : List α) (position : Nat) : Except Fault α :=
  match entries[position]? with
  | some entry => .ok entry
  | none => .error .noByteHere

section Entries

variable {α : Type}

@[simp] theorem entryAt_cons_zero (entry : α) (rest : List α) :
    entryAt (entry :: rest) 0 = .ok entry := rfl

@[simp] theorem entryAt_cons_succ (entry : α) (rest : List α) (position : Nat) :
    entryAt (entry :: rest) (position + 1) = entryAt rest position := rfl

theorem entryAt_of_lt {entries : List α} {position : Nat} (h : position < entries.length) :
    entryAt entries position = .ok entries[position] := by
  rw [entryAt, List.getElem?_eq_getElem h]

end Entries

/-! ### Reports -/

namespace LockState

/-- The state that an alarm type stands for, looked up in the table. -/
def byPosition (alarmType : Int) : Except Fault (Option LockState) :=
  if Covers alarmType then some <$> entryAt all (alarmType - firstAlarmType).toNat else .ok none

theorem byPosition_eq (alarmType : Int) : byPosition alarmType = .ok (ofAlarmType? alarmType) := by
  rw [byPosition, ofAlarmType?]
  split
  · next hcovers =>
    rw [entryAt_of_lt hcovers.lt_length_all, List.getElem?_eq_getElem hcovers.lt_length_all]
    rfl
  · rfl

end LockState

namespace Report

/-- The length of a payload with the extended fields, command byte included. -/
def extendedLength : Nat := 7

/-- Reads a report by position. -/
def byPosition (version : Int) (data : List UInt8) : Except Fault Report :=
  let length := data.length + 1
  if length < Layout.report.minimumLength then .error (.undecodable (.tooShort .report length))
  else do
    let alarmType ← entryAt data 0
    let level ← entryAt data 1
    let _ ← LockState.byPosition alarmType.toNat
    if version = 1 ∨ length < extendedLength then
      return { alarmType := alarmType.toNat, level := level.toNat }
    else
      let source ← entryAt data 2
      let status ← entryAt data 3
      let eventType ← entryAt data 4
      let parameter ← entryAt data 5
      return {
        alarmType := alarmType.toNat
        level := level.toNat
        sourceNodeId := some source.toNat
        status := some status.toNat
        eventType := some eventType.toNat
        eventParameter := some parameter.toNat }

/-- A report that is long enough is read by position as far as its layout goes. -/
theorem byPosition_of_long {version : Int} (alarmType level : UInt8) (rest : List UInt8) :
    byPosition version (alarmType :: level :: rest) =
      (decode version (alarmType :: level :: rest)).mapError .undecodable := by
  have hlong : ¬ (alarmType :: level :: rest).length + 1 < Layout.report.minimumLength := by
    show ¬ rest.length + 1 + 1 + 1 < 3
    omega
  have hlength : (alarmType :: level :: rest).length + 1 < extendedLength ↔ rest.length < 4 := by
    show rest.length + 1 + 1 + 1 < 7 ↔ _
    omega
  rw [byPosition, if_neg hlong]
  simp only [entryAt_cons_zero, entryAt_cons_succ, LockState.byPosition_eq, ok_bind, hlength]
  by_cases hbasic : version = 1 ∨ rest.length < 4
  · rw [if_pos hbasic, decode_basic hbasic]
    rfl
  · rw [if_neg hbasic]
    obtain ⟨hversion, hrest⟩ := not_or.1 hbasic
    obtain ⟨source, status, eventType, parameter, more, rfl⟩ := exists_eq_extended hrest
    rw [decode_extended hversion]
    rfl

theorem byPosition_eq (version : Int) (data : List UInt8) :
    byPosition version data = (decode version data).mapError .undecodable := by
  match data with
  | [] => rfl
  | [_] => rfl
  | alarmType :: level :: rest => exact byPosition_of_long alarmType level rest

end Report

/-! ### Supported reports and requests -/

namespace SupportedReport

/-- Reads a supported report by position. The bitmap is cut to what is there. -/
def byPosition (data : List UInt8) : Except Fault SupportedReport :=
  let length := data.length + 1
  if length < Layout.supportedReport.minimumLength then
    .error (.undecodable (.tooShort .supportedReport length))
  else do
    let announced ← entryAt data 0
    let bitmap := (data.drop 1).take announced.toNat
    let positions := Bitmap.positions bitmap
    return {
      supported := knownTypes positions
      unrecognized := (unknownPositions positions).map Int.ofNat
      truncated := bitmap.length < announced.toNat }

theorem byPosition_eq (data : List UInt8) :
    byPosition data = (decode data).mapError .undecodable := by
  cases data with
  | nil => rfl
  | cons announced rest =>
    have hlong : ¬ (announced :: rest).length + 1 < Layout.supportedReport.minimumLength := by
      show ¬ rest.length + 1 + 1 < 2
      omega
    rw [byPosition, if_neg hlong, entryAt_cons_zero, ok_bind]
    rfl

end SupportedReport

namespace Get

/-- Reads a Get by position. The flag is missing if there are no more bytes. -/
def byPosition (version : Int) (data : List UInt8) : Except Fault Get :=
  if version = 1 ∨ data.length < 2 then .ok {}
  else do
    let eventType ← entryAt data 1
    return {
      eventType := EventType.ofOrdinal? eventType.toNat
      firstEvent := (data.drop 2).take 1 == [firstEventFlag] }

theorem byPosition_eq (version : Int) (data : List UInt8) :
    byPosition version data = .ok (decode version data) := by
  match data with
  | [] => simp [byPosition, decode]
  | [_] => simp [byPosition, decode]
  | reserved :: eventType :: rest =>
    have hflag : ((rest.take 1 == [firstEventFlag]) = (rest.head? == some firstEventFlag)) := by
      cases rest <;> simp
    by_cases hversion : version = 1
    · simp [byPosition, decode, hversion]
    · simp [byPosition, decode, hversion, hflag, pure, Except.pure]

end Get

/-! ### Events -/

namespace Event

/-- Reads the event of a payload by position, after a packet taken from it in order. -/
def byPosition (version : Int) (payload : List UInt8) : Except Fault Event := do
  let p ← Packet.readInOrder payload
  match p.command with
  | .report => .report <$> Report.byPosition version p.data
  | .supportedReport => .supported <$> SupportedReport.byPosition p.data
  | .get => .get <$> Get.byPosition version p.data
  | .supportedGet => return .supportedGet
  | .set => throw (.undecodable (.eventless .set))

/-- No position that is looked at lies outside, and the events are the same. -/
theorem byPosition_eq (version : Int) (payload : List UInt8) :
    byPosition version payload = (ofPayload version payload).mapError .undecodable := by
  rw [byPosition, Packet.readInOrder_eq, ofPayload]
  cases Packet.decode payload with
  | error fault => rfl
  | ok p =>
    obtain ⟨command, data⟩ := p
    show _ = (decode version ⟨command, data⟩).mapError _
    cases command with
    | report =>
      simp only [decode, Except.mapError, ok_bind, Report.byPosition_eq]
      cases Report.decode version data <;> rfl
    | supportedReport =>
      simp only [decode, Except.mapError, ok_bind, SupportedReport.byPosition_eq]
      cases SupportedReport.decode data <;> rfl
    | get =>
      simp only [decode, Except.mapError, ok_bind, Get.byPosition_eq]
      rfl
    | supportedGet => rfl
    | set => rfl

end Event

end MeshAlarm
