import MeshAlarm.Event
import MeshAlarm.Proofs.Bitmap
import MeshAlarm.Proofs.TypeOrder

/-!
# What payloads say

The first byte of a payload decides how the rest is read, and only reports and supported reports can
be too short for it. What a device writes is read back: a report at the version it was written for,
and the event types of a supported report in the order of the table.

## Main definitions

* `Malformed`: reports and supported reports that are too short
* `Reports`: supported reports with all the bytes they need, and what they report

## Main results

* `Event.ofPayload_of_short`, `Event.ofPayload_of_other`: the payloads that are refused
* `Event.ofPayload_eq_error_iff_malformed`: of the payloads that nodes send, the malformed ones
  carry no event
* `Event.ofPayload_eq_supported_iff`: which payloads are supported reports
* `SupportedReport.decode_whole`: a bitmap behind its own length is read to the end
* `SupportedReport.encode_eq`: a bitmap is written behind its own length
* `SupportedReport.encode_types`: event types are written alike in every memory
* `SupportedReport.exists_encode`: the bytes of a supported report
* `SupportedReport.exists_encode_decode`: the types of a supported report are read back
-/

namespace MeshAlarm

/-- A report or a supported report without the bytes that its layout needs. -/
def Malformed (payload : List UInt8) : Prop :=
  payload.head? = some 0x05 ∧ payload.length < 3 ∨ payload.head? = some 0x08 ∧ payload.length < 2

instance (payload : List UInt8) : Decidable (Malformed payload) :=
  inferInstanceAs (Decidable (_ ∨ _))

/-- A payload is a supported report with all the bytes it needs, and `r` is what it says. -/
def Reports (payload : List UInt8) (r : SupportedReport) : Prop :=
  payload.head? = some 0x08 ∧ SupportedReport.decode payload.tail = .ok r

/-- A supported report says something as soon as it has two bytes. -/
theorem exists_reports_iff {payload : List UInt8} :
    (∃ r, Reports payload r) ↔ payload.head? = some 0x08 ∧ 2 ≤ payload.length := by
  match payload with
  | [] => simp [Reports]
  | [b] => simp [Reports, SupportedReport.decode]
  | b :: announced :: rest => simp [Reports, SupportedReport.decode]

namespace Report

theorem exists_decode (version : Int) {data : List UInt8} (h : 2 ≤ data.length) :
    ∃ r, decode version data = .ok r := by
  match data, h with
  | a :: l :: rest, _ =>
    unfold decode
    dsimp only
    split
    · split <;> exact ⟨_, rfl⟩
    · exact ⟨_, rfl⟩

/-- Version 1 and payloads of less than seven bytes have the basic fields only. -/
theorem decode_basic {version : Int} {rest : List UInt8} (h : version = 1 ∨ rest.length < 4)
    (alarmType level : UInt8) : decode version (alarmType :: level :: rest) =
      .ok { alarmType := alarmType.toNat, level := level.toNat } := by
  unfold decode
  dsimp only
  split
  · have hlong : version = 1 := h.resolve_right (by simp)
    rw [if_pos hlong]
  · rfl

theorem decode_extended {version : Int} (h : version ≠ 1)
    (alarmType level source status eventType parameter : UInt8) (rest : List UInt8) :
    decode version (alarmType :: level :: source :: status :: eventType :: parameter :: rest) =
      .ok {
        alarmType := alarmType.toNat
        level := level.toNat
        sourceNodeId := some source.toNat
        status := some status.toNat
        eventType := some eventType.toNat
        eventParameter := some parameter.toNat } :=
  if_neg h

/-- Four more bytes are enough for the extended fields. -/
theorem exists_eq_extended {rest : List UInt8} (h : ¬ rest.length < 4) :
    ∃ source status eventType parameter more,
      rest = source :: status :: eventType :: parameter :: more := by
  match rest, h with
  | source :: status :: eventType :: parameter :: more, _ => exact ⟨_, _, _, _, _, rfl⟩
  | [], h | [_], h | [_, _], h | [_, _, _], h => exact absurd (by simp) h

theorem decode_of_short {version : Int} {data : List UInt8} (h : data.length < 2) :
    decode version data = .error (.tooShort .report (data.length + 1)) := by
  match data, h with
  | [], _ => rfl
  | [_], _ => rfl

theorem encode_of_numbers {r : Report} {bytes : List UInt8}
    (h : r.numbers = Bytes.toNumbers bytes) :
    r.encode = .ok { command := .report, data := bytes } := by
  rw [encode, h, Bytes.ofNumbers?_toNumbers]

theorem encode_of_not_fits {r : Report} (h : ∃ n ∈ r.numbers, ¬ Bytes.Fits n) :
    r.encode = .error .byteOverflow := by
  rw [encode, Bytes.ofNumbers?_eq_none_iff.2 h]

end Report

/-- A Get selects an event type by its second byte, from version 2 on. -/
theorem Get.eventType_decode_eq_some_iff {version : Int} {data : List UInt8} {t : EventType} :
    (Get.decode version data).eventType = some t ↔ version ≠ 1 ∧ data[1]? = some t.byte := by
  match data with
  | [] => simp [Get.decode]
  | [_] => simp [Get.decode]
  | reserved :: eventType :: rest =>
    have hbyte : EventType.ofOrdinal? eventType.toNat = some t ↔ eventType = t.byte := by
      rw [EventType.ofOrdinal?_eq_some_iff, Int.natCast_inj, ← EventType.toNat_byte,
        UInt8.toNat_inj, eq_comm]
    by_cases hv : version = 1 <;> simp [Get.decode, hv, hbyte]

namespace Event

/-! ### By the first byte -/

theorem ofPayload_encode (version : Int) (p : Packet) :
    ofPayload version p.encode = decode version p := by
  rw [ofPayload, Packet.decode_encode]
  rfl

theorem ofPayload_report (version : Int) (data : List UInt8) :
    ofPayload version (0x05 :: data) = (Report.decode version data).map .report := rfl

theorem ofPayload_supportedReport (version : Int) (data : List UInt8) :
    ofPayload version (0x08 :: data) = (SupportedReport.decode data).map .supported := rfl

theorem ofPayload_get (version : Int) (data : List UInt8) :
    ofPayload version (0x04 :: data) = .ok (.get (Get.decode version data)) := rfl

theorem ofPayload_supportedGet (version : Int) (data : List UInt8) :
    ofPayload version (0x07 :: data) = .ok .supportedGet := rfl

/-- What is empty or malformed is refused as too short. -/
theorem ofPayload_of_short (version : Int) {payload : List UInt8}
    (h : payload = [] ∨ Malformed payload) :
    ∃ layout length, ofPayload version payload = .error (.tooShort layout length) := by
  rcases h with rfl | ⟨hhead, hlength⟩ | ⟨hhead, hlength⟩
  · exact ⟨_, _, rfl⟩
  · obtain ⟨data, rfl⟩ := List.head?_eq_some_iff.1 hhead
    have hshort : data.length < 2 := Nat.lt_of_succ_lt_succ hlength
    rw [ofPayload_report, Report.decode_of_short hshort]
    exact ⟨_, _, rfl⟩
  · obtain ⟨data, rfl⟩ := List.head?_eq_some_iff.1 hhead
    have hnone : data.length < 1 := Nat.lt_of_succ_lt_succ hlength
    obtain rfl : data = [] := List.length_eq_zero_iff.1 (Nat.lt_one_iff.1 hnone)
    exact ⟨_, _, rfl⟩

/-- Behind any other first byte than those of reports and requests there is no event. A Set is a
command, but carries none. -/
theorem ofPayload_of_other (version : Int) {b : UInt8} (h : b ∉ [0x04, 0x05, 0x07, 0x08])
    (data : List UInt8) :
    ∃ fault, ofPayload version (b :: data) = .error fault ∧ fault.kind = .unknownCommand := by
  cases hcommand : Command.ofByte? b with
  | none =>
    refine ⟨.unknownCommand b, ?_, rfl⟩
    simp [ofPayload, Packet.decode, hcommand, bind, Except.bind]
  | some command =>
    obtain rfl := Command.byte_of_ofByte? hcommand
    cases command with
    | set => exact ⟨.eventless .set, rfl, rfl⟩
    | get | report | supportedGet | supportedReport => exact absurd (by decide) h

/-- Of the payloads that nodes send, exactly the malformed ones carry no event. -/
theorem ofPayload_eq_error_iff_malformed (version : Int) {payload : List UInt8}
    (h : payload.head? = some 0x05 ∨ payload.head? = some 0x08) :
    (∃ fault, ofPayload version payload = .error fault) ↔ Malformed payload := by
  obtain ⟨b, data, rfl⟩ : ∃ b data, payload = b :: data := by
    cases payload with
    | nil => simp at h
    | cons b data => exact ⟨b, data, rfl⟩
  rcases h with h | h <;> obtain rfl := Option.some.inj h
  · rw [ofPayload_report]
    rcases Nat.lt_or_ge data.length 2 with hlen | hlen
    · rw [Report.decode_of_short hlen]
      exact iff_of_true ⟨_, rfl⟩ (.inl ⟨rfl, by rw [List.length_cons]; omega⟩)
    · obtain ⟨r, hr⟩ := Report.exists_decode version hlen
      refine iff_of_false (by simp [hr, Except.map]) ?_
      simp only [Malformed, List.length_cons, List.head?_cons]
      rintro (⟨-, hlt⟩ | ⟨-, hlt⟩) <;> omega
  · rw [ofPayload_supportedReport]
    cases data with
    | nil => exact iff_of_true ⟨_, rfl⟩ (.inr ⟨rfl, by decide⟩)
    | cons announced rest =>
      refine iff_of_false (by simp [SupportedReport.decode, Except.map]) ?_
      simp only [Malformed, List.length_cons, List.head?_cons]
      rintro (⟨h, -⟩ | ⟨-, hlt⟩)
      · exact absurd h (by decide)
      · omega

/-- A payload carries an event if it is the payload of a packet that does. -/
theorem ofPayload_eq_ok_iff {version : Int} {payload : List UInt8} {event : Event} :
    ofPayload version payload = .ok event ↔
      ∃ p : Packet, p.encode = payload ∧ decode version p = .ok event := by
  constructor
  · intro h
    cases hp : Packet.decode payload with
    | error fault => simp [ofPayload, hp, bind, Except.bind] at h
    | ok p =>
      obtain rfl := Packet.encode_of_decode hp
      rw [ofPayload_encode] at h
      exact ⟨p, rfl, h⟩
  · rintro ⟨p, rfl, h⟩
    rw [ofPayload_encode, h]

/-- The supported reports among the payloads are the same at every version. -/
theorem ofPayload_eq_supported_iff {version : Int} {payload : List UInt8} {r : SupportedReport} :
    ofPayload version payload = .ok (.supported r) ↔ Reports payload r := by
  rw [ofPayload_eq_ok_iff]
  constructor
  · rintro ⟨⟨command, data⟩, rfl, h⟩
    cases command with
    | supportedReport =>
      cases hd : SupportedReport.decode data with
      | error fault => simp [decode, hd, Except.map] at h
      | ok r' =>
        obtain rfl : r' = r := by simpa [decode, hd, Except.map] using h
        exact ⟨rfl, hd⟩
    | report => cases hd : Report.decode version data <;> simp [decode, hd, Except.map] at h
    | get | supportedGet | set => simp [decode] at h
  · intro ⟨hhead, h⟩
    cases payload with
    | nil => simp at hhead
    | cons b data =>
      obtain rfl := Option.some.inj hhead
      rw [List.tail_cons] at h
      exact ⟨⟨.supportedReport, data⟩, rfl, by simp only [decode, h]; rfl⟩

/-- Of the payloads that nodes send, all others carry a report or a supported report. -/
theorem ofPayload_of_whole (version : Int) {payload : List UInt8}
    (hhead : payload.head? = some 0x05 ∨ payload.head? = some 0x08) (hwhole : ¬ Malformed payload) :
    (∃ r, ofPayload version payload = .ok (.report r)) ∨
      ∃ r, ofPayload version payload = .ok (.supported r) := by
  rcases hhead with hhead | hhead
  · have hlength : 3 ≤ payload.length := by
      by_contra hshort
      exact hwhole (.inl ⟨hhead, Nat.not_le.1 hshort⟩)
    obtain ⟨data, rfl⟩ := List.head?_eq_some_iff.1 hhead
    obtain ⟨r, hr⟩ := Report.exists_decode version (Nat.le_of_succ_le_succ hlength)
    refine .inl ⟨r, ?_⟩
    rw [ofPayload_report, hr]
    rfl
  · have hlength : 2 ≤ payload.length := by
      by_contra hshort
      exact hwhole (.inr ⟨hhead, Nat.not_le.1 hshort⟩)
    obtain ⟨r, hr⟩ := exists_reports_iff.2 ⟨hhead, hlength⟩
    exact .inr ⟨r, ofPayload_eq_supported_iff.2 hr⟩

end Event

namespace SupportedReport

/-! ### Reading -/

/-- The known types among ascending positions are a selection from the table. -/
theorem knownTypes_of_pairwise {ps : List Nat} (h : ps.Pairwise (· < ·)) :
    knownTypes ps = EventType.all.filter fun t => t.ordinal ∈ ps := by
  refine EventType.InOrder.eq_filter_all ?_ ?_
  · apply h.filterMap
    intro p q hpq t ht u hu
    have hp := EventType.ofOrdinal?_eq_some_iff.1 ht
    have hq := EventType.ofOrdinal?_eq_some_iff.1 hu
    omega
  · intro t
    simp only [knownTypes, List.mem_filterMap, EventType.ofOrdinal?_eq_some_iff, Int.natCast_inj,
      exists_eq_right', decide_eq_true_eq]

/-- A bitmap behind its own length is read to the end. -/
theorem bitmapOf_length {bitmap : List UInt8} (h : bitmap.length ≤ 255) :
    bitmapOf (UInt8.ofNat bitmap.length) bitmap = bitmap := by
  rw [bitmapOf, UInt8.toNat_ofNat_of_lt' (by show _ < 256; omega), List.take_length]

theorem decode_whole {bitmap : List UInt8} (h : bitmap.length ≤ 255) :
    decode (UInt8.ofNat bitmap.length :: bitmap) = .ok {
      supported := knownTypes (Bitmap.positions bitmap)
      unrecognized := (unknownPositions (Bitmap.positions bitmap)).map Int.ofNat
      truncated := false } := by
  have hwhole : isTruncated (UInt8.ofNat bitmap.length) bitmap = false := by
    rw [isTruncated, bitmapOf_length h, UInt8.toNat_ofNat_of_lt' (by show _ < 256; omega)]
    exact decide_eq_false (lt_irrefl _)
  simp only [decode, bitmapOf_length h, hwhole]

/-! ### Writing -/

/-- A report is written as the bitmap of its positions behind its length, which has to be a byte. -/
theorem encode_eq (memory : Bitmap.Memory) (r : SupportedReport) :
    r.encode memory = Bitmap.ofPositions memory r.positions >>= fun bitmap =>
      if bitmap.length ≤ 255 then
        .ok { command := .supportedReport, data := UInt8.ofNat bitmap.length :: bitmap }
      else .error .byteOverflow := by
  rw [encode, Bitmap.ofPositions]
  cases Bitmap.Plan.ofPositions memory r.positions with
  | error fault => rfl
  | ok plan =>
    simp only [bind, Except.bind, Except.map, Bitmap.Plan.length_bitmap]
    by_cases hlength : plan.length ≤ 255
    · rw [if_pos hlength, Bytes.ofNumbers?_cons_of_fits ⟨by omega, by omega⟩]
      rfl
    · have hlong : ¬ Bytes.Fits plan.length := fun hfits => hlength (Int.ofNat_le.1 hfits.2)
      have hnone : Bytes.ofNumbers? [(plan.length : Int)] = none := if_neg hlong
      rw [if_neg hlength, hnone]

theorem encode_of_bitmap {memory : Bitmap.Memory} {r : SupportedReport} {bitmap : List UInt8}
    (h : Bitmap.ofPositions memory r.positions = .ok bitmap) (hlength : bitmap.length ≤ 255) :
    r.encode memory =
      .ok { command := .supportedReport, data := UInt8.ofNat bitmap.length :: bitmap } := by
  rw [encode_eq, h]
  exact if_pos hlength

/-- So many bytes are enough for types if they leave a bit for each. -/
theorem byteCount_ordinals_le {types : List EventType} {n : Nat}
    (h : ∀ t ∈ types, t.ordinal < 8 * n) : Bitmap.byteCount (types.map EventType.ordinal) ≤ n := by
  apply Bitmap.byteCount_le_iff.2
  intro p hp
  obtain ⟨t, ht, rfl⟩ := List.mem_map.1 hp
  exact h t ht

/-- All types of the table have room in two bytes. -/
theorem byteCount_ordinals_le_two (types : List EventType) :
    Bitmap.byteCount (types.map EventType.ordinal) ≤ 2 :=
  byteCount_ordinals_le fun t _ => t.ordinal_lt.trans (by decide)

/-- A supported report of known types is written as their shortest bitmap behind its length, whatever
memory it is written in. -/
theorem encode_types (memory : Bitmap.Memory) (types : List EventType) :
    encode memory { supported := types } = .ok {
      command := .supportedReport
      data := UInt8.ofNat (Bitmap.shortest (types.map EventType.ordinal)).length ::
        Bitmap.shortest (types.map EventType.ordinal) } := by
  have htwo := byteCount_ordinals_le_two types
  have hpositions : positions { supported := types } =
      (types.map EventType.ordinal).map Nat.cast := by
    rw [List.map_map, positions, List.append_nil]
    rfl
  apply encode_of_bitmap
  · rw [hpositions]
    exact Bitmap.ofPositions_of_le ((htwo.trans (by decide)).trans memory.byte_le)
  · rw [Bitmap.length_shortest]
    exact htwo.trans (by decide)

/-- A supported report of known types is written as a bitmap with their bits and no others, which is
no longer than it has to be. -/
theorem exists_encode (memory : Bitmap.Memory) (types : List EventType) :
    ∃ bitmap : List UInt8, encode memory { supported := types } =
        .ok { command := .supportedReport, data := UInt8.ofNat bitmap.length :: bitmap } ∧
      (∀ k, k ∈ Bitmap.positions bitmap ↔ ∃ t ∈ types, t.ordinal = k) ∧
        ∀ n, (∀ t ∈ types, t.ordinal < 8 * n) → bitmap.length ≤ n := by
  refine ⟨_, encode_types memory types, ?_, ?_⟩
  · intro k
    rw [Bitmap.mem_positions_shortest]
    exact List.mem_map
  · intro n hn
    rw [Bitmap.length_shortest]
    exact byteCount_ordinals_le hn

/-- A supported report of known types can be written, and they are read back from it. -/
theorem exists_encode_decode (memory : Bitmap.Memory) (types : List EventType) :
    ∃ p : Packet, encode memory { supported := types } = .ok p ∧ p.command = .supportedReport ∧
      ∃ r, decode p.data = .ok r ∧ r.supported = EventType.all.filter (· ∈ types) := by
  obtain ⟨bitmap, hencode, hpositions, hleast⟩ := exists_encode memory types
  have htwo : bitmap.length ≤ 2 := hleast 2 fun t _ => t.ordinal_lt.trans (by decide)
  refine ⟨_, hencode, rfl, _, decode_whole (by omega), ?_⟩
  rw [knownTypes_of_pairwise (Bitmap.pairwise_positions _)]
  refine List.filter_congr fun t _ => decide_eq_decide.2 ?_
  rw [hpositions]
  simp [EventType.ordinal_inj]

end SupportedReport

end MeshAlarm
