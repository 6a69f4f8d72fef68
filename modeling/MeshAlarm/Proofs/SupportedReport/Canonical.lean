import MeshAlarm.Proofs.Bitmap.Shortest
import MeshAlarm.Proofs.SupportedReport

/-!
# The canonical form of a supported report

Many payloads say the same: a bitmap may have zero bytes at its end, it may stop short of the
announced length, and other bytes may follow it. Writing what was read chooses one of them, the
shortest bitmap behind its own length. It says the same, is not truncated, and is what it is written
as itself. Nothing that was read is ever refused, as the bitmap that was there is an upper bound.

## Main definitions

* `SupportedReport.IsCanonical`: the packet that a report with a bitmap is written as

## Main results

* `SupportedReport.mem_listed_iff`: sorting positions into known and unknown ones loses none
* `SupportedReport.encode_ofBitmap`: the report of a bitmap is written as the trimmed bitmap
* `SupportedReport.rewriting_is_canonical`: every report that was read has a canonical form
-/

namespace MeshAlarm.SupportedReport

/-! ### The positions that were read -/

theorem mem_ordinals_knownTypes_iff {ps : List Nat} {k : Nat} :
    k ∈ (knownTypes ps).map EventType.ordinal ↔ k ∈ ps ∧ k < EventType.count := by
  simp only [knownTypes, List.mem_map, List.mem_filterMap, EventType.ofOrdinal?_eq_some_iff,
    Int.natCast_inj]
  constructor
  · rintro ⟨t, ⟨p, hp, rfl⟩, rfl⟩
    exact ⟨hp, t.ordinal_lt⟩
  · rintro ⟨hk, hlt⟩
    cases ht : EventType.ofOrdinal? k with
    | none =>
      have hout := EventType.ofOrdinal?_eq_none_iff.1 ht
      omega
    | some t =>
      have hordinal := Int.natCast_inj.1 (EventType.ofOrdinal?_eq_some_iff.1 ht)
      exact ⟨t, ⟨k, hk, hordinal⟩, hordinal⟩

/-- Sorting positions into known and unknown ones loses none and adds none. -/
theorem mem_listed_iff {ps : List Nat} {k : Nat} :
    k ∈ listed (knownTypes ps) (unknownPositions ps) ↔ k ∈ ps := by
  rw [listed, List.mem_append, mem_ordinals_knownTypes_iff, unknownPositions, List.mem_filter,
    decide_eq_true_iff, ← and_or_left]
  exact and_iff_left (Nat.lt_or_ge k EventType.count)

/-! ### Writing -/

/-- The report of a bitmap, which may have been shorter than announced. -/
def ofBitmap (bitmap : List UInt8) (truncated : Bool) : SupportedReport where
  supported := knownTypes (Bitmap.positions bitmap)
  unrecognized := (unknownPositions (Bitmap.positions bitmap)).map Int.ofNat
  truncated

/-- The report of a bitmap is written as the bitmap without its trailing zero bytes. -/
theorem encode_ofBitmap (memory : Bitmap.Memory) {bitmap : List UInt8}
    (h : (Bitmap.trimmed bitmap).length ≤ 255) (truncated : Bool) :
    (ofBitmap bitmap truncated).encode memory =
      .ok { command := .supportedReport
            data := UInt8.ofNat (Bitmap.trimmed bitmap).length :: Bitmap.trimmed bitmap } := by
  apply encode_of_bitmap _ h
  -- The positions are those of the bitmap in another order, and the order does not matter.
  have hpositions : (ofBitmap bitmap truncated).positions =
      (listed (knownTypes (Bitmap.positions bitmap))
        (unknownPositions (Bitmap.positions bitmap))).map Nat.cast := positions_listing
  rw [hpositions, Bitmap.ofPositions_congr memory fun _ => mem_listed_iff]
  exact Bitmap.ofPositions_positions (h.trans memory.byte_le)

/-- Of a truncated bitmap, the bytes that were there are written, but for the zeros at their end. -/
example : (ofBitmap [0x42, 0x00, 0x01, 0x00, 0x00] true).encode .widest =
    .ok { command := .supportedReport, data := [0x03, 0x42, 0x00, 0x01] } := by
  decide

/-! ### The canonical form -/

/-- A packet is the canonical form of a report with a bitmap. -/
structure IsCanonical (bitmap : List UInt8) (r : SupportedReport) (packet : Packet) : Prop where
  /-- The report is written as the packet, in every memory. -/
  written : ∀ memory, r.encode memory = .ok packet
  /-- Its payload is the bitmap without its trailing zero bytes, behind its length. -/
  shortest : ∃ length : UInt8, length.toNat = (Bitmap.trimmed bitmap).length ∧
    packet.encode = 0x08 :: length :: Bitmap.trimmed bitmap
  /-- What is read back from it is the same, and not truncated. -/
  readBack : ∀ version,
    Event.ofPayload version packet.encode = .ok (.supported { r with truncated := false })
  /-- This is written as the same packet again. -/
  stable : ∀ memory, encode memory { r with truncated := false } = .ok packet

theorem isCanonical_ofBitmap {bitmap : List UInt8} (h : bitmap.length ≤ 255) (truncated : Bool) :
    IsCanonical bitmap (ofBitmap bitmap truncated) {
      command := .supportedReport
      data := UInt8.ofNat (Bitmap.trimmed bitmap).length :: Bitmap.trimmed bitmap } := by
  have htrimmed : (Bitmap.trimmed bitmap).length ≤ 255 :=
    (Bitmap.length_trimmed_le_length bitmap).trans h
  refine ⟨fun memory => encode_ofBitmap memory htrimmed _, ⟨_, ?_, rfl⟩, ?_,
    fun memory => encode_ofBitmap memory htrimmed _⟩
  · exact UInt8.toNat_ofNat_of_lt' (Nat.lt_succ_of_le htrimmed)
  · intro version
    apply Event.ofPayload_eq_supported_iff.2
    refine ⟨rfl, (decode_whole htrimmed).trans ?_⟩
    rw [Bitmap.positions_trimmed]
    rfl

/-- **What was read is written in canonical form.** Whatever stands behind the announced length, the
report that is read can be written. Its packet has the announced bytes that were there, without
trailing zero bytes; it says the same, and is written as itself. -/
theorem rewriting_is_canonical (announced : UInt8) (rest : List UInt8) :
    ∃ r packet,
      (∀ version, Event.ofPayload version (0x08 :: announced :: rest) = .ok (.supported r)) ∧
      IsCanonical (rest.take announced.toNat) r packet := by
  have hlength : (rest.take announced.toNat).length ≤ 255 := by
    have hbyte := announced.toNat_lt
    rw [List.length_take]
    omega
  exact ⟨_, _, fun _ => rfl, isCanonical_ofBitmap hlength (isTruncated announced rest)⟩

end MeshAlarm.SupportedReport
