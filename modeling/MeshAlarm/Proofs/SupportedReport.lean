import MeshAlarm.Proofs.Decoding
import MeshAlarm.Proofs.Packet

/-!
# Supported reports, read and written

A supported report sorts a set of numbers: the ordinals of known types to one list, the numbers
beyond the table to another, both ascending. The set that is read is that of the bits of the
announced bytes, as far as they are there; what follows them has no say. The set that is written is
that of the listed types and numbers, in whatever order and however often they are listed, and it is
the set that is read back.

A bitmap has at most 255 bytes behind its length, and so room for the numbers below 2040. Greater
numbers are refused, and the greatest of them decides for which reason, together with the memory that
there is.

## Main definitions

* `SupportedReport.Sorts`: reports that sort a set of numbers
* `SupportedReport.ReadsAnnounced`: reports that say what stands behind an announced length
* `SupportedReport.listing`: the report that lists types and numbers
* `SupportedReport.listed`, `SupportedReport.Exceeds`: the numbers listed, and whether some of them
  has no room in so many bytes
* `SupportedReport.WrittenAndRead`: what becomes of a listing that is written

## Main results

* `SupportedReport.reads_announced_bitmap`: what is read from a payload
* `SupportedReport.written_and_read`: what is written can be read back, or why it is refused
-/

namespace MeshAlarm.SupportedReport

/-- A report sorts a set of numbers into known types and others, both ascending. -/
structure Sorts (IsListed : Nat → Prop) (r : SupportedReport) : Prop where
  /-- Types are in the order of the table, without repetition. -/
  supported_ascending : EventType.InOrder r.supported
  /-- Types are supported if their ordinals are listed. -/
  mem_supported : ∀ t, t ∈ r.supported ↔ IsListed t.ordinal
  /-- Unrecognized numbers are ascending, without repetition. -/
  unrecognized_ascending : r.unrecognized.Pairwise (· < ·)
  /-- Numbers are unrecognized if they are listed, and beyond the table. -/
  mem_unrecognized : ∀ q, q ∈ r.unrecognized ↔ ∃ k : Nat, (k : Int) = q ∧ EventType.count ≤ k ∧
    IsListed k

/-- Ascending numbers are sorted by going through them once. -/
theorem sorts_of_pairwise {ps : List Nat} {IsListed : Nat → Prop} (hps : ps.Pairwise (· < ·))
    (hmem : ∀ k, k ∈ ps ↔ IsListed k) (truncated : Bool) :
    Sorts IsListed {
      supported := knownTypes ps
      unrecognized := (unknownPositions ps).map Int.ofNat
      truncated } where
  supported_ascending := by
    show EventType.InOrder (knownTypes ps)
    rw [knownTypes_of_pairwise hps]
    exact EventType.inOrder_filter_all _
  mem_supported t := by
    rw [knownTypes_of_pairwise hps, List.mem_filter, decide_eq_true_iff, hmem]
    exact and_iff_right (EventType.mem_all t)
  unrecognized_ascending := by
    apply List.pairwise_map.2
    exact (hps.filter _).imp Int.ofNat_lt.2
  mem_unrecognized q := by
    simp only [unknownPositions, List.mem_map, List.mem_filter, decide_eq_true_iff, hmem]
    constructor
    · rintro ⟨k, ⟨hk, hbeyond⟩, rfl⟩
      exact ⟨k, rfl, hbeyond, hk⟩
    · rintro ⟨k, rfl, hbeyond, hk⟩
      exact ⟨k, ⟨hk, hbeyond⟩, rfl⟩

/-! ### Reading -/

theorem length_unknownPositions (bitmap : List UInt8) :
    (unknownPositions (Bitmap.positions bitmap)).length =
      (List.range (8 * bitmap.length)).countP
      fun k => decide (EventType.count ≤ k ∧ Bitmap.IsSet bitmap k) := by
  rw [unknownPositions, Bitmap.positions_eq_filter, List.filter_filter,
    List.countP_eq_length_filter]
  simp only [Bool.decide_and]

theorem isTruncated_iff {announced : UInt8} {rest : List UInt8} :
    isTruncated announced rest ↔ rest.length < announced.toNat := by
  rw [isTruncated, decide_eq_true_iff, bitmapOf, List.length_take]
  omega

/-- What is not announced is not read. -/
theorem decode_congr {announced : UInt8} {rest other : List UInt8}
    (h : other.take announced.toNat = rest.take announced.toNat) :
    decode (announced :: other) = decode (announced :: rest) := by
  have hbitmap : bitmapOf announced other = bitmapOf announced rest := h
  simp only [decode, isTruncated, hbitmap]

/-- A report says what stands behind an announced length. -/
structure ReadsAnnounced (announced : UInt8) (rest : List UInt8) (r : SupportedReport) : Prop
    extends Sorts (Bitmap.IsSet (rest.take announced.toNat)) r where
  /-- The set bits beyond the table are counted. -/
  counts : r.unrecognizedCount = (List.range (8 * (rest.take announced.toNat).length)).countP
    fun k => decide (EventType.count ≤ k ∧ Bitmap.IsSet (rest.take announced.toNat) k)
  /-- Missing bytes make the report truncated. -/
  truncated_iff : r.truncated ↔ rest.length < announced.toNat
  /-- It says so of all that has the same announced bytes, whatever follows them. -/
  surplus : ∀ version other, other.take announced.toNat = rest.take announced.toNat →
    Event.ofPayload version (0x08 :: announced :: other) = .ok (.supported r)

/-- **The announced bitmap is read, and nothing else.** Whatever stands behind the announced length,
the payload is a supported report at every version. It says what the announced bytes say, as far as
they are there, and is truncated if some are missing. -/
theorem reads_announced_bitmap (announced : UInt8) (rest : List UInt8) :
    ∃ r, decode (announced :: rest) = .ok r ∧
      (∀ version, Event.ofPayload version (0x08 :: announced :: rest) = .ok (.supported r)) ∧
      ReadsAnnounced announced rest r := by
  refine ⟨_, rfl, fun version => rfl, ⟨?_, ?_, isTruncated_iff, ?_⟩⟩
  · exact sorts_of_pairwise (Bitmap.pairwise_positions _) (fun _ => Bitmap.mem_positions) _
  · exact (List.length_map _).trans (length_unknownPositions _)
  · intro version other hother
    rw [Event.ofPayload_supportedReport, decode_congr hother]
    rfl

/-- Two bytes are announced, and the third is surplus. -/
example : decode [0x02, 0x42, 0x80, 0xff] =
    .ok { supported := [.smoke, .accessControl], unrecognized := [15] } := by
  decide

/-! ### Writing -/

/-- The report that lists types and numbers from zero, in any order and any number of times. -/
def listing (types : List EventType) (numbers : List Nat) : SupportedReport :=
  { supported := types, unrecognized := numbers.map Nat.cast }

/-- The numbers listed: the ordinals of the types, and the others. -/
def listed (types : List EventType) (numbers : List Nat) : List Nat :=
  types.map EventType.ordinal ++ numbers

/-- The number of bytes of the longest bitmap. -/
def maxBytes : Nat := 255

/-- Some number listed has no room in a bitmap of so many bytes. -/
def Exceeds (types : List EventType) (numbers : List Nat) (bytes : Nat) : Prop :=
  ∃ p ∈ listed types numbers, 8 * bytes ≤ p

instance (types : List EventType) (numbers : List Nat) (bytes : Nat) :
    Decidable (Exceeds types numbers bytes) :=
  inferInstanceAs (Decidable (∃ p ∈ listed types numbers, 8 * bytes ≤ p))

section Listing

variable {memory : Bitmap.Memory} {types : List EventType} {numbers : List Nat}

theorem exceeds_iff {bytes : Nat} :
    Exceeds types numbers bytes ↔ bytes < Bitmap.byteCount (listed types numbers) :=
  Bitmap.lt_byteCount_iff.symm

theorem not_exceeds_iff {bytes : Nat} :
    ¬ Exceeds types numbers bytes ↔ Bitmap.byteCount (listed types numbers) ≤ bytes := by
  rw [exceeds_iff, Nat.not_lt]

/-- What has no room has none in fewer bytes. -/
theorem Exceeds.mono {bytes fewer : Nat} (h : Exceeds types numbers bytes) (hle : fewer ≤ bytes) :
    Exceeds types numbers fewer := by
  obtain ⟨p, hp, hfar⟩ := h
  exact ⟨p, hp, by omega⟩

theorem positions_listing : (listing types numbers).positions =
    (listed types numbers).map Nat.cast := by
  rw [positions, listing, listed, List.map_append, List.map_map]
  rfl

/-! #### Refusals -/

theorem encode_of_error {r : SupportedReport} {fault : Fault}
    (h : Bitmap.ofPositions memory r.positions = .error fault) :
    r.encode memory = .error fault := by
  rw [encode_eq, h]
  rfl

theorem encode_of_beyond_word (h : Exceeds types numbers Bitmap.wordCapacity) :
    (listing types numbers).encode memory = .error .lengthBeyondWord := by
  apply encode_of_error
  rw [positions_listing, Bitmap.ofPositions_natCast, if_pos (exceeds_iff.1 h)]

theorem encode_of_beyond_memory (h : Exceeds types numbers memory.capacity)
    (hword : ¬ Exceeds types numbers Bitmap.wordCapacity) :
    (listing types numbers).encode memory = .error .bitmapBeyondMemory := by
  apply encode_of_error
  rw [positions_listing, Bitmap.ofPositions_natCast,
    if_neg (Nat.not_lt.2 (not_exceeds_iff.1 hword)), if_pos (exceeds_iff.1 h)]

/-- Within memory there is a bitmap, but its length is no byte. -/
theorem encode_of_long (h : Exceeds types numbers maxBytes)
    (hcapacity : ¬ Exceeds types numbers memory.capacity) :
    (listing types numbers).encode memory = .error .byteOverflow := by
  rw [encode_eq, positions_listing, Bitmap.ofPositions_of_le (not_exceeds_iff.1 hcapacity)]
  apply if_neg
  rw [Bitmap.length_shortest]
  exact Nat.not_le.2 (exceeds_iff.1 h)

/-! #### Packets -/

/-- If a bitmap has room for all numbers, then the packet says that they are listed. -/
theorem encode_of_fits (memory : Bitmap.Memory) (h : ¬ Exceeds types numbers maxBytes) :
    ∃ packet r, (listing types numbers).encode memory = .ok packet ∧
      (∀ version, Event.ofPayload version packet.encode = .ok (.supported r)) ∧
      r.Sorts (· ∈ listed types numbers) ∧ r.truncated = false := by
  have hbytes : Bitmap.byteCount (listed types numbers) ≤ 255 := not_exceeds_iff.1 h
  have hlength : (Bitmap.shortest (listed types numbers)).length ≤ 255 := by
    rwa [Bitmap.length_shortest]
  have hbitmap : Bitmap.ofPositions memory (listing types numbers).positions =
      .ok (Bitmap.shortest (listed types numbers)) := by
    rw [positions_listing]
    exact Bitmap.ofPositions_of_le (hbytes.trans memory.byte_le)
  refine ⟨_, _, encode_of_bitmap hbitmap hlength,
    fun version => Event.ofPayload_eq_supported_iff.2 ⟨rfl, decode_whole hlength⟩, ?_, rfl⟩
  exact sorts_of_pairwise (Bitmap.pairwise_positions _) (fun _ => Bitmap.mem_positions_shortest) _

end Listing

/-- What becomes of a listing that is written in some memory. -/
structure WrittenAndRead (memory : Bitmap.Memory) (types : List EventType) (numbers : List Nat) :
    Prop where
  /-- If a bitmap has room for all numbers, then the packet says that they are listed. -/
  fits : ¬ Exceeds types numbers maxBytes →
    ∃ packet r, (listing types numbers).encode memory = .ok packet ∧
      (∀ version, Event.ofPayload version packet.encode = .ok (.supported r)) ∧
      r.Sorts (· ∈ listed types numbers) ∧ r.truncated = false
  /-- Otherwise the listing is refused. -/
  refused : (∃ fault, (listing types numbers).encode memory = .error fault) ↔
    Exceeds types numbers maxBytes
  /-- The value is blamed, if memory has room for the bitmap that it asks for. -/
  badValue : (∃ fault, (listing types numbers).encode memory = .error fault ∧
      fault.kind = .badValue) ↔
    Exceeds types numbers maxBytes ∧ ¬ Exceeds types numbers memory.capacity
  /-- Memory is, if not, as long as a machine word holds the number of bytes. -/
  outOfMemory : (∃ fault, (listing types numbers).encode memory = .error fault ∧
      fault.kind = .outOfMemory) ↔
    Exceeds types numbers memory.capacity ∧ ¬ Exceeds types numbers Bitmap.wordCapacity
  /-- Beyond that no memory is asked for. -/
  overflow : (∃ fault, (listing types numbers).encode memory = .error fault ∧
      fault.kind = .overflow) ↔
    Exceeds types numbers Bitmap.wordCapacity

/-- Of a refused listing, the kind of the fault is all that is left to look at. -/
theorem WrittenAndRead.of_error {memory : Bitmap.Memory} {types : List EventType}
    {numbers : List Nat} {fault : Fault} (h : (listing types numbers).encode memory = .error fault)
    (hlong : Exceeds types numbers maxBytes)
    (hbadValue : fault.kind = .badValue ↔ ¬ Exceeds types numbers memory.capacity)
    (houtOfMemory : fault.kind = .outOfMemory ↔
      Exceeds types numbers memory.capacity ∧ ¬ Exceeds types numbers Bitmap.wordCapacity)
    (hoverflow : fault.kind = .overflow ↔ Exceeds types numbers Bitmap.wordCapacity) :
    WrittenAndRead memory types numbers where
  fits hfits := absurd hlong hfits
  refused := iff_of_true ⟨fault, h⟩ hlong
  badValue := by
    rw [exists_error_iff h, hbadValue]
    exact (and_iff_right hlong).symm
  outOfMemory := (exists_error_iff h _).trans houtOfMemory
  overflow := (exists_error_iff h _).trans hoverflow

/-- **What is written is read back, up to the capacity of a bitmap.** A report of any types and any
numbers from zero can be written exactly if all of them have room in 255 bytes. What is then read is
the listed types and the numbers beyond the table, each of them once and in ascending order. -/
theorem written_and_read (memory : Bitmap.Memory) (types : List EventType) (numbers : List Nat) :
    WrittenAndRead memory types numbers := by
  by_cases hword : Exceeds types numbers Bitmap.wordCapacity
  · have hcapacity : Exceeds types numbers memory.capacity := hword.mono memory.le_word
    apply WrittenAndRead.of_error (encode_of_beyond_word hword) (hcapacity.mono memory.byte_le)
    · exact iff_of_false (by decide) (not_not_intro hcapacity)
    · exact iff_of_false (by decide) fun hmemory => hmemory.2 hword
    · exact iff_of_true rfl hword
  by_cases hcapacity : Exceeds types numbers memory.capacity
  · apply WrittenAndRead.of_error (encode_of_beyond_memory hcapacity hword)
      (hcapacity.mono memory.byte_le)
    · exact iff_of_false (by decide) (not_not_intro hcapacity)
    · exact iff_of_true rfl ⟨hcapacity, hword⟩
    · exact iff_of_false (by decide) hword
  by_cases hlong : Exceeds types numbers maxBytes
  · apply WrittenAndRead.of_error (encode_of_long hlong hcapacity) hlong
    · exact iff_of_true rfl hcapacity
    · exact iff_of_false (by decide) fun hmemory => hcapacity hmemory.1
    · exact iff_of_false (by decide) hword
  · obtain ⟨packet, r, h, hread⟩ := encode_of_fits memory hlong
    refine ⟨fun _ => ⟨packet, r, h, hread⟩, ?_, ?_, ?_, ?_⟩
    · exact iff_of_false (by simp [h]) hlong
    · exact iff_of_false (not_exists_error h _) fun hbad => hlong hbad.1
    · exact iff_of_false (not_exists_error h _) fun hmemory => hcapacity hmemory.1
    · exact iff_of_false (not_exists_error h _) hword

/-- The last number with room, and the first without. -/
example : ¬ Exceeds [.smoke] [2039, 17, 2039] maxBytes ∧ Exceeds [.smoke] [2040] maxBytes := by
  decide

/-- A number beyond the machine words has no room either, and is not refused as a bad value in any
memory; and one that a word holds is not in a memory with less room. -/
theorem beyond_words_or_memory_is_no_bad_value :
    let beyondWords := [1000000000000000000000000000000]
    let beyondMemory := [0x4000000000000000]
    (∀ memory, (∃ p ∈ listed [] beyondWords, 2040 ≤ p) ∧
      (listing [] beyondWords).encode memory = .error .lengthBeyondWord ∧
      ¬ ((∃ fault, (listing [] beyondWords).encode memory = .error fault ∧
        fault.kind.isBadValue) ↔ ∃ p ∈ listed [] beyondWords, 2040 ≤ p)) ∧
      ∀ memory : Bitmap.Memory, memory.capacity ≤ 0x800000000000000 →
        (listing [] beyondMemory).encode memory = .error .bitmapBeyondMemory ∧
          ¬ ((∃ fault, (listing [] beyondMemory).encode memory = .error fault ∧
            fault.kind.isBadValue) ↔ ∃ p ∈ listed [] beyondMemory, 2040 ≤ p) := by
  intro beyondWords beyondMemory
  refine ⟨fun memory => ?_, fun memory hroom => ?_⟩
  · have hfar : ∃ p ∈ listed [] beyondWords, 2040 ≤ p := by decide
    have h : (listing [] beyondWords).encode memory = .error .lengthBeyondWord := rfl
    refine ⟨hfar, h, ?_⟩
    rw [exists_error_iff h]
    intro hiff
    exact absurd (hiff.2 hfar) (by decide)
  · have hfar : ∃ p ∈ listed [] beyondMemory, 2040 ≤ p := by decide
    have h : (listing [] beyondMemory).encode memory = .error .bitmapBeyondMemory := by
      apply encode_of_beyond_memory
      · exact ⟨_, List.mem_cons_self, by omega⟩
      · decide
    refine ⟨h, ?_⟩
    rw [exists_error_iff h]
    intro hiff
    exact absurd (hiff.2 hfar) (by decide)

end MeshAlarm.SupportedReport
