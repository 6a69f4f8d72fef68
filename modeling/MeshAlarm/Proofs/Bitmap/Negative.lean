import MeshAlarm.Proofs.Bitmap.Shortest

/-!
# Numbers that count from the end

The greatest of some numbers fixes the length of their bitmap. A negative number then counts back
from the end of that bitmap, and stands for the same bit as a number from zero. It has no bit if it
lies so low that counting back ends before the first one. So whether a negative number is refused,
and which bit it stands for, depends on the greatest number beside it, and on no order.

If all numbers are so low that their bitmap would have a negative length, there is none. Before that,
a machine word has to hold the length, and memory has to have room for it, of which there may be any
number of bytes that a machine word holds.

## Main definitions

* `Bitmap.fromStart`: the number from zero for the same bit of a bitmap
* `Bitmap.outcome`: what becomes of numbers, up to the wording of a fault
* `Bitmap.CountsBack`: what becomes of numbers whose bitmap is to have so many bytes

## Main results

* `Bitmap.place_of_fits`, `Bitmap.exists_place_of_below`: which numbers have a bit
* `Bitmap.outcome_eq`: what becomes of numbers, in one equation
* `Bitmap.negative_numbers_count_from_the_end`: negative numbers stand for numbers from zero
-/

namespace MeshAlarm.Bitmap

/-! ### Lengths -/

/-- The greatest number fixes the length. -/
theorem lengthOf_of_greatest (memory : Memory) {ps : List Int} {greatest : Int}
    (hmem : greatest ∈ ps) (hle : ∀ p ∈ ps, p ≤ greatest) :
    lengthOf memory ps =
      let n := greatest / 8 + 1
      if ¬ FitsWord n then .error .lengthBeyondWord
      else if n < 0 then .error .negativeLength
      else if memory.capacity < n then .error .bitmapBeyondMemory
      else .ok n.toNat := by
  have hmax : ps.max? = some greatest := List.max?_eq_some_iff.2 ⟨hmem, hle⟩
  rw [lengthOf, hmax]
  simp only [lengthFor, row_eq]

/-! ### Places -/

/-- The number from zero that stands for the same bit of a bitmap of so many bytes. -/
def fromStart (n p : Int) : Int :=
  if p < 0 then p + 8 * n else p

section Places

variable {n : Nat} {p : Int}

theorem fromStart_nonneg (hlow : -8 * n ≤ p) : 0 ≤ fromStart n p := by
  unfold fromStart
  split <;> omega

theorem fromStart_lt (hhigh : p < 8 * n) : fromStart n p < 8 * n := by
  unfold fromStart
  split <;> omega

/-- A number that is not below the bitmap has a bit in it, and so has the number from zero. -/
theorem place_of_fits (hn : n ≤ wordCapacity) (hlow : -8 * n ≤ p) (hhigh : p < 8 * n) :
    place n p = .ok (fromStart n p).toNat := by
  have hrow : FitsWord (row p) := by
    rw [row_eq]
    simp only [FitsWord, wordCapacity] at hn ⊢
    omega
  rw [place, if_neg (not_not_intro hrow), if_neg (Int.not_lt.2 hlow), fromStart]

/-- A number below the bitmap has no bit, whether or not a machine word holds its row. -/
theorem exists_place_of_below (h : p < -8 * n) : ∃ fault, place n p = .error fault := by
  by_cases hrow : FitsWord (row p)
  · refine ⟨.bitBelowBitmap, ?_⟩
    rw [place, if_neg (not_not_intro hrow), if_pos h]
  · exact ⟨.rowBeyondWord, if_pos hrow⟩

theorem kind_of_place_eq_error {fault : Fault} (h : place n p = .error fault) :
    fault.kind = .outOfRange := by
  unfold place at h
  split at h
  · cases h
    rfl
  · split at h
    · cases h
      rfl
    · cases h

end Places

/-! ### Outcomes -/

/-- What becomes of numbers: their bitmap, or the kind of the fault. -/
def outcome (memory : Memory) (ps : List Int) : Except FaultKind (List UInt8) :=
  (ofPositions memory ps).mapError Fault.kind

section Outcomes

variable {memory : Memory} {ps : List Int} {greatest : Int}

/-- Of the bytes that the greatest number needs, the numbers from zero for the same bits need all. -/
theorem byteCount_fromStart (hmem : greatest ∈ ps) (hle : ∀ p ∈ ps, p ≤ greatest) {n : Nat}
    (hn : (n : Int) = greatest / 8 + 1) (hlow : ∀ p ∈ ps, -8 * n ≤ p) :
    byteCount (ps.map fun p => (fromStart n p).toNat) = n := by
  apply le_antisymm
  · apply byteCount_le_iff.2
    intro k hk
    obtain ⟨p, hp, rfl⟩ := List.mem_map.1 hk
    have hpos := fromStart_nonneg (hlow p hp)
    have hgreatest := hle p hp
    have hlt : fromStart n p < 8 * n := fromStart_lt (by omega)
    omega
  · have hnonneg : 0 ≤ greatest := by
      have hlow' := hlow greatest hmem
      omega
    have hsame : fromStart n greatest = greatest := if_neg (Int.not_lt.2 hnonneg)
    have hgreatest := lt_byteCount (List.mem_map_of_mem (f := fun p => (fromStart n p).toNat) hmem)
    simp only [hsame] at hgreatest
    omega

/-- Numbers that all have a bit are written as the numbers from zero for the same bits. -/
theorem ofPositions_of_fits (hmem : greatest ∈ ps) (hle : ∀ p ∈ ps, p ≤ greatest) {n : Nat}
    (hn : (n : Int) = greatest / 8 + 1) (hcapacity : n ≤ memory.capacity)
    (hlow : ∀ p ∈ ps, -8 * n ≤ p) :
    ofPositions memory ps = .ok (shortest (ps.map fun p => (fromStart n p).toNat)) := by
  have hcount : n ≤ wordCapacity := hcapacity.trans memory.le_word
  have hword : FitsWord n := fitsWord_natCast_iff.2 hcount
  have hlength : lengthOf memory ps = .ok n := by
    rw [lengthOf_of_greatest memory hmem hle, ← hn]
    dsimp only
    rw [if_neg (not_not_intro hword), if_neg (by omega), if_neg (by omega), Int.toNat_natCast]
  have hplaces : ps.mapM (place n) = .ok (ps.map fun p => (fromStart n p).toNat) := by
    apply mapM_of_forall
    intro p hp
    have hgreatest := hle p hp
    exact place_of_fits hcount (hlow p hp) (by omega)
  rw [shortest, byteCount_fromStart hmem hle hn hlow, ofPositions, Plan.ofPositions, hlength, ok_bind,
    hplaces]
  rfl

theorem outcome_of_refused {fault : Fault} (h : lengthOf memory ps = .error fault) :
    outcome memory ps = .error fault.kind := by
  rw [outcome, ofPositions, Plan.ofPositions, h]
  rfl

/-- If one of the numbers is below their bitmap, they are refused as out of range. -/
theorem outcome_of_below {n : Nat} (hlength : lengthOf memory ps = .ok n)
    (h : ∃ p ∈ ps, p < -8 * n) : outcome memory ps = .error .outOfRange := by
  have hfault : ∃ fault, ps.mapM (place n) = .error fault ∧ fault.kind = .outOfRange := by
    apply exists_mapM_error fun p _ fault => kind_of_place_eq_error
    obtain ⟨p, hp, hlow⟩ := h
    exact ⟨p, hp, exists_place_of_below hlow⟩
  obtain ⟨fault, hplaces, hkind⟩ := hfault
  rw [outcome, ofPositions, Plan.ofPositions, hlength, ok_bind, hplaces, ← hkind]
  rfl

/-- What becomes of numbers depends on the greatest of them, on whether one is below the bitmap that
this one asks for, and on the bits that they stand for. -/
theorem outcome_eq (memory : Memory) (hmem : greatest ∈ ps) (hle : ∀ p ∈ ps, p ≤ greatest) :
    outcome memory ps =
      let n := greatest / 8 + 1
      if ¬ FitsWord n then .error .overflow
      else if n < 0 then .error .badValue
      else if memory.capacity < n then .error .outOfMemory
      else if ∃ p ∈ ps, p < -8 * n then .error .outOfRange
      else .ok (shortest (ps.map fun p => (fromStart n p).toNat)) := by
  have hlength := lengthOf_of_greatest memory hmem hle
  dsimp only at hlength ⊢
  by_cases hword : ¬ FitsWord (greatest / 8 + 1)
  · rw [if_pos hword] at hlength ⊢
    exact outcome_of_refused hlength
  by_cases hnegative : greatest / 8 + 1 < 0
  · rw [if_neg hword, if_pos hnegative] at hlength ⊢
    exact outcome_of_refused hlength
  by_cases hmemory : memory.capacity < greatest / 8 + 1
  · rw [if_neg hword, if_neg hnegative, if_pos hmemory] at hlength ⊢
    exact outcome_of_refused hlength
  rw [if_neg hword, if_neg hnegative, if_neg hmemory] at hlength ⊢
  obtain ⟨n, hn⟩ := Int.eq_ofNat_of_zero_le (Int.not_lt.1 hnegative)
  rw [hn] at hlength hmemory ⊢
  by_cases hbelow : ∃ p ∈ ps, p < -8 * (n : Int)
  · rw [if_pos hbelow]
    exact outcome_of_below hlength hbelow
  · have hlow : ∀ p ∈ ps, -8 * (n : Int) ≤ p := by
      intro p hp
      by_contra hlt
      exact hbelow ⟨p, hp, Int.not_le.1 hlt⟩
    rw [if_neg hbelow, outcome, ofPositions_of_fits hmem hle hn.symm (by omega) hlow]
    rfl

/-- What becomes of numbers whose bitmap is to have `n` bytes. -/
structure CountsBack (memory : Memory) (ps : List Int) (n : Int) : Prop where
  /-- No memory is asked for, if a machine word does not hold their number. -/
  overflow : outcome memory ps = .error .overflow ↔ ¬ FitsWord n
  /-- The value is blamed for a negative one. -/
  badValue : outcome memory ps = .error .badValue ↔ FitsWord n ∧ n < 0
  /-- Memory is, if it has no room for so many bytes. -/
  outOfMemory : outcome memory ps = .error .outOfMemory ↔ FitsWord n ∧ memory.capacity < n
  /-- A number is out of range if it lies before the first bit. -/
  outOfRange : outcome memory ps = .error .outOfRange ↔
    0 ≤ n ∧ n ≤ memory.capacity ∧ ∃ p ∈ ps, p < -8 * n
  /-- Otherwise there is a bitmap. It is that of the numbers from zero for the same bits. -/
  written : 0 ≤ n → n ≤ memory.capacity → (∀ p ∈ ps, -8 * n ≤ p) →
    ∃ bitmap : List UInt8, ofPositions memory ps = .ok bitmap ∧ (bitmap.length : Int) = n ∧
      ofPositions memory (ps.map (fromStart n)) = .ok bitmap
  /-- It makes no difference how the same set is listed. -/
  sameSet : ∀ qs : List Int, (∀ p, p ∈ qs ↔ p ∈ ps) → outcome memory qs = outcome memory ps

/-- The numbers from zero for the same bits have the same bitmap. -/
theorem exists_written (hmem : greatest ∈ ps) (hle : ∀ p ∈ ps, p ≤ greatest) {n : Nat}
    (hn : (n : Int) = greatest / 8 + 1) (hcapacity : n ≤ memory.capacity)
    (hlow : ∀ p ∈ ps, -8 * n ≤ p) :
    ∃ bitmap : List UInt8, ofPositions memory ps = .ok bitmap ∧ bitmap.length = n ∧
      ofPositions memory (ps.map (fromStart n)) = .ok bitmap := by
  have hcount := byteCount_fromStart hmem hle hn hlow
  have hfromStart : ps.map (fromStart n) =
      (ps.map fun p => (fromStart n p).toNat).map Nat.cast := by
    rw [List.map_map]
    refine List.map_congr_left fun p hp => ?_
    exact (Int.toNat_of_nonneg (fromStart_nonneg (hlow p hp))).symm
  refine ⟨_, ofPositions_of_fits hmem hle hn hcapacity hlow, ?_, ?_⟩
  · rw [length_shortest, hcount]
  · rw [hfromStart, ofPositions_of_le (hcount.trans_le hcapacity)]

theorem outcome_congr (memory : Memory) {qs : List Int} (hmem : greatest ∈ ps)
    (hle : ∀ p ∈ ps, p ≤ greatest) (h : ∀ p, p ∈ qs ↔ p ∈ ps) :
    outcome memory qs = outcome memory ps := by
  have hmem' : greatest ∈ qs := (h greatest).2 hmem
  have hle' : ∀ p ∈ qs, p ≤ greatest := fun p hp => hle p ((h p).1 hp)
  have hbits (n : Int) : shortest (qs.map fun p => (fromStart n p).toNat) =
      shortest (ps.map fun p => (fromStart n p).toNat) := by
    apply shortest_congr
    intro k
    simp only [List.mem_map, h]
  rw [outcome_eq memory hmem hle, outcome_eq memory hmem' hle']
  simp only [h, hbits]

/-- **Negative numbers count from the end.** The greatest number fixes the number of bytes, and each
negative number stands for the number from zero that lies so many bits further up. If this is not to
be had, the number of bytes and the least number decide why. -/
theorem negative_numbers_count_from_the_end (memory : Memory) (hmem : greatest ∈ ps)
    (hle : ∀ p ∈ ps, p ≤ greatest) : CountsBack memory ps (greatest / 8 + 1) := by
  have h := outcome_eq memory hmem hle
  dsimp only at h
  have hword : greatest / 8 + 1 ≤ memory.capacity → 0 ≤ greatest / 8 + 1 →
      FitsWord (greatest / 8 + 1) := by
    have hle_word := memory.le_word
    simp only [FitsWord, wordCapacity] at hle_word ⊢
    omega
  constructor
  case written =>
    intro hnonneg hcapacity hlow
    obtain ⟨n, hn⟩ := Int.eq_ofNat_of_zero_le hnonneg
    rw [hn] at hcapacity hlow ⊢
    obtain ⟨bitmap, hok, hlength, hsame⟩ :=
      exists_written hmem hle hn.symm (Int.ofNat_le.1 hcapacity) hlow
    exact ⟨bitmap, hok, congrArg Int.ofNat hlength, hsame⟩
  case sameSet => exact fun qs => outcome_congr memory hmem hle
  all_goals
    rw [h]
    split_ifs <;> grind

end Outcomes

/-- One number counts back to the bit of another, and one to a bit of its own. -/
theorem counts_back_in_three_bytes :
    let numbers : List Int := [-13, 11, 22, -16]
    (22 ∈ numbers ∧ ∀ p ∈ numbers, p ≤ 22) ∧
      ofPositions .widest numbers = .ok [0x00, 0x09, 0x40] ∧
      ofPositions .widest [11, 11, 22, 8] = .ok [0x00, 0x09, 0x40] := by
  intro numbers
  have hmem : 22 ∈ numbers := by decide
  have hle : ∀ p ∈ numbers, p ≤ 22 := by decide
  obtain ⟨bitmap, hok, -, hsame⟩ :=
    (negative_numbers_count_from_the_end .widest hmem hle).written (by decide) (by decide) (by decide)
  have hbitmap : ofPositions .widest numbers = .ok [0x00, 0x09, 0x40] := by decide
  have heq : bitmap = [0x00, 0x09, 0x40] := Except.ok.inj (hok.symm.trans hbitmap)
  exact ⟨⟨hmem, hle⟩, hbitmap, hsame.trans (congrArg _ heq)⟩

/-- Below the machine words a negative number of bytes is not refused as a bad value, and a number
below its bitmap is not out of range in a memory that has no room for the bitmap. -/
theorem words_and_memory_come_first :
    let belowWords : List Int := [-1000000000000000000000000000000]
    let beyondMemory : List Int := [0x4000000000000000, -0x400000000000000000]
    (∀ memory, lengthOf memory belowWords = .error .lengthBeyondWord ∧
      ¬ (outcome memory belowWords = .error .badValue ↔
        (-1000000000000000000000000000000 : Int) / 8 + 1 < 0)) ∧
      ∀ memory : Memory, memory.capacity ≤ 0x800000000000000 →
        outcome memory beyondMemory = .error .outOfMemory ∧
          ¬ (outcome memory beyondMemory = .error .outOfRange ↔
            ∃ p ∈ beyondMemory, p < -8 * ((0x4000000000000000 : Int) / 8 + 1)) := by
  intro belowWords beyondMemory
  refine ⟨fun memory => ?_, fun memory hroom => ?_⟩
  · have h : lengthOf memory belowWords = .error .lengthBeyondWord := rfl
    refine ⟨h, ?_⟩
    rw [outcome_of_refused h]
    intro hiff
    exact absurd (hiff.2 (by decide)) (by decide)
  · have hmem : 0x4000000000000000 ∈ beyondMemory := by decide
    have hle : ∀ p ∈ beyondMemory, p ≤ 0x4000000000000000 := by decide
    have h : outcome memory beyondMemory = .error .outOfMemory := by
      rw [outcome_eq memory hmem hle, if_neg (by decide), if_neg (by decide), if_pos (by omega)]
    refine ⟨h, ?_⟩
    rw [h]
    intro hiff
    exact absurd (hiff.2 (by decide)) (by decide)

end MeshAlarm.Bitmap
