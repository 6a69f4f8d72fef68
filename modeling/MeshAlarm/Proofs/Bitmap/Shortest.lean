import Mathlib.Data.List.DropRight
import MeshAlarm.Proofs.Bitmap

/-!
# The shortest bitmap of a set

A set of numbers has many bitmaps, which differ in the zero bytes at their ends. Writing takes the
shortest of them, with as many bytes as the greatest number needs. What is written depends on nothing
but the set, and reading it gives the set in ascending order. Writing what was read from a bitmap cuts
off its trailing zero bytes, and changes nothing else.

Sets whose shortest bitmap does not fit into memory, or is longer than a machine word can say, have
no bitmap at all. A byte string that is in memory shows that there is room for what is read from it.

## Main definitions

* `Bitmap.trimmed`: a bitmap without its trailing zero bytes
* `Bitmap.Written`: what becomes of numbers that are written
* `Bitmap.Memory.ByteString`: the byte strings that are in memory

## Main results

* `Bitmap.eq_of_isSet`: bitmaps of one length with the same bits are equal
* `Bitmap.eq_shortest`: the shortest bitmap of a set is known by its bits and its length
* `Bitmap.shortest_positions`: what was read is written without trailing zero bytes
* `Bitmap.sets_and_trimmed_bitmaps`: writing and reading undo each other
-/

namespace MeshAlarm.Bitmap

/-! ### Bitmaps with the same bits -/

theorem eq_of_hasBit {a b : UInt8} (h : ∀ k < 8, hasBit a k = hasBit b k) : a = b := by
  apply UInt8.toNat_inj.1
  apply Nat.eq_of_testBit_eq
  intro k
  rcases Nat.lt_or_ge k 8 with hk | hk
  · exact h k hk
  · have hpow : 2 ^ 8 ≤ 2 ^ k := Nat.pow_le_pow_right (by decide) hk
    rw [Nat.testBit_lt_two_pow (a.toNat_lt.trans_le hpow),
      Nat.testBit_lt_two_pow (b.toNat_lt.trans_le hpow)]

theorem exists_hasBit {b : UInt8} (h : b ≠ 0) : ∃ k < 8, hasBit b k := by
  by_contra hnone
  simp only [not_exists, not_and, Bool.not_eq_true] at hnone
  apply h
  apply eq_of_hasBit
  intro k hk
  rw [hnone k hk, hasBit, UInt8.toNat_zero, Nat.zero_testBit]

/-- The bits of the byte in a row. -/
theorem isSet_getElem {bitmap : List UInt8} {i k : Nat} (hi : i < bitmap.length) (hk : k < 8) :
    IsSet bitmap (8 * i + k) ↔ hasBit bitmap[i] k := by
  have hrow : (8 * i + k) / 8 = i := by omega
  have hbit : (8 * i + k) % 8 = k := by omega
  simp only [IsSet, hrow, hbit, List.getElem?_eq_getElem hi, Option.some.injEq, exists_eq_left']

/-- Bitmaps of one length with the same bits are equal. -/
theorem eq_of_isSet {a b : List UInt8} (hlength : a.length = b.length)
    (h : ∀ k, IsSet a k ↔ IsSet b k) : a = b := by
  apply List.ext_getElem hlength
  intro i ha hb
  apply eq_of_hasBit
  intro k hk
  rw [Bool.eq_iff_iff, ← isSet_getElem ha hk, ← isSet_getElem hb hk]
  exact h (8 * i + k)

/-! ### The shortest bitmap -/

section Shortest

variable {ps qs : List Nat}

/-- A bitmap with the bits of a set is the shortest one, if it has as many bytes. -/
theorem eq_shortest {bitmap : List UInt8} (hlength : bitmap.length = byteCount ps)
    (h : ∀ k, IsSet bitmap k ↔ k ∈ ps) : bitmap = shortest ps := by
  apply eq_of_isSet
  · rw [hlength, length_shortest]
  · intro k
    rw [h, ← mem_positions, mem_positions_shortest]

theorem shortest_congr (h : ∀ k, k ∈ qs ↔ k ∈ ps) : shortest qs = shortest ps := by
  apply eq_shortest
  · rw [length_shortest, byteCount_congr h]
  · intro k
    rw [← mem_positions, mem_positions_shortest, h]

/-- What becomes of numbers depends on nothing but their set. -/
theorem ofPositions_congr (memory : Memory) (h : ∀ k, k ∈ qs ↔ k ∈ ps) :
    ofPositions memory (qs.map Nat.cast) = ofPositions memory (ps.map Nat.cast) := by
  rw [ofPositions_natCast, ofPositions_natCast, byteCount_congr h, shortest_congr h]

end Shortest

/-! ### Trailing zero bytes -/

/-- A bitmap without its trailing zero bytes. -/
def trimmed (bitmap : List UInt8) : List UInt8 :=
  bitmap.rdropWhile (· == 0)

theorem trimmed_concat_zero (bitmap : List UInt8) : trimmed (bitmap ++ [0]) = trimmed bitmap :=
  List.rdropWhile_concat_pos _ _ _ rfl

theorem trimmed_concat_of_ne_zero {b : UInt8} (h : b ≠ 0) (bitmap : List UInt8) :
    trimmed (bitmap ++ [b]) = bitmap ++ [b] :=
  List.rdropWhile_concat_neg _ _ _ (by simpa using h)

/-- A zero byte behind a bitmap has no bits. -/
theorem isSet_concat_zero {bitmap : List UInt8} {k : Nat} :
    IsSet (bitmap ++ [0]) k ↔ IsSet bitmap k := by
  rcases Nat.lt_or_ge (k / 8) bitmap.length with hrow | hrow
  · simp only [IsSet, List.getElem?_append_left hrow]
  · have hbehind : ¬ IsSet bitmap k := by
      intro h
      have hlt := h.lt
      omega
    refine iff_of_false ?_ hbehind
    rintro ⟨b, hb, hbit⟩
    rw [List.getElem?_append_right hrow] at hb
    obtain rfl := List.mem_singleton.1 (List.mem_of_getElem? hb)
    simp [hasBit] at hbit

/-- No bit is lost with the trailing zero bytes. -/
theorem isSet_trimmed {bitmap : List UInt8} {k : Nat} :
    IsSet (trimmed bitmap) k ↔ IsSet bitmap k := by
  induction bitmap using List.reverseRecOn with
  | nil => rfl
  | append_singleton bitmap b ih =>
    by_cases hb : b = 0
    · rw [hb, trimmed_concat_zero, isSet_concat_zero, ih]
    · rw [trimmed_concat_of_ne_zero hb]

theorem positions_trimmed (bitmap : List UInt8) :
    positions (trimmed bitmap) = positions bitmap := by
  apply List.Pairwise.eq_of_mem_iff (pairwise_positions _) (pairwise_positions _)
  intro k
  rw [mem_positions, mem_positions, isSet_trimmed]

/-- What is left ends in a byte with a bit, so that it has no more bytes than its bits need. -/
theorem length_trimmed_le {bitmap : List UInt8} {n : Nat} (h : ∀ k, IsSet bitmap k → k < 8 * n) :
    (trimmed bitmap).length ≤ n := by
  -- Induction from the end, where the zero bytes are cut off.
  induction bitmap using List.reverseRecOn with
  | nil => exact n.zero_le
  | append_singleton bitmap b ih =>
    by_cases hb : b = 0
    · rw [hb] at h ⊢
      rw [trimmed_concat_zero]
      exact ih fun k hk => h k (isSet_concat_zero.2 hk)
    · obtain ⟨k, hk, hbit⟩ := exists_hasBit hb
      have hset : IsSet (bitmap ++ [b]) (8 * bitmap.length + k) := by
        rw [isSet_getElem (by simp) hk, List.getElem_concat_length rfl]
        exact hbit
      have hroom := h _ hset
      rw [trimmed_concat_of_ne_zero hb, List.length_append, List.length_singleton]
      omega

theorem length_trimmed_le_length (bitmap : List UInt8) :
    (trimmed bitmap).length ≤ bitmap.length :=
  (List.rdropWhile_prefix _ _).length_le

theorem length_trimmed (bitmap : List UInt8) :
    (trimmed bitmap).length = byteCount (positions bitmap) := by
  apply le_antisymm
  · exact length_trimmed_le fun k hk => lt_byteCount (mem_positions.2 hk)
  · apply byteCount_le_iff.2
    intro k hk
    exact (isSet_trimmed.2 (mem_positions.1 hk)).lt

/-- What was read from a bitmap is written without trailing zero bytes. -/
theorem shortest_positions (bitmap : List UInt8) :
    shortest (positions bitmap) = trimmed bitmap := by
  symm
  apply eq_shortest (length_trimmed bitmap)
  intro k
  rw [isSet_trimmed, mem_positions]

theorem ofPositions_positions {memory : Memory} {bitmap : List UInt8}
    (h : (trimmed bitmap).length ≤ memory.capacity) :
    ofPositions memory ((positions bitmap).map Nat.cast) = .ok (trimmed bitmap) := by
  rw [length_trimmed] at h
  rw [ofPositions_of_le h, shortest_positions]

/-! ### Writing and reading -/

/-- What becomes of numbers from zero that are written, in any order and any number of times. -/
structure Written (memory : Memory) (ps : List Nat) : Prop where
  /-- If memory has room for the bytes that the greatest number needs, then the bitmap has just
  these. Reading gives each of the numbers once, ascending. -/
  fits : byteCount ps ≤ memory.capacity →
    ∃ bitmap, ofPositions memory (ps.map Nat.cast) = .ok bitmap ∧ bitmap.length = byteCount ps ∧
      (positions bitmap).Pairwise (· < ·) ∧ ∀ k, k ∈ positions bitmap ↔ k ∈ ps
  /-- If not, memory is blamed, as long as a machine word holds their number. -/
  outOfMemory : memory.capacity < byteCount ps → byteCount ps ≤ wordCapacity →
    ∃ fault, ofPositions memory (ps.map Nat.cast) = .error fault ∧ fault.kind = .outOfMemory
  /-- Beyond that no memory is asked for. -/
  overflow : wordCapacity < byteCount ps →
    ∃ fault, ofPositions memory (ps.map Nat.cast) = .error fault ∧ fault.kind = .overflow
  /-- It makes no difference how the same set is listed. -/
  sameSet : ∀ qs : List Nat, (∀ k, k ∈ qs ↔ k ∈ ps) →
    ofPositions memory (qs.map Nat.cast) = ofPositions memory (ps.map Nat.cast)

theorem written (memory : Memory) (ps : List Nat) : Written memory ps where
  fits h := ⟨shortest ps, ofPositions_of_le h, length_shortest ps, pairwise_positions _,
    fun _ => mem_positions_shortest⟩
  outOfMemory hmemory hword := by
    rw [ofPositions_natCast, if_neg (Nat.not_lt.2 hword), if_pos hmemory]
    exact ⟨_, rfl, rfl⟩
  overflow hword := by
    rw [ofPositions_natCast, if_pos hword]
    exact ⟨_, rfl, rfl⟩
  sameSet _ h := ofPositions_congr memory h

/-- The byte strings that are in memory. -/
def Memory.ByteString (memory : Memory) : Type :=
  { bytes : List UInt8 // bytes.length ≤ memory.capacity }

/-- **Sets and bitmaps without trailing zero bytes are the same thing.** Numbers from zero are
written as the shortest bitmap of their set, if memory has room for it, and read back from it. What
is read from a byte string in memory is written as the byte string without its trailing zero bytes. -/
theorem sets_and_trimmed_bitmaps (memory : Memory) :
    (∀ ps, Written memory ps) ∧ ∀ bitmap : memory.ByteString,
      ofPositions memory ((positions bitmap.1).map Nat.cast) = .ok (trimmed bitmap.1) := by
  refine ⟨written memory, ?_⟩
  intro bitmap
  exact ofPositions_positions ((length_trimmed_le_length bitmap.1).trans bitmap.2)

/-- Zero bytes at the end are cut off, and one between others stays. -/
theorem trims_two_of_five :
    ofPositions .widest ((positions [0x42, 0x00, 0x80, 0x00, 0x00]).map Nat.cast) =
      .ok [0x42, 0x00, 0x80] :=
  (sets_and_trimmed_bitmaps .widest).2 ⟨[0x42, 0x00, 0x80, 0x00, 0x00], by decide⟩

/-- A number beyond the machine words has no bitmap in any memory, and one that a word holds has none
in a memory with less room. -/
theorem no_bitmap_beyond_words_or_memory :
    let beyondWords : List Nat := [1000000000000000000000000000000]
    let beyondMemory : List Nat := [0x4000000000000000]
    (∀ memory, ofPositions memory (beyondWords.map Nat.cast) = .error .lengthBeyondWord ∧
      ¬ ∃ bitmap, ofPositions memory (beyondWords.map Nat.cast) = .ok bitmap) ∧
      ∀ memory : Memory, memory.capacity ≤ 0x800000000000000 →
        ofPositions memory (beyondMemory.map Nat.cast) = .error .bitmapBeyondMemory := by
  intro beyondWords beyondMemory
  refine ⟨fun memory => ?_, fun memory hroom => ?_⟩
  · have h : ofPositions memory (beyondWords.map Nat.cast) = .error .lengthBeyondWord := rfl
    refine ⟨h, ?_⟩
    rintro ⟨bitmap, hok⟩
    rw [h] at hok
    cases hok
  · have hcount : byteCount beyondMemory = 0x800000000000001 := rfl
    rw [ofPositions_natCast, hcount, if_neg (by decide), if_pos (by omega)]

end MeshAlarm.Bitmap
