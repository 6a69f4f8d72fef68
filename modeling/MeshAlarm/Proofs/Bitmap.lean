import Mathlib.Data.List.Sort
import MeshAlarm.Bitmap
import MeshAlarm.Proofs.Results

/-!
# What a bitmap says

A bitmap is seen through the numbers whose bits are set. Reading gives exactly these, in ascending
order; setting a bit adds one number; and the bitmap of a plan holds the planned places.

Numbers from zero have a bitmap if memory has room for it. It is the shortest one, with the bytes that
the greatest of them needs to have a bit. If these are too many there is none, and their number
decides why.

## Main definitions

* `Bitmap.IsSet`: whether the bit of a number is set
* `Bitmap.byteCount`: the number of bytes that the greatest of some numbers needs
* `Bitmap.shortest`: the bitmap of so many bytes

## Main results

* `Bitmap.mem_positions`, `Bitmap.pairwise_positions`: reading gives the set numbers, ascending
* `Bitmap.positions_eq_filter`: reading selects from the numbers of the bits
* `Bitmap.isSet_setBit`: setting a bit adds one number
* `Bitmap.Plan.mem_positions_bitmap`: reading the bitmap of a plan gives its places
* `Bitmap.byteCount_le_iff`: the bytes that leave a bit for each number
* `Bitmap.Plan.ofPositions_natCast`, `Bitmap.ofPositions_natCast`: the plan and the bitmap of numbers
  from zero, or why they have none
-/

namespace MeshAlarm.Bitmap

/-- Whether the bit of a number is set in a bitmap. -/
def IsSet (bitmap : List UInt8) (k : Nat) : Prop :=
  ∃ b, bitmap[k / 8]? = some b ∧ hasBit b (k % 8)

instance (bitmap : List UInt8) (k : Nat) : Decidable (IsSet bitmap k) :=
  decidable_of_iff (bitmap[k / 8]?.any fun b => hasBit b (k % 8)) (Option.any_eq_true ..)

theorem not_isSet_nil (k : Nat) : ¬ IsSet [] k := by
  simp [IsSet]

/-- Only the bits of the bytes that are there are set. -/
theorem IsSet.lt {bitmap : List UInt8} {k : Nat} (h : IsSet bitmap k) : k < 8 * bitmap.length := by
  obtain ⟨b, hb, -⟩ := h
  obtain ⟨hrow, -⟩ := List.getElem?_eq_some_iff.1 hb
  omega

/-- The first byte decides on the first eight numbers, the other bytes on the rest. -/
theorem isSet_cons {b : UInt8} {bitmap : List UInt8} {k : Nat} :
    IsSet (b :: bitmap) k ↔ k < 8 ∧ hasBit b k ∨ 8 ≤ k ∧ IsSet bitmap (k - 8) := by
  rcases Nat.lt_or_ge k 8 with hk | hk
  · have h₀ : k / 8 = 0 := by omega
    have h₁ : k % 8 = k := by omega
    simp [IsSet, h₀, h₁, hk, Nat.not_le.2 hk]
  · have h₀ : k / 8 = (k - 8) / 8 + 1 := by omega
    have h₁ : k % 8 = (k - 8) % 8 := by omega
    simp [IsSet, h₀, h₁, hk, Nat.not_lt.2 hk]

/-! ### Reading -/

theorem mem_bitsOf {first : Nat} {b : UInt8} {k : Nat} :
    k ∈ bitsOf first b ↔ first ≤ k ∧ k - first < 8 ∧ hasBit b (k - first) := by
  simp only [bitsOf, List.mem_map, List.mem_filter, List.mem_range]
  constructor
  · rintro ⟨i, ⟨hi, hbit⟩, rfl⟩
    exact ⟨by omega, by omega, by simpa using hbit⟩
  · rintro ⟨hk, hlt, hbit⟩
    exact ⟨k - first, ⟨hlt, hbit⟩, by omega⟩

theorem mem_positionsFrom {first : Nat} {bitmap : List UInt8} {k : Nat} :
    k ∈ positionsFrom first bitmap ↔ first ≤ k ∧ IsSet bitmap (k - first) := by
  induction bitmap generalizing first with
  | nil => simp [positionsFrom, not_isSet_nil]
  | cons b bitmap ih =>
    rw [positionsFrom, List.mem_append, mem_bitsOf, ih, isSet_cons, Nat.sub_add_eq]
    constructor
    · rintro (⟨hk, h⟩ | ⟨hk, h⟩)
      · exact ⟨hk, .inl h⟩
      · exact ⟨by omega, .inr ⟨by omega, h⟩⟩
    · rintro ⟨hk, h | ⟨hle, h⟩⟩
      · exact .inl ⟨hk, h⟩
      · exact .inr ⟨by omega, h⟩

/-- Reading a bitmap gives the numbers that are set. -/
theorem mem_positions {bitmap : List UInt8} {k : Nat} : k ∈ positions bitmap ↔ IsSet bitmap k := by
  simp [positions, mem_positionsFrom]

theorem pairwise_bitsOf (first : Nat) (b : UInt8) : (bitsOf first b).Pairwise (· < ·) := by
  rw [bitsOf, List.pairwise_map]
  exact (List.pairwise_lt_range.filter _).imp fun h => by omega

/-- Reading a bitmap goes upwards. -/
theorem pairwise_positionsFrom (first : Nat) (bitmap : List UInt8) :
    (positionsFrom first bitmap).Pairwise (· < ·) := by
  induction bitmap generalizing first with
  | nil => exact List.Pairwise.nil
  | cons b bitmap ih =>
    refine List.pairwise_append.2 ⟨pairwise_bitsOf first b, ih _, ?_⟩
    intro i hi j hj
    have hbyte := mem_bitsOf.1 hi
    have hrest := mem_positionsFrom.1 hj
    omega

theorem pairwise_positions (bitmap : List UInt8) : (positions bitmap).Pairwise (· < ·) :=
  pairwise_positionsFrom 0 bitmap

/-- Reading a bitmap selects from the numbers of its bits. -/
theorem positions_eq_filter (bitmap : List UInt8) :
    positions bitmap = (List.range (8 * bitmap.length)).filter fun k => IsSet bitmap k := by
  apply List.Pairwise.eq_of_mem_iff (pairwise_positions bitmap) (List.pairwise_lt_range.filter _)
  intro k
  rw [mem_positions, List.mem_filter, List.mem_range, decide_eq_true_iff]
  exact (and_iff_right_of_imp IsSet.lt).symm

/-! ### Writing -/

theorem hasBit_or (a b : UInt8) (k : Nat) : hasBit (a ||| b) k = (hasBit a k || hasBit b k) := by
  simp [hasBit]

theorem hasBit_bit {i k : Nat} (hi : i < 8) : hasBit (bit i) k = decide (i = k) := by
  have hlt : 2 ^ i < 256 := Nat.pow_lt_pow_right (by decide) hi
  rw [hasBit, bit, Nat.one_shiftLeft, UInt8.toNat_ofNat_of_lt' hlt, Nat.testBit_two_pow]

/-- Setting a bit adds one number. -/
theorem isSet_setBit {bitmap : List UInt8} {place : Nat} (h : place < 8 * bitmap.length) (k : Nat) :
    IsSet (setBit bitmap place) k ↔ IsSet bitmap k ∨ k = place := by
  by_cases hrow : place / 8 = k / 8
  · obtain ⟨b, hb⟩ : ∃ b, bitmap[k / 8]? = some b :=
      ⟨_, List.getElem?_eq_getElem (by omega)⟩
    have hkey : place % 8 = k % 8 ↔ k = place := by omega
    simp only [IsSet, setBit, hrow, List.getElem?_modify_eq, hb, Option.map_eq_map,
      Option.map_some, Option.some.injEq, exists_eq_left', hasBit_or, Bool.or_eq_true,
      hasBit_bit (Nat.mod_lt place (by decide)), decide_eq_true_eq, hkey]
  · have hne : k ≠ place := by
      rintro rfl
      exact hrow rfl
    simp [IsSet, setBit, List.getElem?_modify_ne _ _ hrow, hne]

theorem isSet_foldl_setBit {places : List Nat} {bitmap : List UInt8}
    (h : ∀ place ∈ places, place < 8 * bitmap.length) (k : Nat) :
    IsSet (places.foldl setBit bitmap) k ↔ IsSet bitmap k ∨ k ∈ places := by
  induction places generalizing bitmap with
  | nil => simp
  | cons place places ih =>
    have hplace := h place List.mem_cons_self
    have hplaces : ∀ p ∈ places, p < 8 * (setBit bitmap place).length := by
      intro p hp
      rw [length_setBit]
      exact h p (List.mem_cons_of_mem _ hp)
    rw [List.foldl_cons, ih hplaces, isSet_setBit hplace, List.mem_cons, or_assoc]

theorem not_isSet_replicate (length k : Nat) : ¬ IsSet (List.replicate length 0) k := by
  rintro ⟨b, hb, hbit⟩
  obtain rfl := List.eq_of_mem_replicate (List.mem_of_getElem? hb)
  simp [hasBit] at hbit

/-- Reading the bitmap of a plan gives its places, if each of them lies in the bitmap. -/
theorem Plan.mem_positions_bitmap {plan : Plan} (h : ∀ place ∈ plan.places, place < 8 * plan.length)
    {k : Nat} : k ∈ positions plan.bitmap ↔ k ∈ plan.places := by
  have h' : ∀ place ∈ plan.places, place < 8 * (List.replicate plan.length (0 : UInt8)).length := by
    simpa using h
  rw [mem_positions, Plan.bitmap, isSet_foldl_setBit h']
  exact or_iff_right (not_isSet_replicate _ _)

/-! ### The bytes that numbers need -/

section ByteCount

variable {ps qs : List Nat}

/-- The number of bytes that the greatest of some numbers needs. -/
def byteCount (ps : List Nat) : Nat :=
  match ps.max? with
  | none => 0
  | some greatest => greatest / 8 + 1

/-- So many bytes are enough if they leave a bit for each number. -/
theorem byteCount_le_iff {n : Nat} : byteCount ps ≤ n ↔ ∀ p ∈ ps, p < 8 * n := by
  unfold byteCount
  cases hmax : ps.max? with
  | none =>
    obtain rfl := List.max?_eq_none_iff.1 hmax
    simp
  | some greatest =>
    obtain ⟨hmem, hle⟩ := List.max?_eq_some_iff.1 hmax
    dsimp only
    constructor
    · intro hn p hp
      have hgreatest := hle p hp
      omega
    · intro hroom
      have hgreatest := hroom greatest hmem
      omega

theorem lt_byteCount_iff {n : Nat} : n < byteCount ps ↔ ∃ p ∈ ps, 8 * n ≤ p := by
  rw [← Nat.not_le, byteCount_le_iff]
  simp only [not_forall, Nat.not_lt, exists_prop]

theorem lt_byteCount {p : Nat} (h : p ∈ ps) : p < 8 * byteCount ps :=
  byteCount_le_iff.1 le_rfl p h

theorem byteCount_congr (h : ∀ k, k ∈ qs ↔ k ∈ ps) : byteCount qs = byteCount ps := by
  apply eq_of_forall_ge_iff
  intro n
  simp only [byteCount_le_iff, h]

end ByteCount

/-! ### Planning numbers from zero -/

theorem fitsWord_natCast_iff {n : Nat} : FitsWord n ↔ n ≤ wordCapacity := by
  simp only [FitsWord, wordCapacity]
  omega

theorem row_eq (p : Int) : row p = p / 8 :=
  Int.fdiv_eq_ediv_of_nonneg p (by decide)

theorem row_natCast (p : Nat) : row (p : Int) = (p / 8 : Nat) := by
  rw [row_eq]
  rfl

theorem lengthFor_natCast (p : Nat) : lengthFor (p : Int) = (p / 8 + 1 : Nat) := by
  rw [lengthFor, row_natCast]
  rfl

theorem max?_natCast (ps : List Nat) :
    (ps.map Nat.cast : List Int).max? = ps.max?.map Nat.cast := by
  cases hmax : ps.max? with
  | none =>
    obtain rfl := List.max?_eq_none_iff.1 hmax
    rfl
  | some greatest =>
    obtain ⟨hmem, hle⟩ := List.max?_eq_some_iff.1 hmax
    apply List.max?_eq_some_iff.2
    refine ⟨List.mem_map_of_mem hmem, ?_⟩
    intro p hp
    obtain ⟨q, hq, rfl⟩ := List.mem_map.1 hp
    exact Int.ofNat_le.2 (hle q hq)

/-- The bitmap of numbers from zero has the bytes that the greatest of them needs. -/
theorem lengthOf_natCast (memory : Memory) (ps : List Nat) :
    lengthOf memory (ps.map Nat.cast) =
      if wordCapacity < byteCount ps then .error .lengthBeyondWord
      else if memory.capacity < byteCount ps then .error .bitmapBeyondMemory
      else .ok (byteCount ps) := by
  rw [lengthOf, max?_natCast, byteCount]
  cases ps.max? with
  | none => rfl
  | some greatest =>
    have hnonneg : ¬ ((greatest / 8 + 1 : Nat) : Int) < 0 := by omega
    simp only [Option.map_some, lengthFor_natCast, fitsWord_natCast_iff, Nat.not_le, if_neg hnonneg,
      Int.ofNat_lt, Int.toNat_natCast]

theorem place_natCast (length : Nat) {p : Nat} (h : p < 8 * wordCapacity) :
    place length (p : Int) = .ok p := by
  have hrow : FitsWord (row p) := by
    rw [row_natCast, fitsWord_natCast_iff]
    omega
  rw [place, if_neg (not_not_intro hrow), if_neg (by omega), if_neg (by omega)]
  rfl

theorem mapM_place_natCast (length : Nat) {ps : List Nat} (h : ∀ p ∈ ps, p < 8 * wordCapacity) :
    (ps.map Nat.cast).mapM (place length) = Except.ok ps := by
  have hplaces : ∀ p ∈ ps, (place length ∘ Nat.cast) p = .ok (id p) :=
    fun p hp => place_natCast length (h p hp)
  rw [List.mapM_map, mapM_of_forall hplaces, List.map_id]

/-- Numbers from zero are planned as they are, unless they need too many bytes. -/
theorem Plan.ofPositions_natCast (memory : Memory) (ps : List Nat) :
    Plan.ofPositions memory (ps.map Nat.cast) =
      if wordCapacity < byteCount ps then .error .lengthBeyondWord
      else if memory.capacity < byteCount ps then .error .bitmapBeyondMemory
      else .ok ⟨byteCount ps, ps⟩ := by
  rw [Plan.ofPositions, lengthOf_natCast]
  split
  · rfl
  · next hword =>
    split
    · rfl
    · have hplaces := mapM_place_natCast (byteCount ps) (byteCount_le_iff.1 (Nat.not_lt.1 hword))
      simp only [bind, Except.bind, hplaces]
      rfl

/-! ### The shortest bitmap -/

section Shortest

variable {memory : Memory} {ps : List Nat}

/-- The shortest bitmap of numbers from zero. -/
def shortest (ps : List Nat) : List UInt8 :=
  Plan.bitmap ⟨byteCount ps, ps⟩

@[simp] theorem length_shortest (ps : List Nat) : (shortest ps).length = byteCount ps :=
  Plan.length_bitmap _

theorem mem_positions_shortest {k : Nat} : k ∈ positions (shortest ps) ↔ k ∈ ps :=
  Plan.mem_positions_bitmap fun _ => lt_byteCount

/-- The shortest bitmap is written, unless it has too many bytes. -/
theorem ofPositions_natCast (memory : Memory) (ps : List Nat) :
    ofPositions memory (ps.map Nat.cast) =
      if wordCapacity < byteCount ps then .error .lengthBeyondWord
      else if memory.capacity < byteCount ps then .error .bitmapBeyondMemory
      else .ok (shortest ps) := by
  rw [ofPositions, Plan.ofPositions_natCast]
  split
  · rfl
  · split <;> rfl

theorem ofPositions_of_le (h : byteCount ps ≤ memory.capacity) :
    ofPositions memory (ps.map Nat.cast) = .ok (shortest ps) := by
  have hword : byteCount ps ≤ wordCapacity := h.trans memory.le_word
  rw [ofPositions_natCast, if_neg (Nat.not_lt.2 hword), if_neg (Nat.not_lt.2 h)]

end Shortest

end MeshAlarm.Bitmap
