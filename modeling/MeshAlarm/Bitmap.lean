import MeshAlarm.Fault

/-!
# Bitmaps

A bitmap is a list of bytes whose bits stand for the numbers from zero, eight to a byte, the least
significant bit first: bit `b` of byte `i` stands for `8 * i + b`. Reading a bitmap gives the
numbers in ascending order. Writing numbers takes as many bytes as the greatest one needs, whatever
their order.

A negative number counts from the end of the bitmap that the greatest number determines. There is no
bitmap if the greatest number is so small that its length would be negative, or if some number lies
before the first bit. Lengths and rows are machine words: numbers beyond them are refused before
anything else is looked at. Then there has to be memory for the bitmap. How much there is depends on
the machine, and everything here is for any memory.

Writing goes by a plan, which fixes the length and the place of each number. Only making the plan can
fail.

## Main definitions

* `Bitmap.bitsOf`: the set bits of one byte
* `Bitmap.positions`: the numbers in a bitmap
* `Bitmap.Memory`: the memory that bitmaps are made in
* `Bitmap.lengthOf`, `Bitmap.place`: the length of the bitmap of numbers, and the place of a number
* `Bitmap.Plan`, `Bitmap.Plan.ofPositions`: the plan of a bitmap
* `Bitmap.ofPositions`: the bitmap of numbers
-/

namespace MeshAlarm.Bitmap

/-! ### Reading -/

/-- Whether bit `k` of a byte is set. -/
def hasBit (b : UInt8) (k : Nat) : Bool :=
  b.toNat.testBit k

/-- The set bits of a byte whose lowest bit stands for `first`. -/
def bitsOf (first : Nat) (b : UInt8) : List Nat :=
  ((List.range 8).filter (hasBit b)).map (first + ·)

/-- The numbers in a bitmap whose first bit stands for `first`. -/
def positionsFrom (first : Nat) : List UInt8 → List Nat
  | [] => []
  | b :: bs => bitsOf first b ++ positionsFrom (first + 8) bs

/-- The numbers in a bitmap, ascending. -/
def positions (bitmap : List UInt8) : List Nat :=
  positionsFrom 0 bitmap

/-! ### Planning -/

/-- The numbers that a machine word holds as the length of a bitmap or as a row in it. -/
def FitsWord (n : Int) : Prop :=
  -0x8000000000000000 ≤ n ∧ n < 0x8000000000000000

instance (n : Int) : Decidable (FitsWord n) :=
  inferInstanceAs (Decidable (_ ∧ _))

/-- The most bytes whose number a machine word holds. -/
def wordCapacity : Nat := 0x7FFFFFFFFFFFFFFF

/-- The memory that bitmaps are made in. -/
structure Memory where
  /-- The most bytes that a byte string has in it. -/
  capacity : Nat
  /-- A bitmap has room if a single byte holds the number of its bytes. -/
  byte_le : 255 ≤ capacity
  /-- A machine word holds the number of bytes of everything that has room. -/
  le_word : capacity ≤ wordCapacity

/-- The memory that has room for everything that a machine word can count. -/
def Memory.widest : Memory where
  capacity := wordCapacity
  byte_le := by decide
  le_word := Nat.le_refl _

/-- The row of a number: the byte that its bit is in. -/
def row (position : Int) : Int :=
  position.fdiv 8

/-- The number of bytes of a bitmap with a greatest number. -/
def lengthFor (greatest : Int) : Int :=
  row greatest + 1

/-- The number of bytes of the bitmap of numbers. -/
def lengthOf (memory : Memory) (given : List Int) : Except Fault Nat :=
  match given.max? with
  | none => .ok 0
  | some greatest =>
    let length := lengthFor greatest
    if ¬ FitsWord length then .error .lengthBeyondWord
    else if length < 0 then .error .negativeLength
    else if memory.capacity < length then .error .bitmapBeyondMemory
    else .ok length.toNat

/-- The bit of a number in a bitmap of a length, counted from the first one. -/
def place (length : Nat) (position : Int) : Except Fault Nat :=
  if ¬ FitsWord (row position) then .error .rowBeyondWord
  -- Negative numbers count from the end, once around.
  else if position < -8 * length then .error .bitBelowBitmap
  else .ok (if position < 0 then position + 8 * length else position).toNat

/-- The length of a bitmap and the bits to be set in it. -/
structure Plan where
  length : Nat
  places : List Nat
  deriving DecidableEq, Repr

/-- The plan of the bitmap of numbers. -/
def Plan.ofPositions (memory : Memory) (given : List Int) : Except Fault Plan := do
  let length ← lengthOf memory given
  return { length, places := ← given.mapM (place length) }

/-! ### Writing -/

/-- The byte with only bit `k` set. -/
def bit (k : Nat) : UInt8 :=
  UInt8.ofNat (1 <<< k)

/-- A bitmap with one more bit set. -/
def setBit (bitmap : List UInt8) (place : Nat) : List UInt8 :=
  bitmap.modify (place / 8) (· ||| bit (place % 8))

/-- The bitmap of a plan. -/
def Plan.bitmap (plan : Plan) : List UInt8 :=
  plan.places.foldl setBit (List.replicate plan.length 0)

/-- The bitmap of numbers. -/
def ofPositions (memory : Memory) (given : List Int) : Except Fault (List UInt8) :=
  (Plan.ofPositions memory given).map Plan.bitmap

/-! ### Lengths -/

@[simp] theorem length_setBit (bitmap : List UInt8) (place : Nat) :
    (setBit bitmap place).length = bitmap.length :=
  List.length_modify ..

theorem length_foldl_setBit (places : List Nat) (bitmap : List UInt8) :
    (places.foldl setBit bitmap).length = bitmap.length := by
  induction places generalizing bitmap with
  | nil => rfl
  | cons place places ih => rw [List.foldl_cons, ih, length_setBit]

/-- The bitmap of a plan has the planned length. -/
@[simp] theorem Plan.length_bitmap (plan : Plan) : plan.bitmap.length = plan.length := by
  rw [Plan.bitmap, length_foldl_setBit, List.length_replicate]

end MeshAlarm.Bitmap
