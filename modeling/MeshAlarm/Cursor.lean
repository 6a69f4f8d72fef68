import MeshAlarm.Act

/-!
# Reading bytes in order

A cursor stands at a position in its bytes and moves on by what is taken. It moves before it looks
whether that much is there, so a take that fails leaves it behind the end, where every further take
fails too. Taking a negative number moves it back; positions before the start count from the end.

## Main definitions

* `between first last bytes`: the bytes between two positions
* `Cursor`: bytes and a position
* `Cursor.left`, `Cursor.isAtEnd`: how many bytes are left, and whether none is
* `Cursor.take`, `Cursor.next`, `Cursor.takeAll`: the moves
-/

namespace MeshAlarm

/-- The number of bytes in front of a position. Negative positions count from the end. -/
def offset (length : Nat) (position : Int) : Nat :=
  if 0 ≤ position then min position.toNat length else (position + length).toNat

/-- The bytes between two positions. -/
def between (first last : Int) (bytes : List UInt8) : List UInt8 :=
  (bytes.take (offset bytes.length last)).drop (offset bytes.length first)

/-- Bytes and how far they have been read. -/
structure Cursor where
  bytes : List UInt8
  position : Int := 0

namespace Cursor

variable {α : Type}

/-- The number of bytes not yet taken. -/
def left (c : Cursor) : Nat :=
  (c.bytes.length - c.position).toNat

/-- Whether all bytes have been taken. -/
def isAtEnd (c : Cursor) : Bool :=
  c.bytes.length ≤ c.position

/-- Takes the next `n` bytes. -/
def take (n : Int) : Act Cursor α (List UInt8) := do
  let before ← Act.read
  -- The cursor moves even if the take then fails.
  Act.update fun c => { c with position := c.position + n }
  if before.bytes.length < before.position + n then Act.fail .dataExhausted
  else return between before.position (before.position + n) before.bytes

/-- Takes the next byte. -/
def next : Act Cursor α UInt8 := do
  match ← take 1 with
  | byte :: _ => return byte
  -- In front of the first byte, and across the start, there is nothing to read.
  | [] => Act.fail .noByteHere

/-- Takes all bytes that are left. -/
def takeAll : Act Cursor α (List UInt8) := do
  take (← Act.read).left

end Cursor

end MeshAlarm
