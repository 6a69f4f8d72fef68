import MeshAlarm.Text.Blank

/-!
# Hexadecimal text

Bytes are written as two lower-case digits each, without separators. They are read in either case,
and ASCII white space may stand before, between and after the bytes, but not between the two digits
of one byte.

## Main definitions

* `digit`, `digitValue?`: one digit and its value
* `padded width n`: the last `width` digits of `n`
* `encode`, `decode`: bytes as text and back
* `ofBytes`: the text of bytes as a string
-/

namespace MeshAlarm.Text.Hex

/-! ### Digits -/

/-- The lower-case digit of a value below sixteen. -/
def digit (n : Nat) : Char :=
  if n < 10 then Char.ofNat (0x30 + n) else Char.ofNat (0x61 + (n - 10))

/-- The value of a digit in either case. -/
def digitValue? (c : Char) : Option Nat :=
  let n := c.toNat
  if 0x30 ≤ n ∧ n ≤ 0x39 then some (n - 0x30)
  else if 0x61 ≤ n ∧ n ≤ 0x66 then some (n - 0x61 + 10)
  else if 0x41 ≤ n ∧ n ≤ 0x46 then some (n - 0x41 + 10)
  else none

/-- The last `width` digits of a number, zeros in front. -/
def padded : Nat → Nat → List Char
  | 0, _ => []
  | width + 1, n => padded width (n / 16) ++ [digit (n % 16)]

/-! ### Bytes -/

/-- Two digits for each byte, the high half first. -/
def encode : List UInt8 → List Char
  | [] => []
  | b :: bs => digit (b.toNat / 16) :: digit (b.toNat % 16) :: encode bs

/-- The bytes that a text denotes, if it consists of pairs of digits with ASCII white space between
the pairs. -/
def decode : List Char → Option (List UInt8)
  | [] => some []
  | c :: cs =>
    if isPlainBlank c then decode cs
    else match cs with
      | [] => none
      | d :: ds =>
        match digitValue? c, digitValue? d, decode ds with
        | some high, some low, some bs => some (UInt8.ofNat (16 * high + low) :: bs)
        | _, _, _ => none

/-- The hexadecimal text of bytes. -/
def ofBytes (bs : List UInt8) : String :=
  String.ofList (encode bs)

end MeshAlarm.Text.Hex
