import MeshAlarm.Text.Blank
import MeshAlarm.Text.Digit

/-!
# Numerals

An integer is written in decimal, or in base sixteen, eight or two behind the marker `0x`, `0o` or
`0b` in either case, with an optional sign in front. Single underscores may stand between digits and
behind the marker. A decimal numeral has no superfluous leading zero, so `007` is refused, while `0`
and `000` are zero. Digits of every script count.

Option values of the command line are plain decimal numerals instead: no marker, leading zeros
allowed, white space around them ignored.

Numerals may have any number of digits here. A reader that refuses very long ones, such as those of
more than 4300 decimal digits, agrees with these up to its limit and fails beyond it.

## Main definitions

* `digitIn base`: the value of a letter or digit in a base
* `readDigits base`: digits with single underscores between them
* `readMarked`: a natural number in the base its marker names
* `readInteger?`: an integer in the base its marker names
* `readDecimal?`: a plain decimal integer
-/

namespace MeshAlarm.Text.Numeral

/-! ### Digits of a base -/

/-- The value of an ASCII digit or letter in a base. -/
def digitIn (base : Nat) (c : Char) : Option Nat :=
  let n := c.toNat
  let value? :=
    if 0x30 ≤ n ∧ n ≤ 0x39 then some (n - 0x30)
    else if 0x61 ≤ n ∧ n ≤ 0x7a then some (n - 0x61 + 10)
    else if 0x41 ≤ n ∧ n ≤ 0x5a then some (n - 0x41 + 10)
    else none
  value?.filter (· < base)

/-- Reads on from a number whose last digit was just read. -/
def continueDigits (base : Nat) : Nat → List Char → Option Nat
  | n, [] => some n
  | n, '_' :: c :: cs =>
    match digitIn base c with
    | some d => continueDigits base (n * base + d) cs
    | none => none
  | n, c :: cs =>
    match digitIn base c with
    | some d => continueDigits base (n * base + d) cs
    | none => none

/-- The number that digits denote: at least one, with single underscores between them. -/
def readDigits (base : Nat) : List Char → Option Nat
  | [] => none
  | c :: cs =>
    match digitIn base c with
    | some d => continueDigits base d cs
    | none => none

/-! ### Bases by marker -/

/-- The base that the letter after a leading zero names. -/
def markedBase? (c : Char) : Option Nat :=
  if c = 'x' ∨ c = 'X' then some 16
  else if c = 'o' ∨ c = 'O' then some 8
  else if c = 'b' ∨ c = 'B' then some 2
  else none

/-- The digits behind a marker; one underscore may come first. -/
def dropUnderscore : List Char → List Char
  | '_' :: cs => cs
  | cs => cs

/-- A natural number in the base its marker names, in decimal without one. A decimal numeral that
starts with a zero denotes zero or nothing. -/
def readMarked : List Char → Option Nat
  | '0' :: c :: cs =>
    match markedBase? c with
    | some base => readDigits base (dropUnderscore cs)
    -- Without a marker only zeros may follow the leading zero.
    | none => (readDigits 10 ('0' :: c :: cs)).filter (· = 0)
  | cs => readDigits 10 cs

/-! ### Integers -/

/-- A number with its sign in front. -/
def readSigned (read : List Char → Option Nat) : List Char → Option Int
  | '-' :: cs => (read cs).map fun n => -(n : Int)
  | '+' :: cs => (read cs).map Int.ofNat
  | cs => (read cs).map Int.ofNat

/-- An integer in the base its marker names, of any number of digits. -/
def readInteger? (text : String) : Option Int :=
  readSigned readMarked (trim isMargin (text.toList.map plainDigit))

/-- A plain decimal integer of any number of digits, white space around it ignored. -/
def readDecimal? (text : String) : Option Int :=
  readSigned (readDigits 10) (trim isMargin (text.toList.map plainDigit))

end MeshAlarm.Text.Numeral
