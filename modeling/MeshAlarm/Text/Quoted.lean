import MeshAlarm.Text.Hex
import MeshAlarm.Text.Printable

/-!
# Quoted text

Names and payloads are shown between quotation marks in messages and descriptions. The mark is an
apostrophe, unless the text holds an apostrophe and no double quotation mark. The backslash, the
mark in use and the unprintable characters are escaped.

## Main definitions

* `mark`: the quotation mark for a text
* `escapeChar`, `escapeByte`: how one character or byte stands between the marks
* `quoteText`: a text between marks
* `quoteBytes`: bytes between marks, those of printable ASCII characters as these
* `list`: items in square brackets
-/

namespace MeshAlarm.Text.Quoted

/-- The apostrophe. -/
def apostrophe : Char := '\x27'

/-- The double quotation mark. -/
def doubleMark : Char := '\x22'

/-- The backslash. -/
def backslash : Char := '\x5c'

/-- The mark around a text: an apostrophe where it saves escaping. -/
def mark (cs : List Char) : Char :=
  if cs.contains apostrophe && !cs.contains doubleMark then doubleMark else apostrophe

/-- The escape of a character by its code point, in the shortest of three widths. -/
def escapeCode (n : Nat) : List Char :=
  if n < 0x100 then backslash :: 'x' :: Hex.padded 2 n
  else if n < 0x10000 then backslash :: 'u' :: Hex.padded 4 n
  else backslash :: 'U' :: Hex.padded 8 n

/-- The escapes with a letter of their own, the backslash and the mark in use. -/
def escapeShort? (around c : Char) : Option (List Char) :=
  if c = backslash ∨ c = around then some [backslash, c]
  else if c = '\t' then some [backslash, 't']
  else if c = '\n' then some [backslash, 'n']
  else if c = '\r' then some [backslash, 'r']
  else none

/-- How a character stands between marks. -/
def escapeChar (around c : Char) : List Char :=
  match escapeShort? around c with
  | some escape => escape
  | none => if isPrintable c then [c] else escapeCode c.toNat

/-- How a byte stands between marks: as its ASCII character if that is printable. -/
def escapeByte (around : Char) (b : UInt8) : List Char :=
  let c := Char.ofNat b.toNat
  match escapeShort? around c with
  | some escape => escape
  | none => if 0x20 ≤ b.toNat ∧ b.toNat < 0x7f then [c] else escapeCode b.toNat

/-- A text between marks, as characters. -/
def quoteChars (cs : List Char) : List Char :=
  mark cs :: (cs.flatMap (escapeChar (mark cs)) ++ [mark cs])

/-- A text between marks. -/
def quoteText (text : String) : String :=
  String.ofList (quoteChars text.toList)

/-- Bytes between marks, after the letter `b`. -/
def quoteBytes (bs : List UInt8) : String :=
  let around := mark (bs.map fun b => Char.ofNat b.toNat)
  String.ofList ('b' :: around :: (bs.flatMap (escapeByte around) ++ [around]))

/-- Items in square brackets, separated by a comma and a space. -/
def list (items : List String) : String :=
  "[" ++ ", ".intercalate items ++ "]"

end MeshAlarm.Text.Quoted
