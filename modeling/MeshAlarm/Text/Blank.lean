/-!
# Blanks

Three sets of white space are in use. Words are separated, and names trimmed, at any Unicode white
space; hexadecimal text may be spaced out with ASCII white space only; a numeral may stand between
ASCII white space and Unicode white space above ASCII, but not between the four information
separators.

## Main definitions

* `isBlank`: Unicode white space
* `isPlainBlank`: ASCII white space
* `isMargin`: the white space around a numeral
* `trim`: a text without the blanks at its ends
* `words`: the blank-separated words of a text
-/

namespace MeshAlarm.Text

/-- Unicode white space, the information separators U+001C to U+001F included. -/
def isBlank (c : Char) : Bool :=
  let n := c.toNat
  (0x09 ≤ n && n ≤ 0x0d) || (0x1c ≤ n && n ≤ 0x20) || n == 0x85 || n == 0xa0 || n == 0x1680 ||
    (0x2000 ≤ n && n ≤ 0x200a) || n == 0x2028 || n == 0x2029 || n == 0x202f || n == 0x205f ||
    n == 0x3000

/-- ASCII white space: the space, tab, line feed, vertical tab, form feed and carriage return. -/
def isPlainBlank (c : Char) : Bool :=
  c.toNat == 0x20 || (0x09 ≤ c.toNat && c.toNat ≤ 0x0d)

/-- The white space that may surround a numeral. -/
def isMargin (c : Char) : Bool :=
  isPlainBlank c || (0x7f ≤ c.toNat && isBlank c)

/-! ### Trimming -/

/-- A text without the characters of a set at both ends. -/
def trim (blank : Char → Bool) (cs : List Char) : List Char :=
  ((cs.dropWhile blank).reverse.dropWhile blank).reverse

/-! ### Words -/

/-- Puts a word in front of others, unless it is empty. -/
def consWord (word : List Char) (others : List (List Char)) : List (List Char) :=
  if word.isEmpty then others else word :: others

/-- The word that a text starts with, empty if it starts with a blank, and the words after it. -/
def splitWord : List Char → List Char × List (List Char)
  | [] => ([], [])
  | c :: cs =>
    let (word, others) := splitWord cs
    if isBlank c then ([], consWord word others) else (c :: word, others)

/-- The maximal runs without blanks, in order. -/
def words (cs : List Char) : List (List Char) :=
  consWord (splitWord cs).1 (splitWord cs).2

end MeshAlarm.Text
