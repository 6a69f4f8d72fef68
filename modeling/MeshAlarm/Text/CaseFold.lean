/-!
# Texts up to case

Two texts are the same up to case if they have the same case folding. Here one of them is in lower
case ASCII letters, so only those foldings matter that are ASCII: a character above ASCII whose
folding is not never matches, and stays as it is.

## Main definitions

* `foldings`: the characters above ASCII that fold to ASCII letters
* `caseFold`: the case folding of a text
-/

namespace MeshAlarm.Text

/-- The characters above ASCII that fold to ASCII letters: the sharp s in both cases, the long s,
the Kelvin sign and the Latin ligatures. -/
def foldings : List (Nat × String) :=
  [(0xdf, "ss"), (0x17f, "s"), (0x1e9e, "ss"), (0x212a, "k"), (0xfb00, "ff"), (0xfb01, "fi"),
   (0xfb02, "fl"), (0xfb03, "ffi"), (0xfb04, "ffl"), (0xfb05, "st"), (0xfb06, "st")]

/-- The case folding of a character, as far as it is ASCII. -/
def foldChar (c : Char) : List Char :=
  match foldings.lookup c.toNat with
  | some folded => folded.toList
  | none => [c.toLower]

/-- The case folding of a text, as far as it is ASCII. -/
def caseFold (cs : List Char) : List Char :=
  cs.flatMap foldChar

end MeshAlarm.Text
