import Mathlib.Data.List.Forall2
import MeshAlarm.Text.Hex

/-!
# Spelling bytes

Hexadecimal text spells bytes: two digits side by side for each byte, the high one first, and ASCII
white space between them, or in front, or behind. Each text spells one list of bytes or none, and
reading finds it.

Bytes have many spellings. Capital digits spell the same bytes as small ones.

## Main definitions

* `Text.Hex.digits`: the digits in both cases, each with its value
* `Text.Hex.Spells`: the bytes that a text spells

## Main results

* `Text.Hex.digitValue?_eq_some_iff`: the digits, and no other characters, have values
* `Text.Hex.decode_eq_some_iff`: reading gives the bytes that are spelled
* `Text.Hex.spells_of_forall₂`: digits may be capitals
-/

namespace MeshAlarm.Text.Hex

/-! ### Spelling -/

/-- The digits in both cases with their values. -/
def digits : List (Char × Nat) :=
  "0123456789abcdef".toList.zipIdx ++ "0123456789ABCDEF".toList.zipIdx

/-- ASCII white space. -/
def plainBlanks : List Char :=
  [' ', '\t', '\n', '\x0b', '\x0c', '\r']

/-- A text spells bytes, two digits for each of them and white space around. -/
inductive Spells : List Char → List UInt8 → Prop
  | nil : Spells [] []
  | blank {c : Char} {cs : List Char} {bs : List UInt8} (hc : c ∈ plainBlanks) (h : Spells cs bs) :
      Spells (c :: cs) bs
  | byte {c d : Char} {high low : Nat} {cs : List Char} {bs : List UInt8} (hc : (c, high) ∈ digits)
      (hd : (d, low) ∈ digits) (h : Spells cs bs) :
      Spells (c :: d :: cs) (UInt8.ofNat (16 * high + low) :: bs)

/-! ### Characters -/

/-- What holds of each ASCII code holds of each ASCII character. -/
theorem forall_ascii {P : Char → Prop} (h : ∀ k < 0x80, P (Char.ofNat k)) {c : Char}
    (hc : c.toNat < 0x80) : P c := by
  have hcode := h c.toNat hc
  rwa [Char.ofNat_toNat] at hcode

theorem lt_of_digitValue? {c : Char} {n : Nat} (h : digitValue? c = some n) : c.toNat < 0x80 := by
  by_contra hascii
  simp only [digitValue?] at h
  rw [if_neg (by omega), if_neg (by omega), if_neg (by omega)] at h
  cases h

theorem lt_of_isPlainBlank {c : Char} (h : isPlainBlank c) : c.toNat < 0x80 := by
  simp only [isPlainBlank, Bool.or_eq_true, Bool.and_eq_true, beq_iff_eq, decide_eq_true_iff] at h
  omega

theorem digitValue?_eq_some_iff {c : Char} {n : Nat} :
    digitValue? c = some n ↔ (c, n) ∈ digits := by
  constructor
  · intro h
    exact forall_ascii (P := fun c => ∀ n ∈ digitValue? c, (c, n) ∈ digits) (by decide +kernel)
      (lt_of_digitValue? h) n h
  · have hvalue : ∀ entry ∈ digits, digitValue? entry.1 = some entry.2 := by decide
    exact hvalue (c, n)

theorem isPlainBlank_iff {c : Char} : isPlainBlank c ↔ c ∈ plainBlanks := by
  constructor
  · intro h
    exact forall_ascii (P := fun c => isPlainBlank c → c ∈ plainBlanks) (by decide +kernel)
      (lt_of_isPlainBlank h) h
  · intro h
    simp only [plainBlanks, List.mem_cons, List.not_mem_nil, or_false] at h
    rcases h with rfl | rfl | rfl | rfl | rfl | rfl <;> rfl

/-- No digit is a blank, so a text starts in one way only. -/
theorem not_isPlainBlank_of_mem_digits {c : Char} {n : Nat} (h : (c, n) ∈ digits) :
    ¬ isPlainBlank c := by
  have hdigits : ∀ entry ∈ digits, ¬ isPlainBlank entry.1 := by decide
  exact hdigits (c, n) h

/-! ### Reading -/

theorem spells_of_decode {cs : List Char} {bs : List UInt8} (h : decode cs = some bs) :
    Spells cs bs := by
  fun_induction decode cs generalizing bs with
  | case1 =>
    obtain rfl := Option.some.inj h
    exact .nil
  | case2 c cs hc ih => exact .blank (isPlainBlank_iff.1 hc) (ih h)
  | case3 => cases h
  | case4 c hc d ds high low bytes hbytes hlow hhigh ih =>
    obtain rfl := Option.some.inj h
    exact .byte (digitValue?_eq_some_iff.1 hhigh) (digitValue?_eq_some_iff.1 hlow) (ih hbytes)
  | case5 => cases h

theorem decode_of_spells {cs : List Char} {bs : List UInt8} (h : Spells cs bs) :
    decode cs = some bs := by
  induction h with
  | nil => rfl
  | blank hc _ ih =>
    rw [decode.eq_def]
    dsimp only
    rw [if_pos (isPlainBlank_iff.2 hc), ih]
  | byte hc hd _ ih =>
    rw [decode.eq_def]
    dsimp only
    rw [if_neg (not_isPlainBlank_of_mem_digits hc), digitValue?_eq_some_iff.2 hc,
      digitValue?_eq_some_iff.2 hd, ih]

/-- Reading gives the bytes that a text spells, if it spells any. -/
theorem decode_eq_some_iff {cs : List Char} {bs : List UInt8} :
    decode cs = some bs ↔ Spells cs bs :=
  ⟨spells_of_decode, decode_of_spells⟩

theorem decode_eq_none_iff {cs : List Char} : decode cs = none ↔ ¬ ∃ bs, Spells cs bs := by
  rw [Option.eq_none_iff_forall_ne_some, not_exists]
  simp only [ne_eq, decode_eq_some_iff]

/-! ### Writing -/

theorem halves_lt (b : UInt8) : b.toNat / 16 < 16 ∧ b.toNat % 16 < 16 := by
  have hb := b.toNat_lt
  omega

/-- What is written for bytes are digits. -/
theorem exists_of_mem_encode {bs : List UInt8} {c : Char} (h : c ∈ encode bs) :
    ∃ n < 16, c = digit n := by
  induction bs with
  | nil => cases h
  | cons b bs ih =>
    obtain ⟨hhigh, hlow⟩ := halves_lt b
    rcases List.mem_cons.1 h with rfl | h
    · exact ⟨_, hhigh, rfl⟩
    rcases List.mem_cons.1 h with rfl | h
    · exact ⟨_, hlow, rfl⟩
    · exact ih h

theorem digit_mem_digits : ∀ n < 16, (digit n, n) ∈ digits ∧ ((digit n).toUpper, n) ∈ digits := by
  decide

/-- A digit that is written, or its capital, has the value that was to be written. -/
theorem mem_digits_of_digit {n : Nat} (hn : n < 16) {c : Char}
    (h : c = digit n ∨ c = (digit n).toUpper) : (c, n) ∈ digits := by
  rcases h with rfl | rfl
  · exact (digit_mem_digits n hn).1
  · exact (digit_mem_digits n hn).2

/-- The text of bytes spells them, and so does a text that has capitals in some places. -/
theorem spells_of_forall₂ {bs : List UInt8} {cs : List Char}
    (h : List.Forall₂ (fun c d => d = c ∨ d = c.toUpper) (encode bs) cs) : Spells cs bs := by
  induction bs generalizing cs with
  | nil =>
    cases h
    exact .nil
  | cons b bs ih =>
    obtain ⟨c, rest, hc, hrest, rfl⟩ := List.forall₂_cons_left_iff.1 h
    obtain ⟨d, ds, hd, hds, rfl⟩ := List.forall₂_cons_left_iff.1 hrest
    obtain ⟨hhigh, hlow⟩ := halves_lt b
    have hspells := Spells.byte (mem_digits_of_digit hhigh hc) (mem_digits_of_digit hlow hd) (ih hds)
    rwa [Nat.div_add_mod, UInt8.ofNat_toNat] at hspells

end MeshAlarm.Text.Hex
