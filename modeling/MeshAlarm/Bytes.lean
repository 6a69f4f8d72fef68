/-!
# Numbers as bytes

A payload is built from numbers, and every one of them has to fit into a byte.

## Main definitions

* `Bytes.ofNumbers?`: the bytes of numbers, if each is from 0 to 255
* `Bytes.toNumbers`: the numbers of bytes
-/

namespace MeshAlarm.Bytes

/-- The numbers that fit into a byte. -/
def Fits (n : Int) : Prop :=
  0 ≤ n ∧ n ≤ 255

instance (n : Int) : Decidable (Fits n) :=
  inferInstanceAs (Decidable (_ ∧ _))

/-- The bytes of numbers, if each of them fits. -/
def ofNumbers? : List Int → Option (List UInt8)
  | [] => some []
  | n :: ns => if Fits n then (ofNumbers? ns).map (UInt8.ofNat n.toNat :: ·) else none

/-- The numbers of bytes. -/
def toNumbers (bs : List UInt8) : List Int :=
  bs.map fun b => (b.toNat : Int)

/-! ### Which numbers are bytes -/

theorem fits_toNat (b : UInt8) : Fits b.toNat := by
  have := b.toNat_lt
  exact ⟨by omega, by omega⟩

theorem toNat_ofNat {n : Int} (h : Fits n) : ((UInt8.ofNat n.toNat).toNat : Int) = n := by
  obtain ⟨h₀, h₁⟩ := h
  rw [UInt8.toNat_ofNat_of_lt' (by show n.toNat < 256; omega)]
  omega

@[simp] theorem ofNumbers?_nil : ofNumbers? [] = some [] := rfl

theorem ofNumbers?_cons_of_fits {n : Int} (h : Fits n) (ns : List Int) :
    ofNumbers? (n :: ns) = (ofNumbers? ns).map (UInt8.ofNat n.toNat :: ·) := by
  simp [ofNumbers?, h]

@[simp] theorem ofNumbers?_toNumbers (bs : List UInt8) : ofNumbers? (toNumbers bs) = some bs := by
  induction bs with
  | nil => rfl
  | cons b bs ih =>
    show ofNumbers? ((b.toNat : Int) :: toNumbers bs) = _
    rw [ofNumbers?_cons_of_fits (fits_toNat b), ih]
    simp

theorem toNumbers_of_ofNumbers? {ns : List Int} {bs : List UInt8} (h : ofNumbers? ns = some bs) :
    toNumbers bs = ns := by
  induction ns generalizing bs with
  | nil => obtain rfl := Option.some.inj h; rfl
  | cons n ns ih =>
    by_cases hn : Fits n
    · rw [ofNumbers?_cons_of_fits hn] at h
      obtain ⟨bs', h', rfl⟩ := Option.map_eq_some_iff.1 h
      show ((UInt8.ofNat n.toNat).toNat : Int) :: toNumbers bs' = _
      rw [ih h', toNat_ofNat hn]
    · simp [ofNumbers?, hn] at h

/-- Numbers have bytes exactly if each of them fits. -/
theorem isSome_ofNumbers?_iff {ns : List Int} : (ofNumbers? ns).isSome ↔ ∀ n ∈ ns, Fits n := by
  induction ns with
  | nil => simp
  | cons n ns ih => by_cases hn : Fits n <;> simp [ofNumbers?, hn, ih]

theorem ofNumbers?_eq_none_iff {ns : List Int} :
    ofNumbers? ns = none ↔ ∃ n ∈ ns, ¬ Fits n := by
  rw [← Option.not_isSome_iff_eq_none, isSome_ofNumbers?_iff]
  simp only [Classical.not_forall, exists_prop]

end MeshAlarm.Bytes
