import MeshAlarm.Cursor
import MeshAlarm.Proofs.Effect

/-!
# What a cursor takes

A cursor that has taken the front of its bytes stands in front of the rest. As long as it asks for
no more than the rest it hands out exactly the bytes that come next and stands behind them.

## Main results

* `Cursor.effect_take`: a take, whether there is enough or not
* `Cursor.effect_take_append`, `Cursor.effect_next_append`, `Cursor.effect_takeAll_append`: takes
  from the bytes behind a front that has been taken
-/

namespace MeshAlarm

@[simp] theorem offset_natCast (length n : Nat) : offset length n = min n length := by
  rw [offset, if_pos (Int.natCast_nonneg n), Int.toNat_natCast]

/-- The bytes between the end of a front and the end of what follows it are what follows it. -/
theorem between_append (front taken rest : List UInt8) :
    between front.length (front.length + taken.length : Nat) (front ++ (taken ++ rest)) =
      taken := by
  have hall : (front ++ (taken ++ rest)).length = front.length + (taken.length + rest.length) := by
    simp only [List.length_append]
  rw [between, offset_natCast, offset_natCast, hall, Nat.min_eq_left (by omega),
    Nat.min_eq_left (by omega), List.take_length_add_append, List.take_left, List.drop_left]

namespace Cursor

variable {α : Type}

/-- A take moves the cursor, and then fails if it went past the end. -/
theorem effect_take (n : Int) (c : Cursor) :
    (take n : Act Cursor α (List UInt8)).effect c =
      if c.bytes.length < c.position + n then
        ⟨.error .dataExhausted, { c with position := c.position + n }, []⟩
      else
        ⟨.ok (between c.position (c.position + n) c.bytes),
          { c with position := c.position + n }, []⟩ := by
  simp only [take, Act.effect_bind, Act.effect_read, Act.effect_update, Effect.andThen_ok,
    Effect.behind_nil]
  split <;> rfl

theorem effect_take_append (front taken rest : List UInt8) :
    (take taken.length : Act Cursor α (List UInt8)).effect
        ⟨front ++ (taken ++ rest), front.length⟩ =
      ⟨.ok taken, ⟨front ++ (taken ++ rest), (front.length + taken.length : Nat)⟩, []⟩ := by
  have henough : ¬ ((front ++ (taken ++ rest)).length : Int) < front.length + taken.length := by
    simp only [List.length_append]
    omega
  rw [effect_take, if_neg henough, ← Int.natCast_add, between_append]

theorem effect_next_append (front : List UInt8) (b : UInt8) (rest : List UInt8) :
    (next : Act Cursor α UInt8).effect ⟨front ++ b :: rest, front.length⟩ =
      ⟨.ok b, ⟨front ++ b :: rest, (front.length + 1 : Nat)⟩, []⟩ := by
  have htake : (take 1 : Act Cursor α (List UInt8)).effect ⟨front ++ b :: rest, front.length⟩ =
      ⟨.ok [b], ⟨front ++ b :: rest, (front.length + 1 : Nat)⟩, []⟩ :=
    effect_take_append front [b] rest
  rw [next, Act.effect_bind, htake]
  rfl

theorem effect_takeAll_append (front rest : List UInt8) :
    (takeAll : Act Cursor α (List UInt8)).effect ⟨front ++ rest, front.length⟩ =
      ⟨.ok rest, ⟨front ++ rest, (front.length + rest.length : Nat)⟩, []⟩ := by
  have hleft : left ⟨front ++ rest, front.length⟩ = rest.length := by
    simp only [left, List.length_append]
    omega
  have htake := effect_take_append (α := α) front rest []
  rw [List.append_nil] at htake
  rw [takeAll, Act.effect_bind, Act.effect_read, Effect.andThen_ok, hleft, htake]
  rfl

end Cursor

end MeshAlarm
