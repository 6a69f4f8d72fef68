import MeshAlarm.Proofs.Cursor

/-!
# What is taken from a cursor in a row

A new cursor hands out its bytes from the first one on, each of them once, in pieces of the sizes
that are asked for. It fails when more is asked for than is left. Since it has moved by then, it
stands behind the end for good: nothing is left, and even nothing cannot be taken any more.

As long as nothing failed, the position is the number of bytes that were handed out. It is never in
front of the first byte, so that a single byte is always found where one is left, and every taking is
a take of the number of bytes that it asks for.

## Main definitions

* `Cursor.Taking`, `Cursor.perform`: what a cursor can be asked for, as data
* `Cursor.Taking.demand`: the number of bytes that is asked for
* `Cursor.handedOut`, `Cursor.Failed`, `Cursor.reached`: what was taken in a row, whether a taking
  failed, and the cursor afterwards
* `Cursor.HandsOut`: what comes of takings in a row

## Main results

* `Cursor.effect_perform`: every taking is a take
* `Cursor.within_or_beyond`: where a cursor stands after takings in a row
* `Cursor.each_byte_once`: takings in a row hand out every byte once
-/

namespace MeshAlarm.Cursor

/-! ### Takings -/

/-- What a cursor can be asked for: a number of bytes, the next byte, or all that are left. -/
inductive Taking
  | bytes (n : Nat)
  | byte
  | rest
  deriving DecidableEq, Repr

/-- Takes what is asked for. A single byte is a piece of its own. -/
def perform : Taking → Act Cursor Empty (List UInt8)
  | .bytes n => take n
  | .byte => (fun b => [b]) <$> next
  | .rest => takeAll

/-- The number of bytes that is asked for. -/
def Taking.demand (c : Cursor) : Taking → Nat
  | .bytes n => n
  | .byte => 1
  | .rest => c.left

/-- A cursor that stands on its bytes or at their end stands between a front and the rest. -/
theorem exists_front {c : Cursor} (h₀ : 0 ≤ c.position) (h : c.position ≤ c.bytes.length) :
    ∃ front rest : List UInt8, c = ⟨front ++ rest, front.length⟩ := by
  obtain ⟨bytes, position⟩ := c
  obtain ⟨n, rfl⟩ := Int.eq_ofNat_of_zero_le h₀
  have hn : n ≤ bytes.length := Int.ofNat_le.1 h
  refine ⟨bytes.take n, bytes.drop n, ?_⟩
  rw [List.take_append_drop, List.length_take_of_le hn]

/-- Every taking is a take of the number of bytes that it asks for, unless the cursor stands in front
of the first byte. -/
theorem effect_perform {c : Cursor} (h₀ : 0 ≤ c.position) (call : Taking) :
    (perform call).effect c = (take (call.demand c)).effect c := by
  cases call with
  | bytes n => rfl
  | rest => rfl
  | byte =>
    show ((fun b => [b]) <$> next).effect c = (take 1).effect c
    by_cases h : (c.bytes.length : Int) < c.position + 1
    · rw [Act.effect_map, next, Act.effect_bind, effect_take, if_pos h]
      rfl
    · obtain ⟨front, rest, rfl⟩ := exists_front h₀ (by omega)
      cases rest with
      | nil =>
        simp only [List.append_nil] at h
        omega
      | cons b rest =>
        rw [Act.effect_map, effect_next_append]
        exact (effect_take_append front [b] rest).symm

/-- A taking of no more than is left gives the bytes that come next. -/
theorem effect_perform_of_le {bytes : List UInt8} {n m : Nat} {call : Taking}
    (hm : call.demand ⟨bytes, n⟩ = m) (h : n + m ≤ bytes.length) :
    (perform call).effect ⟨bytes, n⟩ =
      ⟨.ok ((bytes.drop n).take m), ⟨bytes, (n + m : Nat)⟩, []⟩ := by
  have henough : ¬ (bytes.length : Int) < n + m := by omega
  have hn : n ≤ bytes.length := Nat.le_of_add_right_le h
  rw [effect_perform (Int.natCast_nonneg n), hm, effect_take, if_neg henough, ← Int.natCast_add,
    between, offset_natCast, offset_natCast, Nat.min_eq_left h, Nat.min_eq_left hn,
    List.drop_take, Nat.add_sub_cancel_left]

/-- A taking of more than is left fails, and moves the cursor all the same. -/
theorem effect_perform_of_lt {bytes : List UInt8} {position : Int} (h₀ : 0 ≤ position)
    {call : Taking} (h : (bytes.length : Int) < position + call.demand ⟨bytes, position⟩) :
    (perform call).effect ⟨bytes, position⟩ =
      ⟨.error .dataExhausted, ⟨bytes, position + call.demand ⟨bytes, position⟩⟩, []⟩ := by
  rw [effect_perform h₀, effect_take, if_pos h]

theorem left_natCast (bytes : List UInt8) (n : Nat) : left ⟨bytes, n⟩ = bytes.length - n := by
  simp only [left]
  omega

theorem left_of_lt {bytes : List UInt8} {position : Int} (h : bytes.length < position) :
    left ⟨bytes, position⟩ = 0 := by
  simp only [left]
  omega

/-- A cursor is at the end if nothing is left. -/
theorem isAtEnd_iff (c : Cursor) : c.isAtEnd ↔ c.left = 0 := by
  rw [isAtEnd, left, decide_eq_true_iff]
  omega

/-! ### Takings in a row -/

/-- The bytes of a result, none for a fault. -/
def bytesOf : Except Fault (List UInt8) → List UInt8
  | .ok taken => taken
  | .error _ => []

section Runs

variable (bytes : List UInt8) (past : List Taking)

/-- A cursor after takings in a row from the start of its bytes. -/
def reached : Cursor :=
  Act.afterAll perform { bytes } past

/-- What takings in a row have handed out, joined. -/
def handedOut : List UInt8 :=
  (Act.transcript perform { bytes } past).flatMap fun call => bytesOf call.2

/-- A taking among those in a row failed. -/
def Failed : Prop :=
  ∃ call ∈ Act.transcript perform { bytes } past, ∃ fault, call.2 = .error fault

theorem reached_concat (call : Taking) :
    reached bytes (past ++ [call]) = ((perform call).effect (reached bytes past)).after :=
  Act.afterAll_concat perform { bytes } past call

theorem handedOut_concat (call : Taking) : handedOut bytes (past ++ [call]) =
    handedOut bytes past ++ bytesOf ((perform call).effect (reached bytes past)).result := by
  rw [handedOut, Act.transcript_concat, List.flatMap_append, List.flatMap_singleton, handedOut]
  rfl

theorem failed_concat (call : Taking) : Failed bytes (past ++ [call]) ↔
    Failed bytes past ∨ ∃ fault, ((perform call).effect (reached bytes past)).result =
      .error fault := by
  rw [Failed, Act.transcript_concat, Failed]
  simp only [List.mem_append, List.mem_singleton, or_and_right, exists_or, exists_eq_left]
  rfl

/-! ### Where the cursor stands -/

/-- The cursor stands behind what was handed out: nothing failed. -/
def Within : Prop :=
  ¬ Failed bytes past ∧ ∃ n ≤ bytes.length,
    handedOut bytes past = bytes.take n ∧ reached bytes past = ⟨bytes, n⟩

/-- The cursor stands beyond the end: a taking failed. -/
def Beyond : Prop :=
  Failed bytes past ∧ ∃ position : Int, bytes.length < position ∧
    reached bytes past = ⟨bytes, position⟩

variable {bytes past}

/-- A taking that asks for more than is left leads beyond the end. -/
theorem beyond_concat {position : Int} (hreached : reached bytes past = ⟨bytes, position⟩)
    (h₀ : 0 ≤ position) {call : Taking}
    (h : (bytes.length : Int) < position + call.demand ⟨bytes, position⟩) :
    Beyond bytes (past ++ [call]) := by
  have heffect := effect_perform_of_lt h₀ h
  rw [← hreached] at heffect
  refine ⟨?_, _, h, ?_⟩
  · rw [failed_concat, heffect]
    exact .inr ⟨_, rfl⟩
  · rw [reached_concat, heffect, hreached]

/-- From behind what was handed out, a taking goes on by what it gives, or beyond the end. -/
theorem Within.concat (h : Within bytes past) (call : Taking) :
    Within bytes (past ++ [call]) ∨ Beyond bytes (past ++ [call]) := by
  obtain ⟨hfailed, n, hn, hout, hreached⟩ := h
  generalize hm : call.demand ⟨bytes, n⟩ = m
  by_cases hle : n + m ≤ bytes.length
  · left
    have heffect := effect_perform_of_le hm hle
    rw [← hreached] at heffect
    refine ⟨?_, n + m, hle, ?_, ?_⟩
    · rw [failed_concat, heffect]
      rintro (h | ⟨fault, hfault⟩)
      · exact hfailed h
      · cases hfault
    · rw [handedOut_concat, heffect, hout, bytesOf, List.take_add]
    · rw [reached_concat, heffect]
  · right
    apply beyond_concat hreached (Int.natCast_nonneg n)
    rw [hm]
    omega

/-- Beyond the end every taking fails, and leaves the cursor beyond the end. -/
theorem Beyond.concat (h : Beyond bytes past) (call : Taking) : Beyond bytes (past ++ [call]) := by
  obtain ⟨-, position, hposition, hreached⟩ := h
  exact beyond_concat hreached (by omega) (by omega)

variable (bytes past)

/-- The cursor stands behind what was handed out, or beyond the end because a taking failed. -/
theorem within_or_beyond : Within bytes past ∨ Beyond bytes past := by
  -- Induction from the end: the last taking starts where all the others have led.
  induction past using List.reverseRecOn with
  | nil =>
    left
    refine ⟨?_, 0, Nat.zero_le _, rfl, rfl⟩
    rintro ⟨call, hcall, -⟩
    cases hcall
  | append_singleton past call ih =>
    rcases ih with h | h
    · exact h.concat call
    · exact .inr (h.concat call)

/-! ### What is handed out -/

/-- What comes of takings in a row. -/
structure HandsOut : Prop where
  /-- As long as none failed, what was handed out is the front of the bytes, up to what is left. -/
  front : ¬ Failed bytes past →
    handedOut bytes past = bytes.take (bytes.length - (reached bytes past).left)
  /-- Once one has failed, nothing is left. -/
  spent : Failed bytes past → (reached bytes past).left = 0
  /-- The cursor is at the end exactly if nothing is left. -/
  atEnd : (reached bytes past).isAtEnd ↔ (reached bytes past).left = 0
  /-- Another taking fails if one has failed before, or if it asks for more than is left. -/
  fails : ∀ call : Taking,
    Failed bytes past ∨ (reached bytes past).left < call.demand (reached bytes past) →
      ∃ fault, ((perform call).run (reached bytes past)).result = .error fault ∧
        fault.kind = .badValue
  /-- In all other cases it gives as many bytes as it asks for. -/
  gives : ∀ call : Taking,
    ¬ (Failed bytes past ∨ (reached bytes past).left < call.demand (reached bytes past)) →
      ∃ taken, ((perform call).run (reached bytes past)).result = .ok taken ∧
        taken.length = call.demand (reached bytes past)

variable {bytes past}

theorem Within.handsOut (h : Within bytes past) : HandsOut bytes past := by
  obtain ⟨hfailed, n, hn, hout, hreached⟩ := h
  have hleft : (reached bytes past).left = bytes.length - n := by rw [hreached, left_natCast]
  constructor
  case front =>
    intro _
    rw [hout, hleft, Nat.sub_sub_self hn]
  case spent => exact fun h => absurd h hfailed
  case atEnd => exact isAtEnd_iff _
  case fails =>
    intro call hcall
    have hmore := hcall.resolve_left hfailed
    rw [hleft, hreached] at hmore
    have hbeyond : (bytes.length : Int) < n + call.demand ⟨bytes, n⟩ := by omega
    rw [hreached]
    exact ⟨_, (Act.run_of_effect (effect_perform_of_lt (Int.natCast_nonneg n) hbeyond)).1, rfl⟩
  case gives =>
    intro call hcall
    have henough := (not_or.1 hcall).2
    rw [hleft, hreached, Nat.not_lt] at henough
    have hle : n + call.demand ⟨bytes, n⟩ ≤ bytes.length := by omega
    rw [hreached]
    refine ⟨_, (Act.run_of_effect (effect_perform_of_le rfl hle)).1, List.length_take_of_le ?_⟩
    rwa [List.length_drop]

theorem Beyond.handsOut (h : Beyond bytes past) : HandsOut bytes past := by
  obtain ⟨hfailed, position, hposition, hreached⟩ := h
  constructor
  case front => exact fun h => absurd hfailed h
  case spent =>
    intro _
    rw [hreached, left_of_lt hposition]
  case atEnd => exact isAtEnd_iff _
  case fails =>
    intro call _
    have hbeyond : (bytes.length : Int) < position + call.demand ⟨bytes, position⟩ := by omega
    rw [hreached]
    exact ⟨_, (Act.run_of_effect (effect_perform_of_lt (by omega) hbeyond)).1, rfl⟩
  case gives => exact fun call hcall => absurd (.inl hfailed) hcall

/-- **Takings in a row hand out every byte once.** Up to the first that fails they give the front of
the bytes in order, each as many as it asks for. The first that asks for more than is left fails, and
all that follow it fail as well. -/
theorem each_byte_once (bytes : List UInt8) (past : List Taking) : HandsOut bytes past := by
  rcases within_or_beyond bytes past with h | h
  · exact h.handsOut
  · exact h.handsOut

/-- Behind a failed taking even nothing cannot be taken. -/
example : reached [1, 2, 3] [.byte, .bytes 3, .bytes 0, .rest] = ⟨[1, 2, 3], 4⟩ ∧
    handedOut [1, 2, 3] [.byte, .bytes 3, .bytes 0, .rest] = [1] := ⟨rfl, rfl⟩

end Runs

end MeshAlarm.Cursor
