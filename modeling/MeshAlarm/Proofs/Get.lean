import MeshAlarm.Proofs.Decoding

/-!
# Gets, read and written

Reading looks at the event type and at the flag of a Get apart; writing puts the flag behind the type
only. A Get that was read is therefore written without its flag if its index belongs to no known
type, and it is then the Get that selects nothing. In all other cases the same Get is read back, as
far as the version lets a Get select anything.

## Main definitions

* `Get.tidied`: a Get without a flag that belongs to no type
* `Get.FlagsUnknownType`: the data that set the flag beside an index beyond the table
* `Get.Rewritten`: what becomes of a Get that is written and read again

## Main results

* `Get.decode_encode`: what is read from a Get that was written
* `Get.flag_alone_iff`: which data give a flag without a type
* `Get.rewriting_keeps_the_type`: the type is kept, and the flag is if it belongs to a type
-/

namespace MeshAlarm.Get

variable {version : Int} {data : List UInt8}

/-! ### Writing -/

/-- A Get without a flag that belongs to no type. -/
def tidied (g : Get) : Get where
  eventType := g.eventType
  firstEvent := g.eventType.isSome && g.firstEvent

theorem decode_one (data : List UInt8) : decode 1 data = {} := by
  unfold decode
  split <;> rfl

/-- From version 2 on a Get is read back as it was written, the flag only behind a type. -/
theorem decode_encode (h : version ≠ 1) (g : Get) : decode version g.encode.data = g.tidied := by
  obtain ⟨eventType, firstEvent⟩ := g
  cases eventType with
  | none => rfl
  | some t =>
    have ht : EventType.ofOrdinal? t.byte.toNat = some t := by
      rw [EventType.toNat_byte, EventType.ofOrdinal?_ordinal]
    cases firstEvent <;> simp [encode, decode, tidied, h, ht]

/-- A Get that was read loses at most a flag on its own, at every version. -/
theorem decode_encode_decode (version : Int) (data : List UInt8) :
    decode version (decode version data).encode.data = (decode version data).tidied := by
  by_cases h : version = 1
  · rw [h, decode_one, decode_one]
    rfl
  · exact decode_encode h _

/-! ### A flag on its own -/

theorem tidied_of_flag_alone {g : Get} (h : g.eventType = none ∧ g.firstEvent) :
    g.tidied = {} := by
  rw [tidied, h.1]
  rfl

/-- Only a flag on its own is lost. -/
theorem firstEvent_tidied_iff {g : Get} :
    g.tidied.firstEvent = g.firstEvent ↔ ¬ (g.eventType = none ∧ g.firstEvent) := by
  obtain ⟨eventType, firstEvent⟩ := g
  cases eventType <;> simp [tidied]

/-- The data that set the flag beside an index beyond the table, at a version that looks at them. -/
def FlagsUnknownType (version : Int) (data : List UInt8) : Prop :=
  version ≠ 1 ∧ ∃ first index rest,
    data = first :: index :: firstEventFlag :: rest ∧ EventType.count ≤ index.toNat

/-- A flag on its own is read from an index beyond the table with the flag behind it. -/
theorem flag_alone_iff :
    ((decode version data).eventType = none ∧ (decode version data).firstEvent) ↔
      FlagsUnknownType version data := by
  by_cases hversion : version = 1
  · rw [hversion, decode_one]
    exact iff_of_false (fun h => by cases h.2) (fun h => h.1 rfl)
  match data with
  | [] | [_] => simp [decode, FlagsUnknownType]
  | first :: index :: rest =>
    have hindex : EventType.ofOrdinal? index.toNat = none ↔ EventType.count ≤ index.toNat := by
      rw [EventType.ofOrdinal?_eq_none_iff]
      omega
    have hflag : rest.head? = some firstEventFlag ↔ ∃ more, rest = firstEventFlag :: more := by
      rw [List.head?_eq_some_iff]
    simp [decode, FlagsUnknownType, hversion, hindex, hflag, and_comm]

/-! ### Rewriting -/

/-- What becomes of a Get that was read, when it is written and read again. -/
structure Rewritten (version : Int) (data : List UInt8) (g g' : Get) : Prop where
  /-- It selects the same type. -/
  eventType : g'.eventType = g.eventType
  /-- It asks for the first event as before, unless the flag stood beside an unknown type. -/
  firstEvent : g'.firstEvent = g.firstEvent ↔ ¬ FlagsUnknownType version data
  /-- If it did, the Get is written as one that selects nothing. -/
  bare : FlagsUnknownType version data →
    g = { eventType := none, firstEvent := true } ∧ g.encode.encode = [0x04] ∧ g' = {}

theorem rewritten (version : Int) (data : List UInt8) :
    Rewritten version data (decode version data) (decode version data).tidied where
  eventType := rfl
  firstEvent := firstEvent_tidied_iff.trans (not_congr flag_alone_iff)
  bare h := by
    have halone := flag_alone_iff.2 h
    refine ⟨?_, ?_, tidied_of_flag_alone halone⟩
    · generalize decode version data = g at halone
      obtain ⟨eventType, firstEvent⟩ := g
      obtain ⟨rfl, rfl⟩ := halone
      rfl
    · rw [encode, halone.1]
      rfl

/-- **A Get that was read keeps its type when it is written.** It keeps its flag as well, unless this
stood beside an index beyond the table. Then nothing is left to be selected, and the bare Get is
written. -/
theorem rewriting_keeps_the_type (version : Int) (data : List UInt8) :
    ∃ g g', Event.ofPayload version (0x04 :: data) = .ok (.get g) ∧
      Event.ofPayload version g.encode.encode = .ok (.get g') ∧ Rewritten version data g g' := by
  refine ⟨_, _, rfl, ?_, rewritten version data⟩
  have hcommand (g : Get) : Event.decode version g.encode =
      .ok (.get (decode version g.encode.data)) := by
    obtain ⟨eventType, firstEvent⟩ := g
    cases eventType <;> rfl
  rw [Event.ofPayload_encode, hcommand, decode_encode_decode]

/-- A flag beside an unknown type is lost. -/
theorem flag_of_unknown_type_is_lost :
    ∃ g g', Event.ofPayload 3 [0x04, 0x00, 0x20, 0x01] = .ok (.get g) ∧
      Event.ofPayload 3 g.encode.encode = .ok (.get g') ∧ g.firstEvent ∧ ¬ g'.firstEvent :=
  ⟨{ firstEvent := true }, {}, rfl, rfl, rfl, Bool.false_ne_true⟩

end MeshAlarm.Get
