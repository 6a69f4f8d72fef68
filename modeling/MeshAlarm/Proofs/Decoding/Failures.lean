import MeshAlarm.Proofs.Decoding.Positions

/-!
# The two ways in which a payload fails

A payload carries an event, or it is too short, or its first byte starts no payload with an event.
There is no fourth outcome, and the version has no say in which of the three it is. It only decides
how much of a report and of a Get is read, and of all versions only the first reads less.

## Main definitions

* `Foreign`: payloads whose first byte starts no event
* `Event.firstByte?`: the first byte of the payloads with an event
* `Event.Ends`: how the reading of a payload ends

## Main results

* `Event.exists_ofPayload`: payloads that are neither short nor foreign carry an event
* `Event.ofPayload_eq_of_ne_one`: versions other than the first read the same
* `Event.fails_in_two_ways`: how the reading of every payload ends
-/

namespace MeshAlarm

/-- A payload whose first byte starts neither a report nor a request. A Set is a command, and still
foreign. -/
def Foreign (payload : List UInt8) : Prop :=
  ∃ b, payload.head? = some b ∧ b ∉ [0x04, 0x05, 0x07, 0x08]

theorem not_foreign_of_head? {payload : List UInt8} {b : UInt8} (hhead : payload.head? = some b)
    (hb : b ∈ [0x04, 0x05, 0x07, 0x08]) : ¬ Foreign payload := by
  rintro ⟨other, hother, hnot⟩
  rw [hhead] at hother
  obtain rfl := Option.some.inj hother
  exact hnot hb

theorem not_foreign_of_short {payload : List UInt8} (h : payload = [] ∨ Malformed payload) :
    ¬ Foreign payload := by
  rcases h with rfl | ⟨hhead, -⟩ | ⟨hhead, -⟩
  · rintro ⟨b, hhead, -⟩
    cases hhead
  · exact not_foreign_of_head? hhead (by decide)
  · exact not_foreign_of_head? hhead (by decide)

/-! ### Versions -/

theorem Report.decode_eq_of_ne_one {version other : Int} (hversion : version ≠ 1)
    (hother : other ≠ 1) (data : List UInt8) : decode version data = decode other data := by
  unfold decode
  simp only [if_neg hversion, if_neg hother]

theorem Get.decode_eq_of_ne_one {version other : Int} (hversion : version ≠ 1) (hother : other ≠ 1)
    (data : List UInt8) : decode version data = decode other data := by
  unfold decode
  simp only [if_neg hversion, if_neg hother]

namespace Event

theorem decode_eq_of_ne_one {version other : Int} (hversion : version ≠ 1) (hother : other ≠ 1)
    (p : Packet) : decode version p = decode other p := by
  rw [decode, Report.decode_eq_of_ne_one hversion hother, Get.decode_eq_of_ne_one hversion hother,
    decode]

theorem ofPayload_eq_of_ne_one {version other : Int} (hversion : version ≠ 1) (hother : other ≠ 1)
    (payload : List UInt8) : ofPayload version payload = ofPayload other payload := by
  rw [ofPayload, ofPayload, funext (decode_eq_of_ne_one hversion hother)]

/-! ### Events -/

/-- The byte that starts the payloads of an event. -/
def firstByte? : Event → Option UInt8
  | get _ => some 0x04
  | report _ => some 0x05
  | supportedGet => some 0x07
  | supported _ => some 0x08
  | bare => none

/-- An event comes from a payload that starts with its byte. -/
theorem firstByte?_of_ofPayload {version : Int} {payload : List UInt8} {event : Event}
    (h : ofPayload version payload = .ok event) : event.firstByte? = payload.head? := by
  obtain ⟨⟨command, data⟩, rfl, hp⟩ := ofPayload_eq_ok_iff.1 h
  cases command with
  | report =>
    cases hr : Report.decode version data with
    | error fault => simp [decode, hr, Except.map] at hp
    | ok r =>
      rw [decode, hr] at hp
      cases hp
      rfl
  | supportedReport =>
    cases hr : SupportedReport.decode data with
    | error fault => simp [decode, hr, Except.map] at hp
    | ok r =>
      rw [decode, hr] at hp
      cases hp
      rfl
  | get | supportedGet =>
    cases hp
    rfl
  | set => cases hp

/-- A payload that is neither short nor foreign carries an event. -/
theorem exists_ofPayload (version : Int) {payload : List UInt8}
    (hshort : ¬ (payload = [] ∨ Malformed payload)) (hforeign : ¬ Foreign payload) :
    ∃ event, ofPayload version payload = .ok event := by
  obtain ⟨hne, hwhole⟩ := not_or.1 hshort
  obtain ⟨b, data, rfl⟩ := List.exists_cons_of_ne_nil hne
  have hb : b ∈ [0x04, 0x05, 0x07, 0x08] := by
    by_contra hnot
    exact hforeign ⟨b, rfl, hnot⟩
  simp only [List.mem_cons, List.not_mem_nil, or_false] at hb
  rcases hb with rfl | rfl | rfl | rfl
  · exact ⟨_, ofPayload_get version data⟩
  · rcases ofPayload_of_whole version (.inl rfl) hwhole with ⟨r, hr⟩ | ⟨r, hr⟩ <;> exact ⟨_, hr⟩
  · exact ⟨_, ofPayload_supportedGet version data⟩
  · rcases ofPayload_of_whole version (.inr rfl) hwhole with ⟨r, hr⟩ | ⟨r, hr⟩ <;> exact ⟨_, hr⟩

/-- How the reading of a payload ends. -/
structure Ends (version : Int) (payload : List UInt8) : Prop where
  /-- Payloads without the bytes that their layout needs are too short, and no others. -/
  short : (∃ fault, ofPayload version payload = .error fault ∧ fault.kind = .tooShort) ↔
    payload = [] ∨ Malformed payload
  /-- Payloads that start with another byte than an event does are unknown, and no others. -/
  unknown : (∃ fault, ofPayload version payload = .error fault ∧ fault.kind = .unknownCommand) ↔
    Foreign payload
  /-- All others carry the event that their first byte starts. -/
  event : (payload = [] ∨ Malformed payload) ∨ Foreign payload ∨
    ∃ event, ofPayload version payload = .ok event ∧ event.firstByte? = payload.head?
  /-- Reading by position ends in the same way, so that no byte outside is ever looked at. -/
  inside : byPosition version payload = (ofPayload version payload).mapError .undecodable

theorem ends (version : Int) (payload : List UInt8) : Ends version payload := by
  have hinside := byPosition_eq version payload
  by_cases hshort : payload = [] ∨ Malformed payload
  · obtain ⟨layout, length, herror⟩ := ofPayload_of_short version hshort
    refine ⟨?_, ?_, .inl hshort, hinside⟩
    · rw [exists_error_iff herror]
      exact iff_of_true rfl hshort
    · rw [exists_error_iff herror]
      exact iff_of_false FaultKind.tooShort_ne_unknownCommand (not_foreign_of_short hshort)
  · by_cases hforeign : Foreign payload
    · obtain ⟨b, hhead, hb⟩ := hforeign
      obtain ⟨data, rfl⟩ := List.head?_eq_some_iff.1 hhead
      obtain ⟨fault, herror, hkind⟩ := ofPayload_of_other version hb data
      refine ⟨?_, ?_, .inr (.inl ⟨b, hhead, hb⟩), hinside⟩
      · rw [exists_error_iff herror, hkind]
        exact iff_of_false FaultKind.tooShort_ne_unknownCommand.symm hshort
      · rw [exists_error_iff herror]
        exact iff_of_true hkind ⟨b, hhead, hb⟩
    · obtain ⟨event, hok⟩ := exists_ofPayload version hshort hforeign
      exact ⟨iff_of_false (not_exists_error hok _) hshort,
        iff_of_false (not_exists_error hok _) hforeign,
        .inr (.inr ⟨event, hok, firstByte?_of_ofPayload hok⟩), hinside⟩

/-- **A payload fails in two ways, or carries an event.** Whatever the version, payloads are refused
as too short if their layout needs more bytes, as unknown if their first byte starts no event, and
all others are read without a look outside. All versions but the first read the same event. -/
theorem fails_in_two_ways (payload : List UInt8) :
    (∀ version, Ends version payload) ∧
      ∀ version other, version ≠ 1 → other ≠ 1 →
        ofPayload version payload = ofPayload other payload :=
  ⟨fun version => ends version payload, fun _ _ hversion hother =>
    ofPayload_eq_of_ne_one hversion hother payload⟩

/-- At versions 2 and 0 a report has its extended fields, which nobody could use at version 0. -/
theorem extended_below_the_first_version :
    ((2 : Int) ≠ 1 ∧ (0 : Int) ≠ 1) ∧
      ofPayload 2 [0x05, 0x07, 0x01, 0x09, 0x00, 0x01, 0x01] = .ok (.report {
        alarmType := 7, level := 1, sourceNodeId := some 9, status := some 0, eventType := some 1
        eventParameter := some 1 }) ∧
      ofPayload 2 [0x05, 0x07, 0x01, 0x09, 0x00, 0x01, 0x01] =
        ofPayload 0 [0x05, 0x07, 0x01, 0x09, 0x00, 0x01, 0x01] :=
  ⟨⟨by decide, by decide⟩, rfl, (fails_in_two_ways _).2 2 0 (by decide) (by decide)⟩

end Event

end MeshAlarm
