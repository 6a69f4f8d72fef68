import MeshAlarm.Proofs.Packet
import MeshAlarm.Proofs.Text.Hex

/-!
# Packets in hexadecimal text

A packet is read from a text if the text spells its payload once the separators are taken out. Spaces
and colons may stand anywhere, even between the two digits of a byte; other white space may not. A
text that spells no bytes is no hexadecimal text at all. One that spells bytes is read as a payload,
and refused as one.

So the text of a packet may be respelled: with capitals for small digits, and with separators put in.

## Main definitions

* `Packet.Respelled`: capitals and separators put into a text
* `Packet.ReadsHex`: what becomes of a text

## Main results

* `Packet.ofHex_of_spells`, `Packet.ofHex_of_not_spells`: a text is read by the bytes it spells
* `Packet.spells_of_respelled`: the separators go, and the capitals do not matter
* `Packet.ofHex_hex`: the text of a packet is read back
* `Packet.reads_what_is_spelled`: the texts of packets, and of faults
-/

namespace MeshAlarm.Packet

open Text.Hex (Spells)

/-! ### Bytes -/

section Reading

variable {text : String} {bytes : List UInt8}

/-- A text that spells bytes is read as they are. -/
theorem ofHex_of_spells (h : Spells (withoutSeparators text.toList) bytes) :
    ofHex text = (decode bytes).mapError .undecodable := by
  rw [ofHex, bytesOfHex, Text.Hex.decode_eq_some_iff.2 h]
  rfl

theorem ofHex_of_not_spells (h : ¬ ∃ bytes, Spells (withoutSeparators text.toList) bytes) :
    ofHex text = .error (.notHex text) := by
  rw [ofHex, bytesOfHex, Text.Hex.decode_eq_none_iff.2 h]
  rfl

/-- A text does not spell one thing and another. -/
theorem spells_unique {bytes' : List UInt8} (h : Spells (withoutSeparators text.toList) bytes)
    (h' : Spells (withoutSeparators text.toList) bytes') : bytes = bytes' :=
  Option.some.inj ((Text.Hex.decode_of_spells h).symm.trans (Text.Hex.decode_of_spells h'))

end Reading

/-! ### Texts -/

/-- What becomes of a text. -/
structure ReadsHex (text : String) : Prop where
  /-- It is no hexadecimal text if it spells nothing. -/
  notHex : ofHex text = .error (.notHex text) ↔
    ¬ ∃ bytes, Spells (withoutSeparators text.toList) bytes
  /-- Otherwise it spells one payload, which is read. -/
  decoded : ∀ bytes, Spells (withoutSeparators text.toList) bytes →
    ofHex text = (decode bytes).mapError .undecodable
  /-- The payload is too short if it is empty. -/
  tooShort : (∃ fault, ofHex text = .error fault ∧ fault.kind = .tooShort) ↔
    Spells (withoutSeparators text.toList) []
  /-- It is unknown if its first byte is no command's. -/
  unknownCommand : (∃ fault, ofHex text = .error fault ∧ fault.kind = .unknownCommand) ↔
    ∃ b data, Spells (withoutSeparators text.toList) (b :: data) ∧ ¬ (0x04 ≤ b ∧ b ≤ 0x08)
  /-- A packet is read if the text spells its payload. -/
  packet : ∀ p, ofHex text = .ok p ↔ Spells (withoutSeparators text.toList) p.encode

theorem readsHex_of_not_spells {text : String}
    (h : ¬ ∃ bytes, Spells (withoutSeparators text.toList) bytes) : ReadsHex text := by
  have hfault := ofHex_of_not_spells h
  refine ⟨iff_of_true hfault h, fun bytes hbytes => absurd ⟨bytes, hbytes⟩ h, ?_, ?_, ?_⟩
  · rw [exists_error_iff hfault]
    refine iff_of_false (fun hkind => by cases hkind) ?_
    exact fun hnil => h ⟨[], hnil⟩
  · rw [exists_error_iff hfault]
    refine iff_of_false (fun hkind => by cases hkind) ?_
    rintro ⟨b, data, hspells, -⟩
    exact h ⟨b :: data, hspells⟩
  · intro p
    rw [hfault]
    refine iff_of_false (fun hok => by cases hok) ?_
    exact fun hspells => h ⟨p.encode, hspells⟩

theorem readsHex_of_spells {text : String} {bytes : List UInt8}
    (h : Spells (withoutSeparators text.toList) bytes) : ReadsHex text := by
  have hread := ofHex_of_spells h
  have hunique (bytes' : List UInt8) :
      Spells (withoutSeparators text.toList) bytes' ↔ bytes = bytes' :=
    ⟨spells_unique h, fun heq => heq ▸ h⟩
  refine ⟨?_, fun _ => ofHex_of_spells, ?_, ?_, ?_⟩
  · refine iff_of_false ?_ (not_not_intro ⟨bytes, h⟩)
    rw [hread]
    cases decode bytes with
    | ok p => exact fun hfault => by cases hfault
    | error fault => exact fun hfault => by cases hfault
  · rw [hread, hunique]
    exact (exists_mapError_iff _).trans (read bytes).short
  · rw [hread]
    refine (exists_mapError_iff _).trans ((read bytes).unknown.trans ?_)
    simp only [hunique]
    cases bytes with
    | nil => simp
    | cons b data => simp
  · intro p
    rw [hread, hunique, mapError_eq_ok_iff]
    constructor
    · exact fun hok => (encode_of_decode hok).symm
    · rintro rfl
      exact decode_encode p

theorem readsHex (text : String) : ReadsHex text := by
  by_cases h : ∃ bytes, Spells (withoutSeparators text.toList) bytes
  · obtain ⟨bytes, hbytes⟩ := h
    exact readsHex_of_spells hbytes
  · exact readsHex_of_not_spells h

/-! ### Respelling -/

/-- The separators of hexadecimal text. -/
def IsSeparator (c : Char) : Prop :=
  c = ' ' ∨ c = ':'

instance (c : Char) : Decidable (IsSeparator c) :=
  inferInstanceAs (Decidable (_ ∨ _))

/-- Capitals for some characters of a text, and separators put in anywhere. -/
inductive Respelled : List Char → List Char → Prop
  | nil : Respelled [] []
  | separator {c : Char} {cs ds : List Char} (hc : IsSeparator c) (h : Respelled cs ds) :
      Respelled cs (c :: ds)
  | same {c : Char} {cs ds : List Char} (h : Respelled cs ds) : Respelled (c :: cs) (c :: ds)
  | capital {c : Char} {cs ds : List Char} (h : Respelled cs ds) :
      Respelled (c :: cs) (c.toUpper :: ds)

theorem Respelled.refl : ∀ cs : List Char, Respelled cs cs
  | [] => .nil
  | _ :: cs => .same (refl cs)

theorem withoutSeparators_cons (c : Char) (cs : List Char) :
    withoutSeparators (c :: cs) =
      if IsSeparator c then withoutSeparators cs else c :: withoutSeparators cs := by
  by_cases hc : IsSeparator c
  · rw [if_pos hc]
    rcases hc with rfl | rfl <;> rfl
  · rw [if_neg hc]
    obtain ⟨hspace, hcolon⟩ := not_or.1 hc
    simp [withoutSeparators, hspace, hcolon]

/-- Without separators, a respelled text differs from the text in capitals only. -/
theorem forall₂_withoutSeparators {cs ds : List Char} (h : Respelled cs ds)
    (hcs : ∀ c ∈ cs, ¬ IsSeparator c ∧ ¬ IsSeparator c.toUpper) :
    List.Forall₂ (fun c d => d = c ∨ d = c.toUpper) cs (withoutSeparators ds) := by
  induction h with
  | nil => exact .nil
  | separator hc _ ih =>
    rw [withoutSeparators_cons, if_pos hc]
    exact ih hcs
  | same _ ih =>
    rw [withoutSeparators_cons, if_neg (hcs _ List.mem_cons_self).1]
    exact .cons (.inl rfl) (ih fun c hc => hcs c (List.mem_cons_of_mem _ hc))
  | capital _ ih =>
    rw [withoutSeparators_cons, if_neg (hcs _ List.mem_cons_self).2]
    exact .cons (.inr rfl) (ih fun c hc => hcs c (List.mem_cons_of_mem _ hc))

theorem not_isSeparator_digit :
    ∀ n < 16, ¬ IsSeparator (Text.Hex.digit n) ∧ ¬ IsSeparator (Text.Hex.digit n).toUpper := by
  decide

/-- The text of a packet, respelled, spells its payload. -/
theorem spells_of_respelled {p : Packet} {cs : List Char} (h : Respelled p.hex.toList cs) :
    Spells (withoutSeparators cs) p.encode := by
  rw [hex, Text.Hex.ofBytes, String.toList_ofList] at h
  apply Text.Hex.spells_of_forall₂
  apply forall₂_withoutSeparators h
  intro c hc
  obtain ⟨n, hn, rfl⟩ := Text.Hex.exists_of_mem_encode hc
  exact not_isSeparator_digit n hn

/-- The text of a packet is read back. -/
theorem ofHex_hex (p : Packet) : ofHex p.hex = .ok p :=
  ((readsHex p.hex).packet p).2 (spells_of_respelled (.refl _))

/-- **A text is read as the packet whose payload it spells.** Separators aside, a packet is read from
the texts that spell its payload and from no others. A text that spells nothing is no hexadecimal
text, and one that spells something else is refused as that payload. The text of a packet may have
capitals for small digits, and separators anywhere. -/
theorem reads_what_is_spelled :
    (∀ text, ReadsHex text) ∧
      ∀ (p : Packet) (text : String), Respelled p.hex.toList text.toList → ofHex text = .ok p :=
  ⟨readsHex, fun p text h => ((readsHex text).packet p).2 (spells_of_respelled h)⟩

/-- A separator may stand between the digits of a byte. -/
theorem reads_split_and_capital_digits :
    let p : Packet := { command := .report, data := [0x0a] }
    Respelled p.hex.toList "0 5:0A".toList ∧ ofHex "0 5:0A" = .ok p := by
  intro p
  have hhex : p.hex.toList = ['0', '5', '0', 'a'] := by decide
  have htext : "0 5:0A".toList = ['0', ' ', '5', ':', '0', Char.toUpper 'a'] := by decide
  have h : Respelled p.hex.toList "0 5:0A".toList := by
    rw [hhex, htext]
    exact .same (.separator (.inl rfl) (.same (.separator (.inr rfl) (.same (.capital .nil)))))
  exact ⟨h, reads_what_is_spelled.2 p "0 5:0A" h⟩

end MeshAlarm.Packet
