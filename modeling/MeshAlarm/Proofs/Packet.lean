import MeshAlarm.Packet
import MeshAlarm.Proofs.Cursor
import MeshAlarm.Proofs.Results

/-!
# Packets and payloads

A packet can be made of every command and of numbers that are bytes, and of nothing else. Packets
and the payloads that start with the byte of a command are the same thing in two forms: each is read
back from the other, and nothing else is read. It makes no difference whether a payload is looked at
as a whole or taken byte by byte.

## Main definitions

* `Packet.readInOrder`: a payload taken byte by byte, into a packet made of its numbers
* `Packet.Made`: what becomes of numbers given as data
* `Packet.Read`: what becomes of a payload

## Main results

* `Command.exists_ofByte?_iff`: the bytes of commands
* `Packet.readInOrder_eq`: reading in order comes to the same
* `Packet.made_and_read_back`: packets and payloads determine each other
-/

namespace MeshAlarm

theorem FaultKind.tooShort_ne_unknownCommand : tooShort ≠ unknownCommand := by decide

/-! ### The bytes of commands -/

/-- The bytes of the commands are those from 4 to 8. -/
theorem Command.exists_ofByte?_iff {b : UInt8} :
    (∃ command, ofByte? b = some command) ↔ 0x04 ≤ b ∧ b ≤ 0x08 := by
  constructor
  · rintro ⟨command, h⟩
    obtain rfl := byte_of_ofByte? h
    cases command <;> decide
  · rintro ⟨hlow, hhigh⟩
    rw [UInt8.le_iff_toNat_le] at hlow hhigh
    have hcases : b.toNat = 4 ∨ b.toNat = 5 ∨ b.toNat = 6 ∨ b.toNat = 7 ∨ b.toNat = 8 := by
      change 4 ≤ b.toNat at hlow
      change b.toNat ≤ 8 at hhigh
      omega
    rcases hcases with h | h | h | h | h
    · exact ⟨.get, ofByte?_eq_some_iff.2 (UInt8.toNat_inj.1 h.symm)⟩
    · exact ⟨.report, ofByte?_eq_some_iff.2 (UInt8.toNat_inj.1 h.symm)⟩
    · exact ⟨.set, ofByte?_eq_some_iff.2 (UInt8.toNat_inj.1 h.symm)⟩
    · exact ⟨.supportedGet, ofByte?_eq_some_iff.2 (UInt8.toNat_inj.1 h.symm)⟩
    · exact ⟨.supportedReport, ofByte?_eq_some_iff.2 (UInt8.toNat_inj.1 h.symm)⟩

namespace Packet

/-! ### Reading in order -/

variable {α : Type}

/-- Takes a packet from a cursor: the byte of the command, then all the rest as numbers. -/
def takeFrom : Act Cursor α Packet := do
  let b ← Cursor.next
  match Command.ofByte? b with
  | none => Act.fail (.undecodable (.unknownCommand b))
  | some command =>
    let rest ← Cursor.takeAll
    Act.ofExcept (ofNumbers command (Bytes.toNumbers rest))

/-- Reads a payload in order, unless it has not even the byte of a command. -/
def readInOrder (payload : List UInt8) : Except Fault Packet :=
  if payload.length < Layout.packet.minimumLength then
    .error (.undecodable (.tooShort .packet payload.length))
  else ((takeFrom : Act Cursor Empty Packet).run { bytes := payload }).result

theorem ofNumbers_toNumbers (command : Command) (data : List UInt8) :
    ofNumbers command (Bytes.toNumbers data) = .ok { command, data } := by
  rw [ofNumbers, Bytes.ofNumbers?_toNumbers]

/-- The rest of a payload is made into a packet again without fail. -/
theorem result_takeFrom (b : UInt8) (data : List UInt8) :
    ((takeFrom : Act Cursor α Packet).effect { bytes := b :: data }).result =
      (decode (b :: data)).mapError .undecodable := by
  have hnext : (Cursor.next : Act Cursor α UInt8).effect ⟨b :: data, 0⟩ =
      ⟨.ok b, ⟨b :: data, 1⟩, []⟩ := Cursor.effect_next_append [] b data
  have hrest : (Cursor.takeAll : Act Cursor α (List UInt8)).effect ⟨b :: data, 1⟩ =
      ⟨.ok data, ⟨b :: data, (1 + data.length : Nat)⟩, []⟩ := Cursor.effect_takeAll_append [b] data
  rw [takeFrom, Act.effect_bind, hnext, Effect.andThen_ok, Effect.behind_nil, decode]
  cases Command.ofByte? b with
  | none => rfl
  | some command =>
    dsimp only
    rw [Act.effect_bind, hrest, Effect.andThen_ok, ofNumbers_toNumbers]
    rfl

/-- Reading in order comes to the same as looking at the whole. -/
theorem readInOrder_eq (payload : List UInt8) :
    readInOrder payload = (decode payload).mapError .undecodable := by
  cases payload with
  | nil => rfl
  | cons b data =>
    have hlong : ¬ (b :: data).length < Layout.packet.minimumLength :=
      Nat.not_lt.2 (Nat.le_add_left 1 data.length)
    rw [readInOrder, if_neg hlong]
    exact result_takeFrom b data

/-! ### Packets and payloads -/

/-- Numbers given as the data of a packet. -/
structure Made (command : Command) (data : List Int) : Prop where
  /-- Numbers of which one is no byte are refused. -/
  refused : (∃ fault, ofNumbers command data = .error fault ∧ fault.kind = .badValue) ↔
    ∃ n ∈ data, ¬ (0 ≤ n ∧ n ≤ 255)
  /-- All others are the data of a packet, which is read back from its payload. The transport puts
  one byte in front and counts it. -/
  made : (∃ n ∈ data, ¬ (0 ≤ n ∧ n ≤ 255)) ∨ ∃ p, ofNumbers command data = .ok p ∧
    p.command = command ∧ Bytes.toNumbers p.data = data ∧ decode p.encode = .ok p ∧
      p.framed = 0x71 :: p.encode ∧ p.length = p.framed.length

/-- What becomes of a payload. -/
structure Read (payload : List UInt8) : Prop where
  /-- Only an empty payload is too short. -/
  short : (∃ fault, decode payload = .error fault ∧ fault.kind = .tooShort) ↔ payload = []
  /-- A first byte from 4 to 8 is the byte of a command, and no other is. -/
  unknown : (∃ fault, decode payload = .error fault ∧ fault.kind = .unknownCommand) ↔
    ∃ b, payload.head? = some b ∧ ¬ (0x04 ≤ b ∧ b ≤ 0x08)
  /-- All others are the payload of a packet. -/
  read : payload = [] ∨ (∃ b, payload.head? = some b ∧ ¬ (0x04 ≤ b ∧ b ≤ 0x08)) ∨
    ∃ p, decode payload = .ok p ∧ p.encode = payload
  /-- Reading in order comes to the same. -/
  inOrder : readInOrder payload = (decode payload).mapError .undecodable

theorem exists_ofNumbers {data : List Int} (h : ∀ n ∈ data, Bytes.Fits n) (command : Command) :
    ∃ p, ofNumbers command data = .ok p ∧ p.command = command ∧ Bytes.toNumbers p.data = data := by
  obtain ⟨bytes, hbytes⟩ := Option.isSome_iff_exists.1 (Bytes.isSome_ofNumbers?_iff.2 h)
  refine ⟨{ command, data := bytes }, ?_, rfl, Bytes.toNumbers_of_ofNumbers? hbytes⟩
  rw [ofNumbers, hbytes]

theorem ofNumbers_of_not_fits {data : List Int} (h : ∃ n ∈ data, ¬ Bytes.Fits n)
    (command : Command) : ofNumbers command data = .error (.dataNotBytes data) := by
  rw [ofNumbers, Bytes.ofNumbers?_eq_none_iff.2 h]

theorem length_framed (p : Packet) : p.framed.length = p.length := by
  rw [framed, encode, List.length_cons, List.length_cons, length, Nat.add_comm 2]

theorem made (command : Command) (data : List Int) : Made command data := by
  by_cases h : ∃ n ∈ data, ¬ Bytes.Fits n
  · refine ⟨?_, .inl h⟩
    rw [exists_error_iff (ofNumbers_of_not_fits h command)]
    exact iff_of_true rfl h
  · have hfits : ∀ n ∈ data, Bytes.Fits n := by
      intro n hn
      by_contra hnot
      exact h ⟨n, hn, hnot⟩
    obtain ⟨p, hp, hcommand, hdata⟩ := exists_ofNumbers hfits command
    exact ⟨iff_of_false (not_exists_error hp _) h,
      .inr ⟨p, hp, hcommand, hdata, p.decode_encode, rfl, p.length_framed.symm⟩⟩

theorem read_nil : Read [] := by
  have herror : decode [] = .error (.tooShort .packet 0) := rfl
  refine ⟨?_, ?_, .inl rfl, readInOrder_eq _⟩
  · rw [exists_error_iff herror]
    exact iff_of_true rfl rfl
  · rw [exists_error_iff herror]
    refine iff_of_false FaultKind.tooShort_ne_unknownCommand ?_
    rintro ⟨b, hhead, -⟩
    cases hhead

theorem read_cons (b : UInt8) (data : List UInt8) : Read (b :: data) := by
  have hhead : (∃ b', (b :: data).head? = some b' ∧ ¬ (0x04 ≤ b' ∧ b' ≤ 0x08)) ↔
      ¬ (0x04 ≤ b ∧ b ≤ 0x08) := by
    simp only [List.head?_cons, Option.some.injEq, exists_eq_left']
  by_cases hrange : 0x04 ≤ b ∧ b ≤ 0x08
  · obtain ⟨command, hcommand⟩ := Command.exists_ofByte?_iff.2 hrange
    have hok : decode (b :: data) = .ok { command, data } := by rw [decode, hcommand]
    refine ⟨?_, ?_, .inr (.inr ⟨_, hok, encode_of_decode hok⟩), readInOrder_eq _⟩
    · exact iff_of_false (not_exists_error hok _) (List.cons_ne_nil b data)
    · rw [hhead]
      exact iff_of_false (not_exists_error hok _) (not_not_intro hrange)
  · have hnone : Command.ofByte? b = none := by
      rw [Option.eq_none_iff_forall_ne_some]
      intro command hcommand
      exact hrange (Command.exists_ofByte?_iff.1 ⟨command, hcommand⟩)
    have herror : decode (b :: data) = .error (.unknownCommand b) := by rw [decode, hnone]
    refine ⟨?_, ?_, .inr (.inl (hhead.2 hrange)), readInOrder_eq _⟩
    · rw [exists_error_iff herror]
      exact iff_of_false FaultKind.tooShort_ne_unknownCommand.symm (List.cons_ne_nil b data)
    · rw [exists_error_iff herror, hhead]
      exact iff_of_true rfl hrange

theorem read (payload : List UInt8) : Read payload := by
  cases payload with
  | nil => exact read_nil
  | cons b data => exact read_cons b data

/-- **Packets and payloads determine each other.** Numbers make a packet of every command exactly if
they are bytes, and the packet is read back from its payload; a payload is refused as too short if
it is empty, as unknown if its first byte is no command's, and is otherwise the payload of the packet
that is read from it. -/
theorem made_and_read_back :
    (∀ command data, Made command data) ∧ ∀ payload, Read payload :=
  ⟨made, read⟩

end Packet

end MeshAlarm
