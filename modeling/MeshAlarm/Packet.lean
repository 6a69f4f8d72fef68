import MeshAlarm.Bytes
import MeshAlarm.Fault
import MeshAlarm.Log

/-!
# Packets

A packet is the payload of one frame: a command byte, and data whose meaning depends on the command
and on the negotiated version. Addressing, length and checksum belong to the transport, which puts
the byte of the command class in front of the payload and counts it.

## Main definitions

* `Packet`: a command and its data
* `Packet.encode`, `Packet.framed`: the payload, without and with the byte of the command class
* `Packet.length`: the length that the transport counts
* `Packet.decode`, `Packet.decodeLog`: a payload read back, and what is logged on the way
* `Packet.ofHex`: a packet from hexadecimal text
* `Packet.ofNumbers`, `Packet.ofIdentifier`: a packet from its parts
* `Packet.describe`: the description of a packet

`Packet.decode_encode` and `Packet.encode_of_decode` say that the two forms determine each other.
-/

namespace MeshAlarm

/-- A payload of the alarm command class. -/
structure Packet where
  command : Command
  data : List UInt8 := []
  deriving DecidableEq, Repr

namespace Packet

/-! ### Encoding -/

/-- The payload: the command byte and the data. -/
def encode (p : Packet) : List UInt8 :=
  p.command.byte :: p.data

/-- The payload behind the byte of the command class. -/
def framed (p : Packet) : List UInt8 :=
  commandClassByte :: p.encode

/-- The length that the transport counts: the byte of the command class and the payload. -/
def length (p : Packet) : Nat :=
  2 + p.data.length

/-- The name of the packet's command. -/
def name (p : Packet) : String :=
  p.command.name

/-- The payload as hexadecimal text. -/
def hex (p : Packet) : String :=
  Text.Hex.ofBytes p.encode

/-- The description of a packet. -/
def describe (p : Packet) : String :=
  s!"Packet(command={p.command.describe}, data={Text.Quoted.quoteBytes p.data})"

/-! ### Decoding -/

/-- Reads a payload. -/
def decode : List UInt8 → Except DecodeFault Packet
  | [] => .error (.tooShort .packet 0)
  | b :: data =>
    match Command.ofByte? b with
    | some command => .ok { command, data }
    | none => .error (.unknownCommand b)

/-- What reading a payload logs: the payload, unless it is empty. -/
def decodeLog (payload : List UInt8) : List Log.Record :=
  if payload.isEmpty then []
  else [⟨.debug, s!"Decoding bytes: '{Text.Hex.ofBytes payload}'"⟩]

/-- Hexadecimal text without the separators that may stand anywhere, even between two digits of one
byte. -/
def withoutSeparators (cs : List Char) : List Char :=
  cs.filter fun c => c != ' ' && c != ':'

/-- The bytes that a text with separators denotes. -/
def bytesOfHex (text : String) : Except Fault (List UInt8) :=
  match Text.Hex.decode (withoutSeparators text.toList) with
  | some bytes => .ok bytes
  | none => .error (.notHex text)

/-- Reads a packet from hexadecimal text. -/
def ofHex (text : String) : Except Fault Packet := do
  let bytes ← bytesOfHex text
  (decode bytes).mapError .undecodable

/-- What reading hexadecimal text logs. -/
def ofHexLog (text : String) : List Log.Record :=
  match bytesOfHex text with
  | .ok bytes => decodeLog bytes
  | .error _ => []

/-! ### Packets from their parts -/

/-- A packet with the given numbers as data. -/
def ofNumbers (command : Command) (data : List Int) : Except Fault Packet :=
  match Bytes.ofNumbers? data with
  | some bytes => .ok { command, data := bytes }
  | none => .error (.dataNotBytes data)

/-- A packet of the command that an identifier names, with the given numbers as data. -/
def ofIdentifier (identifier : String) (data : List Int) : Except Fault Packet :=
  match Command.ofIdentifier? identifier with
  | some command => ofNumbers command data
  | none => .error (.noSuchCommand identifier)

/-! ### Packets and payloads determine each other -/

@[simp] theorem decode_encode (p : Packet) : decode p.encode = .ok p := by
  simp [decode, encode]

theorem encode_of_decode {payload : List UInt8} {p : Packet} (h : decode payload = .ok p) :
    p.encode = payload := by
  cases payload with
  | nil => simp [decode] at h
  | cons b data =>
    simp only [decode] at h
    split at h
    · next command hc =>
      obtain rfl := Except.ok.inj h
      simp [encode, Command.byte_of_ofByte? hc]
    · simp at h

end Packet

end MeshAlarm
