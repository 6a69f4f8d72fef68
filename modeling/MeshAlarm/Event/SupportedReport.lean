import MeshAlarm.Bitmap
import MeshAlarm.Event.Describe
import MeshAlarm.Packet

/-!
# Supported reports

A device of version 2 or later answers a Supported Get with the event types it reports, as a bitmap
behind the number of its bytes. Numbers beyond the table are kept apart as unrecognized. A payload
may carry fewer bytes than it announces, which makes the report truncated, or more, which are
ignored.

## Main definitions

* `SupportedReport`: the fields of a supported report
* `SupportedReport.bitmapOf`: the bitmap within packet data
* `SupportedReport.decode`, `SupportedReport.encode`: a supported report from packet data and back
* `SupportedReport.decodeLog`: what is logged when packet data is read
* `SupportedReport.describe`: the description of a supported report
-/

namespace MeshAlarm

/-- The fields of a supported report. -/
structure SupportedReport where
  supported : List EventType
  unrecognized : List Int := []
  truncated : Bool := false
  deriving DecidableEq, Repr

namespace SupportedReport

/-- The number of unrecognized positions. -/
def unrecognizedCount (r : SupportedReport) : Nat :=
  r.unrecognized.length

/-! ### Decoding -/

/-- The part of a bitmap that lies within its announced length. -/
def bitmapOf (announced : UInt8) (rest : List UInt8) : List UInt8 :=
  rest.take announced.toNat

/-- Whether a bitmap is shorter than announced. -/
def isTruncated (announced : UInt8) (rest : List UInt8) : Bool :=
  (bitmapOf announced rest).length < announced.toNat

/-- The known types among positions. -/
def knownTypes (positions : List Nat) : List EventType :=
  positions.filterMap fun position : Nat => EventType.ofOrdinal? position

/-- The positions that belong to no known type. -/
def unknownPositions (positions : List Nat) : List Nat :=
  positions.filter fun position => EventType.count ≤ position

/-- Reads a supported report from packet data. -/
def decode : List UInt8 → Except DecodeFault SupportedReport
  | [] => .error (.tooShort .supportedReport 1)
  | announced :: rest =>
    let positions := Bitmap.positions (bitmapOf announced rest)
    .ok {
      supported := knownTypes positions
      unrecognized := (unknownPositions positions).map Int.ofNat
      truncated := isTruncated announced rest }

/-- What reading packet data logs: a truncated bitmap, and each position of no known type. -/
def decodeLog : List UInt8 → List Log.Record
  | [] => []
  | announced :: rest =>
    let bitmap := bitmapOf announced rest
    let shortfall : List Log.Record :=
      if isTruncated announced rest then
        [⟨.warning, s!"Supported report announces {announced.toNat} bitmap bytes"
          ++ s!" but carries {bitmap.length}"⟩]
      else []
    shortfall ++ (unknownPositions (Bitmap.positions bitmap)).map fun position =>
      ⟨.info, s!"    Unknown alarm type: {position}"⟩

/-! ### Encoding -/

/-- The positions of a supported report, known and unrecognized. -/
def positions (r : SupportedReport) : List Int :=
  r.supported.map (fun t => (t.ordinal : Int)) ++ r.unrecognized

/-- Writes a supported report. Its bitmap has at most 255 bytes. -/
def encode (memory : Bitmap.Memory) (r : SupportedReport) : Except Fault Packet := do
  -- A bitmap that is too long for its length byte is planned, and never written.
  let plan ← Bitmap.Plan.ofPositions memory r.positions
  match Bytes.ofNumbers? [(plan.length : Int)] with
  | some length => .ok { command := .supportedReport, data := length ++ plan.bitmap }
  | none => .error .byteOverflow

/-! ### Description -/

/-- The description of a supported report. -/
def describe (r : SupportedReport) : String :=
  Describe.event "SupportedReport"
    [("supported", Text.Quoted.list (r.supported.map EventType.describe)),
     ("unrecognized", Text.Quoted.list (r.unrecognized.map toString)),
     ("truncated", Describe.truth r.truncated)]

end SupportedReport

end MeshAlarm
