import MeshAlarm.Command
import MeshAlarm.EventType
import MeshAlarm.LockState
import MeshAlarm.Text.Quoted

/-!
# Faults

Everything that can go wrong is a value that names its cause and what the message needs. A payload
from a device fails to decode in three ways, which a `DecodeFault` tells apart; `Fault` adds the
causes on the requesting side. The wording is in one place for each, and each fault is of one of
eight kinds.

## Main definitions

* `Layout`: the layouts with a minimum length
* `DecodeFault`, `DecodeFault.message`: why a payload could not be decoded
* `Fault`, `Fault.message`: why an operation failed
* `FaultKind`, `Fault.kind`: the kinds of faults
* `FaultKind.isBadValue`: the kinds that blame the value given
-/

namespace MeshAlarm

/-! ### Payloads -/

/-- The payload layouts that need a minimum length. -/
inductive Layout
  | packet
  | report
  | supportedReport
  deriving DecidableEq, Repr

namespace Layout

/-- The name of a layout in messages. -/
def label : Layout → String
  | packet => "Packet"
  | report => "Report"
  | supportedReport => "SupportedReport"

/-- The fewest bytes of a payload of the layout, command byte included. -/
def minimumLength : Layout → Nat
  | packet => 1
  | report => 3
  | supportedReport => 2

end Layout

/-- Why a payload could not be decoded. -/
inductive DecodeFault
  /-- A payload of `length` bytes is too short for its layout. -/
  | tooShort (layout : Layout) (length : Nat)
  /-- The first byte starts no command. -/
  | unknownCommand (byte : UInt8)
  /-- The command carries no event. -/
  | eventless (command : Command)
  deriving DecidableEq, Repr

/-- The wording of a decoding fault. -/
def DecodeFault.message : DecodeFault → String
  | tooShort layout length =>
    s!"{layout.label} payload too short - got {length} bytes, need {layout.minimumLength}"
  | unknownCommand byte => s!"Unknown command: 0x{Text.Hex.ofBytes [byte]}"
  | eventless command => s!"Unknown command: {command.qualified}"

/-! ### Operations -/

/-- The quantities that have to fit into one byte. -/
inductive ByteField
  | eventParameter
  | lockLevel
  deriving DecidableEq, Repr

/-- The name of a quantity in messages. -/
def ByteField.label : ByteField → String
  | eventParameter => "Event parameter"
  | lockLevel => "Lock level"

/-- Why an operation failed. -/
inductive Fault
  /-- A payload could not be decoded. -/
  | undecodable (cause : DecodeFault)
  /-- A text is not the hexadecimal form of bytes. -/
  | notHex (text : String)
  /-- A packet was asked for with a command that does not exist. -/
  | noSuchCommand (command : String)
  /-- A packet was asked for with data that are not all bytes. -/
  | dataNotBytes (data : List Int)
  /-- A number to be encoded does not fit into a byte. -/
  | byteOverflow
  /-- A bitmap of negative length was asked for. -/
  | negativeLength
  /-- A bitmap was asked for whose length no machine word holds. -/
  | lengthBeyondWord
  /-- A bitmap was asked for that does not fit into memory. -/
  | bitmapBeyondMemory
  /-- A bit position lies below the start of its bitmap. -/
  | bitBelowBitmap
  /-- A bit position lies in a row that no machine word holds. -/
  | rowBeyondWord
  /-- More bytes were asked for than are left. -/
  | dataExhausted
  /-- A byte was read where the cursor stands on none. -/
  | noByteHere
  /-- A command class version below one. -/
  | versionTooLow (version : Int)
  /-- A Get of this version has to name an event type. -/
  | typeMissing (version : Int)
  /-- This version has no Supported Get. -/
  | noSupportedGet (version : Int)
  /-- The node does not answer Gets. -/
  | noGetCapability
  /-- A text names no event type. -/
  | unknownTypeName (name : String)
  /-- The device does not report this event type. -/
  | typeNotSupported (eventType : EventType)
  /-- An alarm type stands for no lock state. -/
  | notLockType (alarmType : Int)
  /-- A quantity does not fit into a byte. -/
  | outsideByte (field : ByteField) (given : Int)
  /-- A text is not a numeral. -/
  | notInteger (text : String)
  /-- The event has no payload. -/
  | notEncodable
  deriving DecidableEq, Repr

/-- The number of characters of a refused numeral that its message shows. -/
def numeralExcerpt : Nat := 200

/-- The wording of a fault. -/
def Fault.message : Fault → String
  | undecodable cause => cause.message
  | notHex text => s!"Invalid non-hex character in data: {Text.Quoted.quoteText text}"
  | noSuchCommand command => s!"Unknown command {command}"
  | dataNotBytes data =>
    s!"Packet data must be bytes 0x00-0xff - got {Text.Quoted.list (data.map toString)}"
  | byteOverflow => "bytes must be in range(0, 256)"
  | negativeLength => "negative count"
  | lengthBeyondWord => "cannot fit 'int' into an index-sized integer"
  | bitmapBeyondMemory => ""
  | bitBelowBitmap => "bytearray index out of range"
  | rowBeyondWord => "cannot fit 'int' into an index-sized integer"
  | dataExhausted => "Unable to take more data than exists"
  | noByteHere => "index out of range"
  | versionTooLow version => s!"Command class version must be 1 or greater - got {version}"
  | typeMissing version => s!"A version {version} Get must select an event type"
  | noSupportedGet version => s!"Supported Get is not defined for version {version}"
  | noGetCapability => "AlarmCmd_Get Not Supported on this node"
  | unknownTypeName name => s!"Unknown event type name: {Text.Quoted.quoteText name}"
  | typeNotSupported eventType => s!"{eventType.label} is not supported by this device"
  | notLockType alarmType =>
    s!"Lock alarm type must be in the range {LockState.firstAlarmType} - {LockState.lastAlarmType}"
      ++ s!" - got {alarmType}"
  | outsideByte field given => s!"{field.label} must be in the range 0 - 255 - got {given}"
  | notInteger text =>
    "invalid literal for int() with base 0: " ++
      String.ofList ((Text.Quoted.quoteChars text.toList).take numeralExcerpt)
  | notEncodable => ""

/-! ### Kinds -/

/-- The kinds of faults. -/
inductive FaultKind
  /-- A payload shorter than its layout needs. -/
  | tooShort
  /-- A payload without a command that carries an event. -/
  | unknownCommand
  /-- A value outside what the operation accepts. -/
  | badValue
  /-- A request that this node or version does not know. -/
  | notSupported
  /-- A position outside the data. -/
  | outOfRange
  /-- A number beyond the machine words. -/
  | overflow
  /-- A value that does not fit into memory. -/
  | outOfMemory
  /-- An operation that this event does not have. -/
  | undefined
  deriving DecidableEq, Repr

/-- The kind of a decoding fault. -/
def DecodeFault.kind : DecodeFault → FaultKind
  | tooShort .. => .tooShort
  | unknownCommand _ => .unknownCommand
  | eventless _ => .unknownCommand

/-- The kind of a fault. -/
def Fault.kind : Fault → FaultKind
  | undecodable cause => cause.kind
  | noSupportedGet _ => .notSupported
  | noGetCapability => .notSupported
  | lengthBeyondWord => .overflow
  | bitmapBeyondMemory => .outOfMemory
  | bitBelowBitmap => .outOfRange
  | rowBeyondWord => .outOfRange
  | noByteHere => .outOfRange
  | notEncodable => .undefined
  | _ => .badValue

/-- The kinds that blame the value given, undecodable payloads included. -/
def FaultKind.isBadValue : FaultKind → Bool
  | tooShort | unknownCommand | badValue => true
  | notSupported | outOfRange | overflow | outOfMemory | undefined => false

end MeshAlarm
