import HeatingBus.Text.Hex
import HeatingBus.Text.Quoted

/-!
# Errors

Everything that can go wrong on the way between the bus and a value, by its cause. The wording is in
the `message` functions alone; what an embedding application reports in words of its own is kept as
`other`.
-/

namespace HeatingBus

open Text

/-! ## Causes -/

inductive FrameFault where
  | tooShort (length : Nat)
  | tooLong (length : Nat)
  | payloadLength (length largest : Nat)
  | exceedsQueue (length largest : Nat)
  | other (text : String)
  deriving Repr, DecidableEq

inductive ConnectionFault where
  | inboundNotConnected
  | outboundNotConnected
  | stoppedBeforeConnecting
  | queueNotAvailable (name : String)
  | queueDoesNotExist (name : String)
  | other (text : String)
  deriving Repr, DecidableEq

inductive IoFault where
  | queueClosed (name : String)
  | other (text : String)
  deriving Repr, DecidableEq

inductive StartupFault where
  | alreadyRunning
  | linkDoesNotExist (link : String)
  | other (text : String)
  deriving Repr, DecidableEq

inductive DecodeFault where
  | bufferTooShort (length : Nat)
  | invalidDate (bytes : Bytes)
  | invalidTimestamp (bytes : Bytes)
  | other (text : String)
  deriving Repr, DecidableEq

inductive EncodeError where
  /-- The encoded value is not as long as the field. -/
  | lengthMismatch (expected actual : Nat)
  /-- The number does not fit into the bytes of the field. -/
  | outOfRange (value : String) (length : Nat)
  /-- The value is of a type that the field does not hold. -/
  | typeMismatch (expected found : String)
  /-- The character is missing from the character set of the field. -/
  | unrepresentable (character : Char)
  /-- The date lies outside of what the field can hold. -/
  | invalidDate (value : String)
  deriving Repr, DecidableEq

inductive DocumentKind where
  | json
  | yaml
  deriving Repr, DecidableEq

inductive ConfigurationFault where
  | fieldLength (field : String) (length : Nat) (kind : String) (least greatest : Nat)
  | fieldEnd (field : String) (position finish messageLength : Nat)
  | fieldBit (field : String) (bit : UInt8)
  | zeroScale (field : String)
  | emptyMessage (identification : UInt8) (name : String)
  | inMessage (identification : UInt8) (fault : ConfigurationFault)
  | duplicateField (identification : UInt8) (field : String)
  | overlappingFields (identification : UInt8) (first second : String)
  | duplicateMessage (identification : UInt8)
  | versionMissing
  | versionWithoutField (field : String)
  | onlineBitmapMissing
  | onlineBitmapTooShort
  | queueName (key name : String)
  | invalidQueueName (name : String)
  | sameQueues
  | zeroCapacity
  | maxFrame (least greatest found : Nat)
  | notABusAddress (key : String) (address : UInt8)
  | clientIsBoiler (address : UInt8)
  | emptyLink
  | clientMismatch (transport engine : UInt8)
  | unknownInitialRequest (identification : UInt8) (deviceType : String)
  | unreadableDocument (kind : DocumentKind)
  | unreadableFile (path reason : String)
  | unsupportedFormat (path : String)
  | other (text : String)
  deriving Repr, DecidableEq

/-- Why the engine contradicts itself. -/
inductive InternalFault where
  | noByteGroup (field : String)
  | fieldBeyondOffset (field : String)
  | other (text : String)
  deriving Repr, DecidableEq

inductive BusError where
  | io (fault : IoFault)
  | connection (fault : ConnectionFault)
  | startup (fault : StartupFault)
  | frame (fault : FrameFault)
  /-- The last byte of a frame is not the checksum of the bytes before it. -/
  | checksumMismatch (expected actual : UInt8)
  /-- The identification code is missing from the message catalogue. -/
  | unknownMessage (identification : UInt8)
  /-- A partial update does not fit into the message. -/
  | outOfRange (offset count length : Nat)
  | encode (error : EncodeError)
  | decode (field : String) (fault : DecodeFault)
  /-- No identified device answers to the address. -/
  | deviceNotOnline (address : UInt8)
  /-- The product, or the message, does not accept writes. -/
  | writeNotSupported (address : UInt8) (product : String)
  | unknownField (identification : UInt8) (field : String)
  | configuration (fault : ConfigurationFault)
  | internal (fault : InternalFault)
  deriving Repr, DecidableEq

/-! ## Wording -/

def FrameFault.message : FrameFault → String
  | tooShort length => s!"Telegram too short: {length} bytes"
  | tooLong length => s!"Telegram too long: {length} bytes"
  | payloadLength length largest => s!"Payload of {length} bytes outside of 1..={largest}"
  | exceedsQueue length largest =>
    s!"Frame of {length} bytes exceeds queue message size {largest}"
  | other text => text

def ConnectionFault.message : ConnectionFault → String
  | inboundNotConnected => "Inbound queue not connected"
  | outboundNotConnected => "Outbound queue not connected"
  | stoppedBeforeConnecting => "Transport stopped before connecting"
  | queueNotAvailable name => s!"Queue {name} not available"
  | queueDoesNotExist name => s!"Queue {name} does not exist"
  | other text => text

def IoFault.message : IoFault → String
  | queueClosed name => s!"Queue {name} is closed"
  | other text => text

def StartupFault.message : StartupFault → String
  | alreadyRunning => "Engine already running"
  | linkDoesNotExist link => s!"Bus link {link} does not exist"
  | other text => text

def DecodeFault.message : DecodeFault → String
  | bufferTooShort length => s!"buffer of {length} bytes too short"
  | invalidDate bytes => "invalid date " ++ hexString bytes
  | invalidTimestamp bytes => "invalid timestamp " ++ hexString bytes
  | other text => text

def EncodeError.message : EncodeError → String
  | lengthMismatch expected actual =>
    s!"length mismatch: field holds {expected} bytes, value encodes to {actual}"
  | outOfRange value length => s!"value {value} does not fit into {length} byte(s)"
  | typeMismatch expected found => s!"type mismatch: expected {expected}, found {found}"
  | unrepresentable character =>
    "character " ++ quotedChar character ++ " cannot be represented in ISO-8859-15"
  | invalidDate value => s!"date {value} cannot be encoded"

def DocumentKind.label : DocumentKind → String
  | json => "JSON"
  | yaml => "YAML"

def configurationHeading : String := "Configuration error: "

def ConfigurationFault.message : ConfigurationFault → String
  | fieldLength field length kind least greatest =>
    s!"Field {field}: invalid length {length} for {kind} field (allowed {least}..={greatest})"
  | fieldEnd field position finish messageLength =>
    s!"Field {field}: bytes {position}..{finish} exceed message length {messageLength}"
  | fieldBit field bit => s!"Field {field}: bit {bit} out of range"
  | zeroScale field => s!"Field {field}: zero scale factor"
  | emptyMessage identification name =>
    "Message 0x" ++ hexByteUpper identification ++ s!" ({name}) has zero length"
  | inMessage identification fault =>
    "Message 0x" ++ hexByteUpper identification ++ ": " ++ configurationHeading ++ fault.message
  | duplicateField identification field =>
    "Message 0x" ++ hexByteUpper identification ++ s!": duplicate field name {field}"
  | overlappingFields identification first second =>
    "Message 0x" ++ hexByteUpper identification ++ s!": fields {first} and {second} overlap"
  | duplicateMessage identification => "Duplicate message 0x" ++ hexByteUpper identification
  | versionMissing => "Version message 0x02 missing"
  | versionWithoutField field => s!"Version message has no {field} field"
  | onlineBitmapMissing => "Online bitmap message 0x07 missing"
  | onlineBitmapTooShort => "Online bitmap message shorter than 8 bytes"
  | queueName key name => s!"{key} must be a name starting with '/', got " ++ quoted name
  | invalidQueueName name => "Invalid queue name " ++ quoted name
  | sameQueues => "inbound_queue and outbound_queue must differ"
  | zeroCapacity => "capacity must be at least 1"
  | maxFrame least greatest found =>
    s!"max_frame must be in {least}..={greatest}, got {found}"
  | notABusAddress key address => s!"{key} 0x" ++ hexByte address ++ " is not a bus address"
  | clientIsBoiler address =>
    "client_id 0x" ++ hexByte address ++ " collides with the boiler address"
  | emptyLink => "link must not be empty"
  | clientMismatch transport engine =>
    "Transport sends as 0x" ++ hexByte transport ++ ", engine is 0x" ++ hexByte engine
  | unknownInitialRequest identification deviceType =>
    "Initial request 0x" ++ hexByteUpper identification ++
      s!" for {deviceType} is not a known message"
  | unreadableDocument kind => kind.label ++ " error"
  | unreadableFile path reason => s!"Cannot read {path}: {reason}"
  | unsupportedFormat path => s!"Unsupported configuration format: {path}"
  | other text => text

def InternalFault.message : InternalFault → String
  | noByteGroup field => s!"No byte group for field {field}"
  | fieldBeyondOffset field => s!"Field {field} beyond offset 255"
  | other text => text

def BusError.message : BusError → String
  | io fault => "I/O error: " ++ fault.message
  | connection fault => "Connection error: " ++ fault.message
  | startup fault => "Startup failure: " ++ fault.message
  | frame fault => "Frame error: " ++ fault.message
  | checksumMismatch expected actual =>
    "Checksum mismatch: expected=" ++ hexByteUpper expected ++ ", actual=" ++ hexByteUpper actual
  | unknownMessage identification => "Unknown message 0x" ++ hexByteUpper identification
  | outOfRange offset count length =>
    s!"Update out of range: offset {offset} + length {count} exceeds message length {length}"
  | encode error => "Encode error: " ++ error.message
  | decode field fault => s!"Decode error in field {field}: " ++ fault.message
  | deviceNotOnline address => "Device 0x" ++ hexByteUpper address ++ " is not online"
  | writeNotSupported address product =>
    "Write not supported for device 0x" ++ hexByteUpper address ++ s!" ({product})"
  | unknownField identification field =>
    "Message 0x" ++ hexByteUpper identification ++ s!" has no field {field}"
  | configuration fault => configurationHeading ++ fault.message
  | internal fault => "Internal error: " ++ fault.message

/-! ## Classes -/

/-- Whether trying again later may succeed: queues come back, and devices come online. -/
def BusError.isRecoverable : BusError → Bool
  | io _ | connection _ | deviceNotOnline _ => true
  | _ => false

def BusError.isTransportError : BusError → Bool
  | io _ | connection _ | startup _ => true
  | _ => false

def BusError.isProtocolError : BusError → Bool
  | frame _ | checksumMismatch _ _ | unknownMessage _ | outOfRange _ _ _ | decode _ _ => true
  | _ => false

end HeatingBus
