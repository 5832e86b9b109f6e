import HeatingBus.Error

/-!
# Telegrams

The wire format of one bus telegram: source, destination, identification of the message and offset
of the payload within it, one byte each, then 1 to 27 payload bytes and a checksum. A destination
with its top bit set marks a read request, destination zero a broadcast.
-/

namespace HeatingBus

open Text

abbrev BusAddress := UInt8

/-! ## Sizes and marks -/

def minTelegramLength : Nat := 6

def maxTelegramLength : Nat := 32

/-- The length of the header: source, destination, identification and offset. -/
def headerLength : Nat := 4

def maxPayloadLength : Nat := maxTelegramLength - headerLength - 1

def readFlag : UInt8 := 0x80

def broadcastAddress : UInt8 := 0x00

def withoutReadFlag (address : UInt8) : BusAddress := address &&& 0x7F

/-! ## Checksum -/

/-- One step of the checksum: the running value is rotated left by one bit, with `0x0C` added to it
before that if its top bit is set, and the next byte is added; additions are exclusive ors. -/
def checksumStep (running byte : UInt8) : UInt8 :=
  let carry := running &&& 0x80 != 0
  let mixed := if carry then running ^^^ 0x0C else running
  ((mixed <<< 1) ||| (if carry then 1 else 0)) ^^^ byte

def checksum (bytes : Bytes) : UInt8 :=
  bytes.foldl checksumStep 0

/-! ## Kinds -/

inductive TelegramKind where
  /-- To everyone, with no answer expected. -/
  | broadcast
  /-- To a device that answers at once. -/
  | readRequest
  /-- To one device: a write, or the answer to a read request. -/
  | write
  deriving Repr, DecidableEq

def TelegramKind.ofDestination (destination : UInt8) : TelegramKind :=
  if destination = broadcastAddress then .broadcast
  else if destination &&& readFlag ≠ 0 then .readRequest
  else .write

def TelegramKind.label : TelegramKind → String
  | broadcast => "BROADCAST"
  | readRequest => "REQUEST"
  | write => "WRITE"

/-! ## Telegrams -/

structure Telegram where
  source : BusAddress
  /-- The destination byte, with its read flag. -/
  destinationByte : UInt8
  /-- The code of the message that the payload belongs to. -/
  identification : UInt8
  /-- The place of the payload within the message. -/
  offset : UInt8
  payload : Bytes
  checksum : UInt8
  deriving Repr, DecidableEq

namespace Telegram

def body (source destination identification offset : UInt8) (payload : Bytes) : Bytes :=
  source :: destination :: identification :: offset :: payload

def sealed (source destination identification offset : UInt8) (payload : Bytes) : Telegram :=
  { source, destinationByte := destination, identification, offset, payload
    checksum := HeatingBus.checksum (body source destination identification offset payload) }

def ofPayload (source destination identification offset : UInt8) (payload : Bytes) :
    Except BusError Telegram :=
  if payload.isEmpty ∨ payload.length > maxPayloadLength then
    .error (.frame (.payloadLength payload.length maxPayloadLength))
  else .ok (sealed source destination identification offset payload)

/-- A request for a whole message; its payload byte is the greatest length of the answer. -/
def readRequest (client destination : BusAddress) (identification : UInt8) : Telegram :=
  sealed client (destination ||| readFlag) identification 0 [UInt8.ofNat maxTelegramLength]

def write (client destination : BusAddress) (identification offset : UInt8) (bytes : Bytes) :
    Except BusError Telegram :=
  ofPayload client (withoutReadFlag destination) identification offset bytes

/-- The telegram that a frame holds: its length is in range, and its last byte is the checksum of
the rest. -/
def parse (frame : Bytes) : Except BusError Telegram :=
  if frame.length < minTelegramLength then .error (.frame (.tooShort frame.length))
  else if frame.length > maxTelegramLength then .error (.frame (.tooLong frame.length))
  else
    let expected := HeatingBus.checksum frame.dropLast
    let actual := frame.getLastD 0
    if expected ≠ actual then .error (.checksumMismatch expected actual)
    else match frame.dropLast with
      | source :: destination :: identification :: offset :: payload =>
        .ok { source, destinationByte := destination, identification, offset, payload
              checksum := actual }
      | _ => .error (.frame (.tooShort frame.length))

def toBytes (telegram : Telegram) : Bytes :=
  body telegram.source telegram.destinationByte telegram.identification telegram.offset
    telegram.payload ++ [telegram.checksum]

def kind (telegram : Telegram) : TelegramKind :=
  .ofDestination telegram.destinationByte

def isReadRequest (telegram : Telegram) : Bool :=
  telegram.kind = .readRequest

def destination (telegram : Telegram) : BusAddress :=
  withoutReadFlag telegram.destinationByte

def length (telegram : Telegram) : Nat :=
  headerLength + telegram.payload.length + 1

def describe (telegram : Telegram) : String :=
  padLeft 9 telegram.kind.label ++ " 0x" ++ hexByte telegram.source ++ " -> 0x" ++
    hexByte telegram.destination ++ " t 0x" ++ hexByte telegram.identification ++
    s!", o {telegram.offset}: " ++ hexString telegram.toBytes

end Telegram

end HeatingBus
