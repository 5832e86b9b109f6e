import HeatingBus.Field.Basic
import HeatingBus.Text.LatinNine

/-!
# Bytes and values of a field

Decoding reads the value of a field from a whole message buffer; encoding gives the bytes of a
value. Both follow the kind of the field, and neither changes a byte outside of it.
-/

namespace HeatingBus

open Calendar Text

def yearEpoch : Int := 2000

/-- The bit of the year byte of a timestamp that is not part of the year. -/
def reservedYearBit : UInt8 := 0x80

/-! ## Numbers in bytes -/

/-- The number in some bytes, the most significant first. -/
def numberOfBytes (bytes : Bytes) : Nat :=
  bytes.foldl (fun number byte => 256 * number + byte.toNat) 0

def byteValues (count : Nat) : Nat := Nat.pow 256 count

/-- The last `count` bytes of a number, the most significant first. -/
def bytesOfNumber : Nat → Nat → Bytes
  | 0, _ => []
  | count + 1, number => UInt8.ofNat (number / byteValues count) :: bytesOfNumber count number

/-- The number that `count` bytes stand for in two's complement. -/
def signedNumber (count number : Nat) : Int :=
  if byteValues count ≤ 2 * number then (number : Int) - byteValues count else number

namespace Field

/-! ## Decoding -/

def integerOfBytes (scale : Option Scale) (signed : Bool) (bytes : Bytes) : Value :=
  let number := numberOfBytes bytes
  let raw := Int64.ofInt (if signed then signedNumber bytes.length number else number)
  match scale with
  | none => .integer raw
  | some (.divide factor) => .decimal (raw.toFloat / factor.toFloat)
  | some (.multiply factor) => .integer (raw * Int64.ofInt factor.toNat)

def dateOfBytes? (bytes : Bytes) : Option Value :=
  match bytes with
  | day :: month :: year :: _ =>
    (Date.ofYmd? (yearEpoch + year.toNat) month.toNat day.toNat).map .date
  | _ => none

def dateTimeOfBytes? (bytes : Bytes) : Option Value :=
  match bytes with
  | year :: month :: hour :: day :: minute :: rest =>
    -- Only the last of exactly six bytes is a second.
    let second := match rest with
      | [last] => last
      | _ => 0
    (Timestamp.ofParts? (yearEpoch + (year &&& ~~~reservedYearBit).toNat) month.toNat day.toNat
      hour.toNat minute.toNat second.toNat).map
        (.dateTime · (year &&& reservedYearBit != 0))
  | _ => none

def decode (field : Field) (buffer : Bytes) : Except BusError Value :=
  match field.bytesIn? buffer with
  | none => .error (.decode field.name (.bufferTooShort buffer.length))
  | some bytes =>
    match field.kind with
    | .integer scale signed => .ok (integerOfBytes scale signed bytes)
    | .boolean bit => .ok (.bool (bytes.headD 0 &&& bitMask bit != 0))
    | .flag onValue => .ok (.bool (bytes.headD 0 = onValue))
    | .date =>
      match dateOfBytes? bytes with
      | some value => .ok value
      | none => .error (.decode field.name (.invalidDate bytes))
    | .dateTime =>
      match dateTimeOfBytes? bytes with
      | some value => .ok value
      | none => .error (.decode field.name (.invalidTimestamp bytes))
    | .text => .ok (.text (LatinNine.decode bytes))

/-! ## Encoding -/

def roundingLimit : Int := 0x8000000000000000

def clamped (number : Int) : Int64 :=
  Int64.ofInt (max (-roundingLimit) (min (roundingLimit - 1) number))

def roundedInteger (scale : Option Scale) (length : Nat) (value : Value) :
    Except EncodeError Int64 :=
  match value.asFloat? with
  | none => .error (.typeMismatch "integer" value.typeName)
  | some number =>
    let scaled := match scale with
      | none => number
      | some (.divide factor) => number * factor.toFloat
      | some (.multiply factor) => number / factor.toFloat
    match Decimal.nearestInteger? scaled with
    | some rounded =>
      if (rounded.natAbs : Int) ≤ roundingLimit then .ok (clamped rounded)
      else .error (.outOfRange value.describe length)
    | none => .error (.outOfRange value.describe length)

def rawInteger (scale : Option Scale) (length : Nat) (value : Value) : Except EncodeError Int64 :=
  -- An integer that the factor divides exactly stays an integer all the way, anything else is scaled
  -- in floating point and rounded.
  match scale, value with
  | none, .integer number => .ok number
  | some (.multiply factor), .integer number =>
    if number.toInt.tmod factor.toNat = 0 then .ok (Int64.ofInt (number.toInt.tdiv factor.toNat))
    else roundedInteger scale length value
  | _, _ => roundedInteger scale length value

def RawFits (signed : Bool) (length : Nat) (raw : Int) : Prop :=
  if signed then -(byteValues length : Int) ≤ 2 * raw ∧ 2 * raw < byteValues length
  else 0 ≤ raw ∧ raw < byteValues length

instance (signed : Bool) (length : Nat) (raw : Int) : Decidable (RawFits signed length raw) := by
  unfold RawFits
  infer_instance

def bytesOfInteger (scale : Option Scale) (signed : Bool) (length : Nat) (value : Value) :
    Except EncodeError Bytes := do
  let raw ← rawInteger scale length value
  if RawFits signed length raw.toInt then
    return bytesOfNumber length (raw.toInt % byteValues length).toNat
  else throw (.outOfRange (toString raw.toInt) length)

def yearByte? (year : Int) (greatest : Nat) : Option UInt8 :=
  let offset := year - yearEpoch
  if 0 ≤ offset ∧ offset ≤ greatest then some (UInt8.ofNat offset.toNat) else none

def bytesOfDate (date : Date) : Except EncodeError Bytes :=
  match yearByte? date.year 0xFF with
  | some year => .ok [UInt8.ofNat date.day, UInt8.ofNat date.month, year]
  | none => .error (.invalidDate date.text)

/-- The bytes of a timestamp, with its second if there is room for it. -/
def bytesOfDateTime (length : Nat) (timestamp : Timestamp) (reservedBit : Bool) :
    Except EncodeError Bytes :=
  match yearByte? timestamp.date.year 0x7F with
  | some year =>
    .ok ([year ||| (if reservedBit then reservedYearBit else 0), UInt8.ofNat timestamp.date.month,
      UInt8.ofNat timestamp.time.hour, UInt8.ofNat timestamp.date.day,
      UInt8.ofNat timestamp.time.minute] ++
        if length = 6 then [UInt8.ofNat timestamp.time.second] else [])
  | none => .error (.invalidDate timestamp.spacedText)

/-- A byte with the bit of a boolean field set or cleared; other kinds leave it alone. -/
def applyBit (field : Field) (byte : UInt8) (on : Bool) : UInt8 :=
  match field.kind with
  | .boolean bit => if on then byte ||| bitMask bit else byte &&& ~~~bitMask bit
  | _ => byte

def unsizedBytes (field : Field) (value : Value) : Except EncodeError Bytes :=
  match field.kind, value with
  | .integer scale signed, value => bytesOfInteger scale signed field.length value
  -- The bit stands alone here; a write puts it into the last known byte.
  | .boolean _, .bool on => .ok [field.applyBit 0 on]
  | .flag onValue, .bool on => .ok [if on then onValue else 0]
  | .date, .date date => bytesOfDate date
  | .dateTime, .dateTime timestamp reservedBit =>
    bytesOfDateTime field.length timestamp reservedBit
  | .text, .text text => (LatinNine.encode text).mapError .unrepresentable
  | kind, value => .error (.typeMismatch kind.name value.typeName)

def encode (field : Field) (value : Value) : Except EncodeError Bytes := do
  let bytes ← field.unsizedBytes value
  if bytes.length = field.length then return bytes
  else throw (.lengthMismatch field.length bytes.length)

/-! ## Changes -/

/-- Whether an update that starts at `offset` brings a field other bytes than those in the buffer. -/
def differs (field : Field) (update : Bytes) (offset : Nat) (buffer : Bytes) : Bool :=
  if field.liesWithin offset update.length then
    match field.bytesIn? buffer with
    | none => false
    | some stored =>
      let incoming := (update.drop (field.position - offset)).take field.length
      match field.kind with
      -- The other bits of the byte belong to other fields.
      | .boolean bit =>
        incoming.headD 0 &&& bitMask bit != stored.headD 0 &&& bitMask bit
      | _ => incoming != stored
  else false

end Field

end HeatingBus
