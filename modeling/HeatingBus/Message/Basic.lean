import HeatingBus.Log.Basic
import HeatingBus.Message.Layout
import HeatingBus.Word

/-!
# Messages

A `Message` is what is known of one message of one device: the last known bytes and, for every
field, what was decoded from them. Updates arrive as windows into the message. A field is decoded
again when an update covers it and either brings it other bytes or is the first to cover it.
-/

namespace HeatingBus

open Text

inductive Reading where
  /-- No update has covered the field. -/
  | unseen
  /-- The last bytes decoded have no value. -/
  | undecodable
  | known (value : Value)

namespace Reading

def value? : Reading → Option Value
  | .known value => some value
  | _ => none

def isUnseen : Reading → Bool
  | .unseen => true
  | _ => false

def ofBuffer (field : Field) (buffer : Bytes) : Reading :=
  match field.decode buffer with
  | .ok value => .known value
  | .error _ => .undecodable

end Reading

/-- Bytes with a window of them replaced from `offset` on. -/
def overwrite (buffer update : Bytes) (offset : Nat) : Bytes :=
  buffer.take offset ++ update ++ buffer.drop (offset + update.length)

/-- Replacing a window within some bytes does not change their number. -/
theorem length_overwrite {buffer update : Bytes} {offset : Nat}
    (fits : offset + update.length ≤ buffer.length) :
    (overwrite buffer update offset).length = buffer.length := by
  simp [overwrite]
  omega

structure Message where
  layout : MessageLayout
  buffer : Bytes
  /-- What is known of each field, in the order of the fields. -/
  readings : List Reading
  buffer_length : buffer.length = layout.length
  readings_length : readings.length = layout.fields.length

structure Update where
  message : Message
  /-- The places of the fields that changed, in ascending order. -/
  changed : List Nat
  /-- What there is to say about the update. -/
  notes : List LogEntry

namespace Message

/-- A message of which nothing is known: all its bytes are zero. -/
def new (layout : MessageLayout) : Message where
  layout := layout
  buffer := List.replicate layout.length 0
  readings := List.replicate layout.fields.length .unseen
  buffer_length := List.length_replicate
  readings_length := List.length_replicate

def identification (message : Message) : UInt8 := message.layout.identification

/-! ## Updates -/

/-- Whether an update changes the field at a place: it covers the field, and either is the first to
do so or brings it other bytes. -/
def reports (message : Message) (update : Bytes) (offset index : Nat) : Bool :=
  match message.layout.fields[index]?, message.readings[index]? with
  | some field, some reading =>
    field.liesWithin offset update.length &&
      (reading.isUnseen || field.differs update offset message.buffer)
  | _, _ => false

def changedBy (message : Message) (update : Bytes) (offset : Nat) : List Nat :=
  (List.range message.layout.fields.length).filter (message.reports update offset)

def readingsAfter (message : Message) (update : Bytes) (offset : Nat) (buffer : Bytes) :
    List Reading :=
  (message.layout.fields.zip message.readings).mapIdx fun index (field, reading) =>
    if message.reports update offset index then .ofBuffer field buffer else reading

def merge (message : Message) (update : Bytes) (offset : Nat)
    (fits : offset + update.length ≤ message.layout.length) : Message where
  layout := message.layout
  buffer := overwrite message.buffer update offset
  readings := message.readingsAfter update offset (overwrite message.buffer update offset)
  buffer_length := by
    rw [length_overwrite (by rw [message.buffer_length]; exact fits), message.buffer_length]
  readings_length := by
    simp [readingsAfter, message.readings_length]

def heading (message : Message) : String :=
  "Message 0x" ++ hexByteUpper message.identification

def partialNote (message : Message) (offset finish : Nat) (field : Field) : LogEntry :=
  .warn ("Update of message 0x" ++ hexByteUpper message.identification ++
    s!" range [{offset}-{finish}] not covering whole field {field.name}")

/-- What there is to say about the fields that an update covers in part, and about changed fields
without a value. -/
def updateNotes (message : Message) (update : Bytes) (offset : Nat) : List LogEntry :=
  let count := update.length
  let buffer := overwrite message.buffer update offset
  let cut := message.layout.fields.filter fun field =>
    field.touches offset count && !field.liesWithin offset count
  let failures := (message.changedBy update offset).filterMap fun index => do
    let field ← message.layout.fields[index]?
    match field.decode buffer with
    | .ok _ => none
    | .error error => some (.debug (message.heading ++ ": " ++ error.message))
  cut.map (message.partialNote offset (offset + count)) ++ failures

def parse (message : Message) (update : Bytes) (offset : Nat) : Except BusError Update :=
  if fits : offset + update.length ≤ message.layout.length then
    .ok { message := message.merge update offset fits
          changed := message.changedBy update offset
          notes := message.updateNotes update offset }
  else .error (.outOfRange offset update.length message.layout.length)

/-- What comes of an update wherever it starts: nothing at all if its end is no word, since the
program stops before it looks at the message. -/
def parse? (message : Message) (update : Bytes) (offset : Nat) : Option (Except BusError Update) :=
  (wordSum? offset update.length).map fun _ => message.parse update offset

/-! ## Values -/

def value? (message : Message) (name : String) : Option Value := do
  let index ← message.layout.fieldIndex? name
  let reading ← message.readings[index]?
  reading.value?

def values (message : Message) : List (Field × Option Value) :=
  message.layout.fields.zip (message.readings.map Reading.value?)

def fieldNames (message : Message) (indices : List Nat) : List String :=
  indices.filterMap fun index => message.layout.fields[index]?.map Field.name

def dump (message : Message) : List LogEntry :=
  .debug (message.heading ++ s!" {message.layout.name}: " ++ hexString message.buffer) ::
    message.values.map fun (field, value) =>
      let text := match value with
        | some value => field.display value
        | none => "-"
      .debug (padRight 40 field.label ++ ": " ++ text)

/-! ## Writes -/

/-- The byte to write for a boolean field: the last known byte with its bit changed. -/
def bitWrite (message : Message) (field : Field) (value : Value) : Except BusError Bytes :=
  match value.asBool? with
  | none => .error (.encode (.typeMismatch field.kind.name value.typeName))
  | some on =>
    let merged := do
      let group ← message.layout.bitGroup? field.position
      let current ← message.buffer[field.position]?
      group.merge? field current on
    match merged with
    | some byte => .ok [byte]
    | none => .error (.internal (.noByteGroup field.name))

def encodeWrite (message : Message) (name : String) (value : Value) :
    Except BusError (Nat × Bytes) :=
  match message.layout.field? name with
  | none => .error (.unknownField message.identification name)
  | some field =>
    -- The message itself stays as it is, since the device reports its new state on its own.
    let bytes := match field.kind with
      | .boolean _ => message.bitWrite field value
      | _ => (field.encode value).mapError .encode
    bytes.map (field.position, ·)

end Message

end HeatingBus
