import HeatingBus.Field.Codec

/-!
# Message layouts

A `MessageRow` describes a message as a catalogue writes it. A `MessageLayout` is a row that has
been checked: the fields keep the rules of their kinds and fit into the message, their names differ,
and no bit belongs to two of them, so that fields may share a byte only as different single bits of
it. The names are put into an index while the fields are checked one after the other.
-/

namespace HeatingBus

open HeatingBus.Field

structure NameIndex where
  entries : List (String × Nat)
  deriving Repr, DecidableEq

namespace NameIndex

def empty : NameIndex := ⟨[]⟩

def place? (index : NameIndex) (name : String) : Option Nat :=
  index.entries.lookup name

/-- The index with a place for a name, which takes precedence over the one it had before. -/
def insert (index : NameIndex) (name : String) (place : Nat) : NameIndex :=
  ⟨(name, place) :: index.entries⟩

end NameIndex

structure MessageRow where
  identification : UInt8
  name : String
  length : Nat
  writable : Bool
  fields : List Field
  deriving Repr, DecidableEq

namespace MessageRow

def readOnly (identification : UInt8) (name : String) (length : Nat) (fields : List Field) :
    MessageRow :=
  ⟨identification, name, length, false, fields⟩

def acceptingWrites (row : MessageRow) : MessageRow :=
  { row with writable := true }

/-! ## Rules -/

/-- Whether two fields may both stand in a message: they have no byte in common, or they are
different bits of one byte. -/
def mayCoexist (first second : Field) : Bool :=
  !first.meets second ||
    match first.bit?, second.bit? with
    | some one, some other => first.position == second.position && one != other
    | _, _ => false

/-- The index with the names of fields, if the fields keep the rules of their kinds, and their names
differ from each other and from those in the index. -/
def checkFields (row : MessageRow) :
    NameIndex → List (Field × Nat) → Except ConfigurationFault NameIndex
  | index, [] => .ok index
  | index, (field, place) :: rest => do
    (field.check row.length).mapError (.inMessage row.identification)
    if (index.place? field.name).isSome then
      throw (.duplicateField row.identification field.name)
    checkFields row (index.insert field.name place) rest

def conflict? : List Field → Option (Field × Field)
  | [] => none
  | field :: rest =>
    match rest.find? fun other => !mayCoexist field other with
    | some other => some (field, other)
    | none => conflict? rest

def check (row : MessageRow) : Except ConfigurationFault NameIndex := do
  if row.length = 0 then throw (.emptyMessage row.identification row.name)
  let index ← checkFields row .empty row.fields.zipIdx
  match conflict? row.fields with
  | some (first, second) => throw (.overlappingFields row.identification first.name second.name)
  | none => return index

end MessageRow

/-! ## Bytes shared by bits -/

/-- The boolean fields of one byte. Devices accept whole bytes only, so a write of one bit is the
last known byte with that bit changed. -/
structure BitGroup where
  /-- The place of the byte in the message. -/
  position : Nat
  /-- The places of the fields in the list of fields. -/
  members : List Nat
  /-- The bits of the fields. -/
  mask : UInt8
  deriving Repr, DecidableEq

namespace BitGroup

def undeclaredBits (group : BitGroup) : UInt8 :=
  ~~~group.mask

def merge? (group : BitGroup) (field : Field) (current : UInt8) (on : Bool) : Option UInt8 :=
  if field.bit?.isSome ∧ field.position = group.position then some (field.applyBit current on)
  else none

/-- The groups with one more field in the group of its byte, or in a group of its own. -/
def insert (position index : Nat) (bit : UInt8) : List BitGroup → List BitGroup
  | [] => [⟨position, [index], bitMask bit⟩]
  | group :: rest =>
    if group.position = position then
      { group with members := group.members ++ [index], mask := group.mask ||| bitMask bit } :: rest
    else group :: insert position index bit rest

/-- The groups of some fields, in the order of their first fields. -/
def ofFields (fields : List Field) : List BitGroup :=
  fields.zipIdx.foldl (fun groups (field, index) =>
    match field.bit? with
    | some bit => insert field.position index bit groups
    | none => groups) []

end BitGroup

/-! ## Layouts -/

/-- A row that describes a message, and the index of the names of its fields. -/
structure MessageLayout where
  row : MessageRow
  index : NameIndex
  accepted : row.check = .ok index

namespace MessageLayout

def ofRow (row : MessageRow) : Except BusError MessageLayout :=
  match accepted : row.check with
  | .ok index => .ok ⟨row, index, accepted⟩
  | .error fault => .error (.configuration fault)

def identification (layout : MessageLayout) : UInt8 := layout.row.identification

def name (layout : MessageLayout) : String := layout.row.name

def length (layout : MessageLayout) : Nat := layout.row.length

def writable (layout : MessageLayout) : Bool := layout.row.writable

def fields (layout : MessageLayout) : List Field := layout.row.fields

def bitGroups (layout : MessageLayout) : List BitGroup := BitGroup.ofFields layout.fields

def bitGroup? (layout : MessageLayout) (position : Nat) : Option BitGroup :=
  layout.bitGroups.find? (·.position = position)

def fieldIndex? (layout : MessageLayout) (name : String) : Option Nat :=
  layout.index.place? name

def field? (layout : MessageLayout) (name : String) : Option Field := do
  let place ← layout.fieldIndex? name
  layout.fields[place]?

end MessageLayout

end HeatingBus
