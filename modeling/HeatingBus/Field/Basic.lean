import HeatingBus.DisplayUnit
import HeatingBus.Error

/-!
# Fields

A field is a named, positioned part of a message with a kind that says how its bytes are read.
Fields are plain data, written in the catalogue with the builders of this module.
-/

namespace HeatingBus

/-- How the raw number of an integer field becomes its value. -/
inductive Scale where
  /-- The value is the raw number divided by the factor. -/
  | divide (factor : UInt16)
  /-- The value is the raw number times the factor. -/
  | multiply (factor : UInt16)
  deriving Repr, DecidableEq

def Scale.factor : Scale → UInt16
  | divide factor | multiply factor => factor

inductive FieldKind where
  /-- A number with its most significant byte first. -/
  | integer (scale : Option Scale) (signed : Bool)
  /-- One bit of a byte that other fields may share. -/
  | boolean (bit : UInt8)
  /-- A whole byte that is on for one value. -/
  | flag (onValue : UInt8)
  /-- A day, a month and a year from 2000 on. -/
  | date
  /-- A year from 2000 on, a month, an hour, a day, a minute and, in six bytes, a second. -/
  | dateTime
  /-- A text of as many characters as bytes. -/
  | text
  deriving Repr, DecidableEq

def FieldKind.lengthBounds : FieldKind → Nat × Nat
  | integer _ _ => (1, 4)
  | boolean _ | flag _ => (1, 1)
  | date => (3, 3)
  | dateTime => (5, 6)
  | text => (1, 8)

def FieldKind.name : FieldKind → String
  | integer _ _ => "integer"
  | boolean _ => "boolean"
  | flag _ => "boolean flag"
  | date => "date"
  | dateTime => "datetime"
  | text => "string"

structure Field where
  /-- The name by which the field is written and reported. -/
  name : String
  /-- The description of the field for people. -/
  label : String
  /-- The place of its first byte in the message. -/
  position : Nat
  length : Nat
  kind : FieldKind
  displayUnit : Option DisplayUnit
  deriving Repr, DecidableEq

namespace Field

/-! ## Builders -/

def integer (position length : Nat) (name label : String) : Field :=
  ⟨name, label, position, length, .integer none false, none⟩

def boolean (position : Nat) (bit : UInt8) (name label : String) : Field :=
  ⟨name, label, position, 1, .boolean bit, none⟩

def flag (position : Nat) (onValue : UInt8) (name label : String) : Field :=
  ⟨name, label, position, 1, .flag onValue, none⟩

def date (position : Nat) (name label : String) : Field :=
  ⟨name, label, position, 3, .date, none⟩

def dateTime (position length : Nat) (name label : String) : Field :=
  ⟨name, label, position, length, .dateTime, none⟩

def text (position length : Nat) (name label : String) : Field :=
  ⟨name, label, position, length, .text, none⟩

def withUnit (field : Field) (displayUnit : DisplayUnit) : Field :=
  { field with displayUnit := some displayUnit }

def scale? (field : Field) : Option Scale :=
  match field.kind with
  | .integer scale _ => scale
  | _ => none

def isSigned (field : Field) : Bool :=
  match field.kind with
  | .integer _ signed => signed
  | _ => false

def signed (field : Field) : Field :=
  { field with kind := .integer field.scale? true }

def dividedBy (field : Field) (factor : UInt16) : Field :=
  { field with kind := .integer (some (.divide factor)) field.isSigned }

def multipliedBy (field : Field) (factor : UInt16) : Field :=
  { field with kind := .integer (some (.multiply factor)) field.isSigned }

/-! ## Place -/

def finish (field : Field) : Nat :=
  field.position + field.length

def bit? (field : Field) : Option UInt8 :=
  match field.kind with
  | .boolean bit => some bit
  | _ => none

def bitMask (bit : UInt8) : UInt8 := 1 <<< bit

def bytesIn? (field : Field) (buffer : Bytes) : Option Bytes :=
  if field.finish ≤ buffer.length then some ((buffer.drop field.position).take field.length)
  else none

def liesWithin (field : Field) (offset count : Nat) : Bool :=
  offset ≤ field.position && field.finish ≤ offset + count

/-- Whether a field ends after `offset` and starts before the end of the `count` bytes from there
on. -/
def touches (field : Field) (offset count : Nat) : Bool :=
  offset < field.finish && field.position < offset + count

/-- Whether two fields have a byte in common. -/
def meets (field other : Field) : Bool :=
  field.position < other.finish && other.position < field.finish

/-! ## Rules -/

def check (field : Field) (messageLength : Nat) : Except ConfigurationFault Unit :=
  let (least, greatest) := field.kind.lengthBounds
  if field.length < least ∨ greatest < field.length then
    .error (.fieldLength field.name field.length field.kind.name least greatest)
  else if messageLength < field.finish then
    .error (.fieldEnd field.name field.position field.finish messageLength)
  else match field.kind with
    | .boolean bit => if 7 < bit then .error (.fieldBit field.name bit) else .ok ()
    | .integer (some scale) _ =>
      if scale.factor = 0 then .error (.zeroScale field.name) else .ok ()
    | _ => .ok ()

def display (field : Field) (value : Value) : String :=
  match field.displayUnit with
  | some displayUnit => displayUnit.render value
  | none => value.describe

end Field

end HeatingBus
