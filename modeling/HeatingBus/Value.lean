import HeatingBus.Calendar.Timestamp
import HeatingBus.Decimal.Format

/-!
# Values of fields

What the bytes of a field decode to, and what a write takes.
-/

namespace HeatingBus

open Calendar

inductive Value where
  | integer (value : Int64)
  | decimal (value : Float)
  | bool (value : Bool)
  | date (value : Date)
  /-- A timestamp, with the top bit of its year byte. -/
  | dateTime (value : Timestamp) (reservedBit : Bool)
  | text (value : String)
  deriving DecidableEq

namespace Value

def typeName : Value → String
  | integer _ => "integer"
  | decimal _ => "decimal"
  | bool _ => "bool"
  | date _ => "date"
  | dateTime _ _ => "datetime"
  | text _ => "text"

def asInteger? : Value → Option Int64
  | integer value => some value
  | _ => none

def asFloat? : Value → Option Float
  | integer value => some value.toFloat
  | decimal value => some value
  | _ => none

def asBool? : Value → Option Bool
  | bool value => some value
  | _ => none

/-- The place in a table of labels that a value stands for. -/
def asIndex? : Value → Option Nat
  | integer value => if 0 ≤ value.toInt then some value.toInt.toNat else none
  | bool value => some value.toNat
  | _ => none

def describe : Value → String
  | integer value => toString value.toInt
  | decimal value => Decimal.text value
  | bool value => if value then "true" else "false"
  | date value => value.text
  | dateTime value _ => value.text
  | text value => value

end Value

end HeatingBus
