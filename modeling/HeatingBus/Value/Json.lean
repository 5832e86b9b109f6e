import HeatingBus.Value
import HeatingBus.Calendar.Reader
import HeatingBus.Json.Reader

/-!
# Values in JSON documents

A value is written without saying its type: numbers and truth values as such, dates and texts
between quotes, and a timestamp as an object with its reserved bit. Reading takes the first type
that fits, in the order of the constructors of `Value`.
-/

namespace HeatingBus.Value

open Json Calendar

def timestampKey : String := "value"

def reservedBitKey : String := "reserved_bit"

def toJson : Value → String
  | integer value => toString value.toInt
  | decimal value => Decimal.NumberFormat.json.render value
  | bool value => if value then "true" else "false"
  | date value => quotedText value.text
  | dateTime value reservedBit =>
    "\x7b" ++ quotedText timestampKey ++ ":" ++ quotedText value.isoText ++ "," ++
      quotedText reservedBitKey ++ ":" ++ (if reservedBit then "true" else "false") ++ "\x7d"
  | text value => quotedText value

/-- The number of a literal: an integer if it is one of 64 bits with a sign, otherwise a decimal. -/
def ofNumber? (literal : NumberLiteral) : Option Value :=
  match literal.integer? with
  | some value =>
    if value < 0x8000000000000000 then some (.integer (Int64.ofInt value))
    else some (.decimal (UInt64.ofNat value.toNat).toFloat)
  | none => literal.float?.map .decimal

def ofText (value : String) : Value :=
  match readDate? value with
  | some day => .date day
  | none => .text value

def membersNamed (key : String) (members : List (Option String × Node)) : List Node :=
  (members.filter (·.1 = some key)).map (·.2)

/-- The timestamp of an object: each of its two keys stands in it once, others do not matter. -/
def ofMembers? (members : List (Option String × Node)) : Option Value :=
  match membersNamed timestampKey members, membersNamed reservedBitKey members with
  | [.text (some written)], [.bool reservedBit] =>
    (readTimestamp? written).map (.dateTime · reservedBit)
  | _, _ => none

mutual

/-- Whether every number of a tree fits into a float and every text stands for something. -/
def isReadable : Node → Bool
  | .null | .bool _ => true
  | .number literal => literal.integer?.isSome || literal.float?.isSome
  | .text value => value.isSome
  | .array elements => areReadable elements
  | .object members => membersAreReadable members

def areReadable : List Node → Bool
  | [] => true
  | node :: rest => isReadable node && areReadable rest

def membersAreReadable : List (Option String × Node) → Bool
  | [] => true
  | (key, node) :: rest => key.isSome && isReadable node && membersAreReadable rest

end

def greatestDepth : Nat := 127

/-- The value that a tree stands for. Nothing stands for a null, an array, or another object. -/
def ofNode? (node : Node) : Option Value :=
  if isReadable node ∧ node.depth ≤ greatestDepth then
    match node with
    | .number literal => ofNumber? literal
    | .bool value => some (.bool value)
    | .text (some value) => some (ofText value)
    | .object members => ofMembers? members
    | _ => none
  else none

def ofJson? (document : String) : Option Value := do
  ofNode? (← parse? document)

end HeatingBus.Value
