/-!
# Reading digits and floats

The numeric prefix of a text, and the float that a decimal text stands for. A decimal text is an
optional sign and either a name (`inf`, `infinity`, `nan`, in any case) or digits with an optional
point and an optional exponent; at least one digit stands before the exponent. It reads as the
nearest float.
-/

namespace HeatingBus.Decimal

def digitsValue (digits : List Char) : Nat :=
  digits.foldl (fun value digit => 10 * value + (digit.toNat - '0'.toNat)) 0

def splitDigits (text : List Char) : List Char × List Char :=
  (text.takeWhile Char.isDigit, text.dropWhile Char.isDigit)

def splitSign : List Char → Bool × List Char
  | '-' :: rest => (true, rest)
  | '+' :: rest => (false, rest)
  | rest => (false, rest)

/-- An exponent of this size takes no more digits. -/
def exponentLimit : Nat := 0x10000

def exponentSize (digits : List Char) : Nat :=
  digits.foldl
    (fun size digit => if size < exponentLimit then 10 * size + digitsValue [digit] else size) 0

/-- The exponent at the end of a decimal text; none at all is zero. -/
def readExponent? : List Char → Option Int
  | [] => some 0
  | mark :: rest =>
    if mark = 'e' ∨ mark = 'E' then
      let (negative, digits) := splitSign rest
      if digits.isEmpty ∨ !digits.all Char.isDigit then none
      else
        let size : Int := exponentSize digits
        some (if negative then -size else size)
    else none

def nearestFloat (digits : Nat) (exponent : Int) : Float :=
  if digits = 0 then 0.0
  else Float.ofScientific digits (exponent < 0) exponent.natAbs

def readMagnitude? (text : List Char) : Option Float :=
  let name := String.ofList (text.map Char.toLower)
  if name = "inf" ∨ name = "infinity" then some (1.0 / 0.0)
  else if name = "nan" then some (0.0 / 0.0)
  else
    let (whole, afterWhole) := splitDigits text
    let (fraction, afterFraction) := match afterWhole with
      | '.' :: rest => splitDigits rest
      | rest => ([], rest)
    if whole.isEmpty ∧ fraction.isEmpty then none
    else do
      let exponent ← readExponent? afterFraction
      return nearestFloat (digitsValue (whole ++ fraction)) (exponent - fraction.length)

def readFloat? (text : String) : Option Float := do
  let (negative, rest) := splitSign text.toList
  let size ← readMagnitude? rest
  return if negative then -size else size

end HeatingBus.Decimal
