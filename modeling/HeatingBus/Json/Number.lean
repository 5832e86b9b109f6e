import HeatingBus.Decimal.Reader

/-!
# Numbers of JSON documents

A number literal in its parts, and the two ways to read it. Without a fraction and an exponent it is
an integer if it fits into 64 bits, signed or not; minus zero is no integer. Read as a float it is
the leading digits that fit into 64 bits, scaled once by a power of ten in floating point: the
result may miss the nearest float by its last bit.
-/

namespace HeatingBus.Json

open Decimal

structure NumberLiteral where
  negative : Bool
  whole : List Char
  fraction : Option (List Char)
  exponent : Option Int
  deriving Repr, DecidableEq

/-- One more than the greatest significand that is kept. -/
def significandLimit : Nat := 0x10000000000000000

/-- A significand extended by the digits that still fit, and the digits that are left. -/
def absorbDigits (significand : Nat) : List Char → Nat × List Char
  | [] => (significand, [])
  | digit :: rest =>
    let next := 10 * significand + digitsValue [digit]
    if next < significandLimit then absorbDigits next rest else (significand, digit :: rest)

def greatestPower : Nat := 308

def powerOfTen (exponent : Nat) : Float :=
  Float.ofScientific 1 false exponent

def scaledFloat? (number : Float) (exponent : Int) : Option Float :=
  if number == 0.0 then some number
  else if 0 ≤ exponent then
    if exponent.toNat ≤ greatestPower then
      let product := number * powerOfTen exponent.toNat
      if product.isFinite then some product else none
    else none
  else
    let depth := exponent.natAbs
    if depth ≤ greatestPower then some (number / powerOfTen depth)
    else if depth ≤ 2 * greatestPower then
      some (number / powerOfTen greatestPower / powerOfTen (depth - greatestPower))
    else some 0.0

namespace NumberLiteral

def integer? (literal : NumberLiteral) : Option Int :=
  let size := digitsValue literal.whole
  if literal.fraction.isSome ∨ literal.exponent.isSome then none
  else if literal.negative then
    if 0 < size ∧ size ≤ 0x8000000000000000 then some (-(size : Int)) else none
  else if size < significandLimit then some size
  else none

def float? (literal : NumberLiteral) : Option Float := do
  let (wholeSignificand, skipped) := absorbDigits 0 literal.whole
  let fraction := literal.fraction.getD []
  let (significand, ignored) := absorbDigits wholeSignificand fraction
  let exponent : Int := literal.exponent.getD 0 + skipped.length -
    (fraction.length - ignored.length : Nat)
  let size ← scaledFloat? (UInt64.ofNat significand).toFloat exponent
  return if literal.negative then -size else size

end NumberLiteral

end HeatingBus.Json
