/-!
# What a float stands for

A double precision number taken apart: a sign, a mantissa and a power of two, read off its bits. All
that is said about the decimal text or the nearest integer of a float is computed from these parts
in exact integer arithmetic.
-/

namespace HeatingBus.Decimal

inductive FloatValue where
  | notANumber
  | infinite (negative : Bool)
  /-- The number `mantissa * 2 ^ exponent`, with a sign. -/
  | finite (negative : Bool) (mantissa : Nat) (exponent : Int)
  deriving Repr, DecidableEq

def smallestExponent : Int := -1074

/-- The mantissa at which the gap to the next float below is half as wide as the one above. -/
def leadingMantissa : Nat := 0x10000000000000

def FloatValue.ofFloat (number : Float) : FloatValue :=
  let bits := number.toBits.toNat
  let negative := bits >>> 63 == 1
  let biased : Nat := bits / leadingMantissa % 2048
  let fraction : Nat := bits % leadingMantissa
  if biased = 2047 then
    if fraction = 0 then .infinite negative else .notANumber
  else if biased = 0 then .finite negative fraction smallestExponent
  else .finite negative (leadingMantissa + fraction) ((biased : Int) - 1075)

/-- The integer nearest to `mantissa * 2 ^ exponent`, a half going up. -/
def nearestNat (mantissa : Nat) (exponent : Int) : Nat :=
  let divisor := Nat.pow 2 (-exponent).toNat
  (2 * mantissa * Nat.pow 2 exponent.toNat + divisor) / (2 * divisor)

/-- The integer nearest to a float, a half going away from zero; nothing for what is not finite. -/
def nearestInteger? (number : Float) : Option Int :=
  match FloatValue.ofFloat number with
  | .finite negative mantissa exponent =>
    let size : Int := nearestNat mantissa exponent
    some (if negative then -size else size)
  | _ => none

end HeatingBus.Decimal
