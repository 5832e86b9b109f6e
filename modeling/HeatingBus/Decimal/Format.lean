import HeatingBus.Decimal.Shortest

/-!
# Decimal text of a float

How the digits of a float are laid out: in positional notation or with an exponent, with or without
a fraction that is zero. The decisions of one format are a `NumberFormat`; there are two, one for
people and one for JSON documents.
-/

namespace HeatingBus.Decimal

structure NumberFormat where
  /-- Which of two equally near decimals is written. -/
  tie : Tie
  /-- What follows the digits of a whole number. -/
  wholeSuffix : String
  /-- Whether a number whose leading digit stands at this power of ten is written positionally. -/
  positional : Int → Bool
  notANumber : String
  /-- The text of infinity without its sign. -/
  infinity : Bool → String

/-- Values shown to people: never an exponent, and no fraction for a whole number. -/
def NumberFormat.display : NumberFormat where
  tie := .up
  wholeSuffix := ""
  positional _ := true
  notANumber := "NaN"
  infinity negative := if negative then "-inf" else "inf"

/-- Values in JSON documents: a whole number keeps `.0`, an exponent stands from `1e+16` on and
below `1e-5`, and what is not finite has no number. -/
def NumberFormat.json : NumberFormat where
  tie := .toEven
  wholeSuffix := ".0"
  positional leading := -5 ≤ leading && leading ≤ 15
  notANumber := "null"
  infinity _ := "null"

def positionalText (wholeSuffix : String) (digits : List Char) (exponent : Int) : String :=
  let leading : Int := digits.length - 1 + exponent
  if 0 ≤ exponent then
    String.ofList (digits ++ List.replicate exponent.toNat '0') ++ wholeSuffix
  else if 0 ≤ leading then
    let whole := leading.toNat + 1
    String.ofList (digits.take whole ++ '.' :: digits.drop whole)
  else String.ofList ("0.".toList ++ List.replicate (-leading - 1).toNat '0' ++ digits)

def exponentText (digits : List Char) (exponent : Int) : String :=
  let leading : Int := digits.length - 1 + exponent
  let fraction := if digits.length ≤ 1 then [] else '.' :: digits.drop 1
  let sign := if leading < 0 then '-' else '+'
  String.ofList (digits.take 1 ++ fraction ++ ['e', sign] ++ Nat.toDigits 10 leading.natAbs)

def NumberFormat.magnitude (format : NumberFormat) (mantissa : Nat) (exponent : Int) : String :=
  if mantissa = 0 then "0" ++ format.wholeSuffix
  else
    let number := shortest format.tie mantissa exponent
    let digits := Nat.toDigits 10 number.digits
    if format.positional (digits.length - 1 + number.exponent) then
      positionalText format.wholeSuffix digits number.exponent
    else exponentText digits number.exponent

def NumberFormat.render (format : NumberFormat) (number : Float) : String :=
  match FloatValue.ofFloat number with
  | .notANumber => format.notANumber
  | .infinite negative => format.infinity negative
  | .finite negative mantissa exponent =>
    (if negative then "-" else "") ++ format.magnitude mantissa exponent

def text (number : Float) : String :=
  NumberFormat.display.render number

end HeatingBus.Decimal
