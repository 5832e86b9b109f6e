import HeatingBus.Decimal.Binary

/-!
# The shortest decimal of a float

The decimal with the fewest digits that still reads back as the same float, and of those the nearest
one. A float owns the interval of numbers that round to it; on the grid of the multiples of a power
of ten the only candidates are the two neighbours of the float, and the coarsest grid on which one
of them falls into the interval gives the answer.
-/

namespace HeatingBus.Decimal

structure DecimalNumber where
  digits : Nat
  exponent : Int
  deriving Repr, DecidableEq

inductive Tie where
  | up
  | toEven
  deriving Repr, DecidableEq

/-- The multiples of a power of ten around a positive float, all brought to one denominator. -/
structure Grid where
  /-- The lower end of the interval that the float owns. -/
  lower : Nat
  /-- The float itself. -/
  value : Nat
  /-- The upper end of the interval that the float owns. -/
  upper : Nat
  /-- The distance between two multiples. -/
  step : Nat
  /-- Whether the ends belong to the interval. -/
  closed : Bool

def Grid.around (mantissa : Nat) (exponent scale : Int) : Grid :=
  let factor := Nat.pow 2 (exponent - 2).toNat * Nat.pow 10 (-scale).toNat
  let gapBelow := if mantissa = leadingMantissa ∧ exponent > smallestExponent then 1 else 2
  { lower := (4 * mantissa - gapBelow) * factor
    value := 4 * mantissa * factor
    upper := (4 * mantissa + 2) * factor
    step := Nat.pow 2 (2 - exponent).toNat * Nat.pow 10 scale.toNat
    closed := mantissa % 2 == 0 }

def Grid.holds (grid : Grid) (multiple : Nat) : Bool :=
  let point := multiple * grid.step
  if grid.closed then grid.lower ≤ point && point ≤ grid.upper
  else grid.lower < point && point < grid.upper

/-- The multiple that stands for the float, if one of its two neighbours does. -/
def Grid.choice? (grid : Grid) (tie : Tie) : Option Nat :=
  let below := grid.value / grid.step
  match grid.holds below, grid.holds (below + 1) with
  | true, true =>
    let twice := 2 * grid.value
    let middle := (2 * below + 1) * grid.step
    if twice < middle then some below
    else if middle < twice then some (below + 1)
    else match tie with
      | .up => some (below + 1)
      | .toEven => some (if below % 2 = 0 then below else below + 1)
  | true, false => some below
  | false, true => some (below + 1)
  | false, false => none

def searchStart (mantissa : Nat) (exponent : Int) : Int :=
  (((4 * mantissa + 2).log2 : Int) + exponent - 1) * 30103 / 100000 + 1

/-- The float in full, for the case that no grid within reach has a candidate. -/
def exactDecimal (mantissa : Nat) (exponent : Int) : DecimalNumber :=
  if exponent < 0 then ⟨mantissa * Nat.pow 5 (-exponent).toNat, exponent⟩
  else ⟨mantissa * Nat.pow 2 exponent.toNat, 0⟩

/-- The first candidate on the grids from `10 ^ scale` downwards, at most `grids` of them. -/
def searchGrids (tie : Tie) (mantissa : Nat) (exponent : Int) : Nat → Int → DecimalNumber
  | 0, _ => exactDecimal mantissa exponent
  | grids + 1, scale =>
    match (Grid.around mantissa exponent scale).choice? tie with
    | some digits => ⟨digits, scale⟩
    | none => searchGrids tie mantissa exponent grids (scale - 1)

def shortest (tie : Tie) (mantissa : Nat) (exponent : Int) : DecimalNumber :=
  -- Seventeen digits always suffice, and the search starts at most three grids too high.
  searchGrids tie mantissa exponent 20 (searchStart mantissa exponent)

end HeatingBus.Decimal
