/-!
# Machine words

Lengths and places are counted in machine words. A program that adds two words whose sum is none
stops right there.
-/

namespace HeatingBus

/-- The least number that is no word. -/
def wordLimit : Nat := 0x10000000000000000

def wordSum? (one other : Nat) : Option Nat :=
  if one + other < wordLimit then some (one + other) else none

theorem wordSum?_eq_some {one other : Nat} (fits : one + other < wordLimit) :
    wordSum? one other = some (one + other) :=
  if_pos fits

theorem wordSum?_eq_none_iff {one other : Nat} :
    wordSum? one other = none ↔ wordLimit ≤ one + other := by
  simp [wordSum?]

end HeatingBus
