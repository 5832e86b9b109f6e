import HeatingBus.Field.Codec
import HeatingBus.Proofs.OnlineBitmap.Membership

/-!
# Bits of a byte

What a boolean field makes of the byte that it is a bit of: the bit is set or cleared, and all other
bits stay as they are.
-/

namespace HeatingBus

/-! ## Bytes from their bits -/

theorem eq_of_testBit {byte other : UInt8}
    (same : ∀ bit < 8, byte.toNat.testBit bit = other.toNat.testBit bit) : byte = other := by
  apply UInt8.toNat_inj.mp
  apply Nat.eq_of_testBit_eq
  intro bit
  by_cases inside : bit < 8
  · exact same bit inside
  · -- A byte has no bits from the eighth on.
    have small : 2 ^ 8 ≤ 2 ^ bit := Nat.pow_le_pow_right (by decide) (Nat.not_lt.mp inside)
    rw [Nat.testBit_lt_two_pow (Nat.lt_of_lt_of_le byte.toNat_lt small),
      Nat.testBit_lt_two_pow (Nat.lt_of_lt_of_le other.toNat_lt small)]

theorem byte?_eq_of_testBit {byte other : Option UInt8}
    (same : ∀ bit < 8, byte.map (·.toNat.testBit bit) = other.map (·.toNat.testBit bit)) :
    byte = other := by
  cases byte with
  | none =>
    cases other with
    | none => rfl
    | some other => cases same 0 (by decide)
  | some byte =>
    cases other with
    | none => cases same 0 (by decide)
    | some other => rw [eq_of_testBit fun bit inside => Option.some.inj (same bit inside)]

/-! ## Bits of a field -/

namespace Field

variable {byte bit : UInt8} {place : Nat}

theorem bitMask_eq_mask (bit : UInt8) : bitMask bit = OnlineBitmap.mask bit.toNat := by
  rw [bitMask, OnlineBitmap.mask, UInt8.ofNat_toNat]

theorem testBit_bitMask (bound : bit ≤ 7) :
    (bitMask bit).toNat.testBit place = decide (bit.toNat = place) := by
  have small : bit.toNat < 8 := Nat.lt_succ_of_le (UInt8.le_iff_toNat_le.mp bound)
  rw [bitMask_eq_mask, OnlineBitmap.toNat_mask small, Nat.testBit_two_pow]

theorem testBit_complement (inside : place < 8) :
    (~~~byte).toNat.testBit place = !byte.toNat.testBit place := by
  have bits : (~~~byte).toBitVec.getLsbD place = !byte.toBitVec.getLsbD place := by
    rw [UInt8.toBitVec_not, BitVec.getLsbD_not]
    simp [inside]
  simpa only [UInt8.toNat, BitVec.testBit_toNat] using bits

/-- The mask of a bit tells two bytes apart exactly if the bit does. -/
theorem and_bitMask_eq_iff {other : UInt8} (bound : bit ≤ 7) :
    byte &&& bitMask bit = other &&& bitMask bit ↔
      byte.toNat.testBit bit.toNat = other.toNat.testBit bit.toNat := by
  constructor
  · intro same
    have bits := congrArg (·.toNat.testBit bit.toNat) same
    simpa [UInt8.toNat_and, Nat.testBit_and, testBit_bitMask bound] using bits
  · intro same
    apply UInt8.toNat_inj.mp
    apply Nat.eq_of_testBit_eq
    intro place
    rw [UInt8.toNat_and, UInt8.toNat_and, Nat.testBit_and, Nat.testBit_and, testBit_bitMask bound]
    by_cases own : bit.toNat = place
    · rw [← own, same]
    · simp [own]

/-- A boolean field has its bit, and no other one. -/
theorem testBit_applyBit {field : Field} (boolean : field.kind = .boolean bit) (bound : bit ≤ 7)
    (on : Bool) (inside : place < 8) :
    (field.applyBit byte on).toNat.testBit place =
      if place = bit.toNat then on else byte.toNat.testBit place := by
  rw [applyBit, boolean]
  cases on with
  | true =>
    simp only [if_true, UInt8.toNat_or, Nat.testBit_or, testBit_bitMask bound]
    by_cases own : place = bit.toNat
    · simp [own]
    · simp [own, Ne.symm own]
  | false =>
    simp only [Bool.false_eq_true, if_false, UInt8.toNat_and, Nat.testBit_and,
      testBit_complement inside, testBit_bitMask bound]
    by_cases own : place = bit.toNat
    · simp [own]
    · simp [own, Ne.symm own]

end Field

end HeatingBus
