import HeatingBus.Field.Codec
import Mathlib.Algebra.Group.Nat.Defs

/-!
# Numbers and their bytes

The bytes of an integer field hold a number of their own width, without a sign or in two's
complement. Writing a number that fits and reading it back undo each other, and a factor that
divides the value changes nothing about that: no product leaves the 64 bits of a value.
-/

namespace HeatingBus

/-! ## Positional numbers -/

theorem byteValues_pos (count : Nat) : 0 < byteValues count :=
  Nat.pow_pos (by decide)

theorem byteValues_eq_two_pow (count : Nat) : byteValues count = 2 ^ (8 * count) := by
  rw [Nat.pow_mul]
  rfl

theorem byteValues_succ (count : Nat) : byteValues (count + 1) = byteValues count * 256 :=
  rfl

theorem byteValues_le {count : Nat} (short : count ≤ 4) : byteValues count ≤ 0x100000000 :=
  Nat.pow_le_pow_right (by decide) short

theorem foldl_eq_numberOfBytes (start : Nat) (bytes : Bytes) :
    bytes.foldl (fun number byte => 256 * number + byte.toNat) start =
      start * byteValues bytes.length + numberOfBytes bytes := by
  induction bytes generalizing start with
  | nil => simp [numberOfBytes, byteValues]
  | cons byte bytes inductionHypothesis =>
    have first : numberOfBytes (byte :: bytes) =
        byte.toNat * byteValues bytes.length + numberOfBytes bytes := by
      rw [← inductionHypothesis, numberOfBytes, List.foldl_cons, Nat.mul_zero, Nat.zero_add]
    rw [List.foldl_cons, inductionHypothesis, first, List.length_cons, byteValues_succ,
      Nat.add_mul, Nat.mul_comm 256, Nat.mul_assoc, Nat.mul_comm 256, Nat.add_assoc]

theorem numberOfBytes_cons (byte : UInt8) (bytes : Bytes) :
    numberOfBytes (byte :: bytes) =
      byte.toNat * byteValues bytes.length + numberOfBytes bytes := by
  rw [← foldl_eq_numberOfBytes, numberOfBytes, List.foldl_cons, Nat.mul_zero, Nat.zero_add]

theorem numberOfBytes_lt (bytes : Bytes) : numberOfBytes bytes < byteValues bytes.length := by
  induction bytes with
  | nil => decide
  | cons byte bytes inductionHypothesis =>
    have digit : byte.toNat + 1 ≤ 256 := byte.toNat_lt
    have place := Nat.mul_le_mul_right (byteValues bytes.length) digit
    rw [numberOfBytes_cons, List.length_cons, byteValues_succ]
    rw [Nat.add_mul] at place
    omega

/-- All bytes but the first hold less than the first byte counts for. -/
theorem numberOfBytes_cons_div (byte : UInt8) (bytes : Bytes) :
    numberOfBytes (byte :: bytes) / byteValues bytes.length = byte.toNat := by
  rw [numberOfBytes_cons, Nat.mul_comm, Nat.mul_add_div (byteValues_pos _),
    Nat.div_eq_of_lt (numberOfBytes_lt bytes), Nat.add_zero]

theorem length_bytesOfNumber (count number : Nat) :
    (bytesOfNumber count number).length = count := by
  induction count with
  | zero => rfl
  | succ count inductionHypothesis => rw [bytesOfNumber, List.length_cons, inductionHypothesis]

theorem numberOfBytes_bytesOfNumber (count number : Nat) :
    numberOfBytes (bytesOfNumber count number) = number % byteValues count := by
  induction count with
  | zero =>
    have single : byteValues 0 = 1 := rfl
    rw [single, Nat.mod_one]
    rfl
  | succ count inductionHypothesis =>
    rw [bytesOfNumber, numberOfBytes_cons, length_bytesOfNumber, inductionHypothesis,
      UInt8.toNat_ofNat', byteValues_succ, Nat.mod_mul, Nat.mul_comm, Nat.add_comm]

/-- As many bytes hold the same number only if they are the same. -/
theorem eq_of_numberOfBytes_eq {these those : Bytes} (sameLength : these.length = those.length)
    (same : numberOfBytes these = numberOfBytes those) : these = those := by
  induction these generalizing those with
  | nil => exact (List.length_eq_zero_iff.mp sameLength.symm).symm
  | cons this these inductionHypothesis =>
    cases those with
    | nil => cases sameLength
    | cons that those =>
      have restLength := Nat.succ.inj sameLength
      have first : this.toNat = that.toNat := by
        rw [← numberOfBytes_cons_div this these, same, restLength, numberOfBytes_cons_div]
      rw [numberOfBytes_cons, numberOfBytes_cons, restLength, first] at same
      rw [UInt8.toNat_inj.mp first, inductionHypothesis restLength (Nat.add_left_cancel same)]

/-! ## Numbers with and without a sign -/

/-- The number that bytes hold, in two's complement if it has a sign. -/
def integerIn (signed : Bool) (bytes : Bytes) : Int :=
  if signed then signedNumber bytes.length (numberOfBytes bytes) else numberOfBytes bytes

theorem rawFits_integerIn (signed : Bool) (bytes : Bytes) :
    Field.RawFits signed bytes.length (integerIn signed bytes) := by
  have bound := numberOfBytes_lt bytes
  cases signed with
  | false =>
    simp only [Field.RawFits, integerIn, Bool.false_eq_true, if_false]
    omega
  | true =>
    simp only [Field.RawFits, integerIn, signedNumber, if_true]
    split <;> omega

theorem toNat_integerIn_emod (signed : Bool) (bytes : Bytes) :
    (integerIn signed bytes % byteValues bytes.length).toNat = numberOfBytes bytes := by
  have bound := numberOfBytes_lt bytes
  -- A sign takes away as many values as the bytes have, which the remainder does not see.
  have remainder : integerIn signed bytes % byteValues bytes.length =
      (numberOfBytes bytes : Int) % byteValues bytes.length := by
    cases signed with
    | false => rfl
    | true =>
      simp only [integerIn, signedNumber, if_true]
      split
      · rw [Int.sub_emod_right]
      · rfl
  rw [remainder, Int.emod_eq_of_lt (by omega) (by omega), Int.toNat_natCast]

theorem integerIn_of_rawFits {signed : Bool} {raw : Int} {bytes : Bytes}
    (fits : Field.RawFits signed bytes.length raw)
    (held : numberOfBytes bytes = (raw % byteValues bytes.length).toNat) :
    integerIn signed bytes = raw := by
  have positive := byteValues_pos bytes.length
  cases signed with
  | false =>
    simp only [Field.RawFits, Bool.false_eq_true, if_false] at fits
    rw [Int.emod_eq_of_lt fits.1 fits.2] at held
    simp only [integerIn, Bool.false_eq_true, if_false]
    omega
  | true =>
    simp only [Field.RawFits, if_true] at fits
    simp only [integerIn, signedNumber, if_true]
    by_cases negative : raw < 0
    · -- The bytes hold a negative number in their upper half, with all their values added to it.
      rw [← Int.add_emod_right, Int.emod_eq_of_lt (by omega) (by omega)] at held
      rw [if_pos (by omega)]
      omega
    · rw [Int.emod_eq_of_lt (by omega) (by omega)] at held
      rw [if_neg (by omega)]
      omega

/-- Bytes are those of a number that fits exactly if they hold that number. -/
theorem bytesOfNumber_eq_iff {signed : Bool} {count : Nat} {raw : Int} {bytes : Bytes} :
    Field.RawFits signed count raw ∧ bytesOfNumber count (raw % byteValues count).toNat = bytes ↔
      bytes.length = count ∧ integerIn signed bytes = raw := by
  constructor
  · rintro ⟨fits, rfl⟩
    have length := length_bytesOfNumber count (raw % byteValues count).toNat
    have positive := byteValues_pos count
    have small : (raw % byteValues count).toNat < byteValues count := by
      have bound := Int.emod_lt_of_pos raw (Int.natCast_pos.mpr positive)
      omega
    refine ⟨length, integerIn_of_rawFits (by rw [length]; exact fits) ?_⟩
    rw [numberOfBytes_bytesOfNumber, length, Nat.mod_eq_of_lt small]
  · rintro ⟨rfl, rfl⟩
    refine ⟨rawFits_integerIn signed bytes, ?_⟩
    rw [toNat_integerIn_emod]
    apply eq_of_numberOfBytes_eq (length_bytesOfNumber _ _)
    rw [numberOfBytes_bytesOfNumber, Nat.mod_eq_of_lt (numberOfBytes_lt bytes)]

/-! ## Values of 64 bits -/

theorem ofInt_eq_iff {number : Int} {value : Int64} (small : number.natAbs < 0x8000000000000000) :
    Int64.ofInt number = value ↔ number = value.toInt := by
  rw [← Int64.toInt_inj, Int64.toInt_ofInt_of_le (by omega) (by omega)]

theorem natAbs_integerIn_le {signed : Bool} {bytes : Bytes} (short : bytes.length ≤ 4) :
    (integerIn signed bytes).natAbs ≤ 0x100000000 := by
  have fits := rawFits_integerIn signed bytes
  have bound := byteValues_le short
  cases signed with
  | false =>
    simp only [Field.RawFits, Bool.false_eq_true, if_false] at fits
    omega
  | true =>
    simp only [Field.RawFits, if_true] at fits
    omega

/-- A number of four bytes times a factor of two bytes is a value of 64 bits. -/
theorem natAbs_integerIn_mul_lt {signed : Bool} {bytes : Bytes} (short : bytes.length ≤ 4)
    (factor : UInt16) :
    (integerIn signed bytes * factor.toNat).natAbs < 0x8000000000000000 := by
  have number : (integerIn signed bytes).natAbs ≤ 0x100000000 := natAbs_integerIn_le short
  have product := Nat.mul_le_mul number (Nat.le_of_lt factor.toNat_lt)
  rw [Int.natAbs_mul, Int.natAbs_natCast]
  omega

/-! ## Integer fields -/

namespace Field

variable {signed : Bool} {length : Nat} {number : Int64} {bytes : Bytes} {factor : UInt16}

theorem integerOfBytes_multiply (factor : UInt16) (signed : Bool) (bytes : Bytes) :
    integerOfBytes (some (.multiply factor)) signed bytes =
      .integer (Int64.ofInt (integerIn signed bytes * factor.toNat)) := by
  rw [Int64.ofInt_mul]
  rfl

theorem bytesOfInteger_eq_ok_iff {scale : Option Scale} {value : Value} {raw : Int64}
    (isRaw : rawInteger scale length value = .ok raw) :
    bytesOfInteger scale signed length value = .ok bytes ↔
      bytes.length = length ∧ integerIn signed bytes = raw.toInt := by
  rw [← bytesOfNumber_eq_iff]
  simp only [bytesOfInteger, isRaw, bind, Except.bind]
  split
  · rename_i fits
    simp [fits, pure, Except.pure]
  · rename_i beyond
    simp [beyond, throw, throwThe, MonadExceptOf.throw]

theorem bytesOfInteger_none_eq_ok_iff (short : length ≤ 4) :
    bytesOfInteger none signed length (.integer number) = .ok bytes ↔
      bytes.length = length ∧ integerOfBytes none signed bytes = .integer number := by
  rw [bytesOfInteger_eq_ok_iff rfl]
  refine and_congr_right fun sameLength => ?_
  have bound : (integerIn signed bytes).natAbs ≤ 0x100000000 :=
    natAbs_integerIn_le (by omega)
  have read : integerOfBytes none signed bytes = .integer (Int64.ofInt (integerIn signed bytes)) :=
    rfl
  rw [read, Value.integer.injEq, ofInt_eq_iff (by omega)]

/-- The quotient of a value of 64 bits has 64 bits. -/
theorem toInt_ofInt_tdiv (number : Int64) (factor : UInt16) :
    (Int64.ofInt (number.toInt.tdiv factor.toNat)).toInt = number.toInt.tdiv factor.toNat := by
  have least := number.le_toInt
  have greatest := number.toInt_lt
  by_cases negative : number.toInt < 0
  · -- The quotient of a negative number is the negative quotient of its size.
    have size : 0 ≤ -number.toInt := by omega
    have nonneg : 0 ≤ (-number.toInt).tdiv factor.toNat :=
      Int.tdiv_nonneg size (Int.natCast_nonneg _)
    have smaller := Int.tdiv_le_self (factor.toNat : Int) size
    rw [Int.neg_tdiv] at nonneg smaller
    exact Int64.toInt_ofInt_of_le (by omega) (by omega)
  · have size : 0 ≤ number.toInt := by omega
    have nonneg : 0 ≤ number.toInt.tdiv factor.toNat := Int.tdiv_nonneg size (Int.natCast_nonneg _)
    have smaller := Int.tdiv_le_self (factor.toNat : Int) size
    exact Int64.toInt_ofInt_of_le (by omega) (by omega)

theorem rawInteger_of_dvd (divides : (factor.toNat : Int) ∣ number.toInt) :
    rawInteger (some (.multiply factor)) length (.integer number) =
      .ok (Int64.ofInt (number.toInt.tdiv factor.toNat)) := by
  rw [rawInteger, if_pos (Int.dvd_iff_tmod_eq_zero.mp divides)]

theorem bytesOfInteger_multiply_eq_ok_iff (short : length ≤ 4) (positive : factor ≠ 0) :
    (factor.toNat : Int) ∣ number.toInt ∧
        bytesOfInteger (some (.multiply factor)) signed length (.integer number) = .ok bytes ↔
      bytes.length = length ∧
        integerOfBytes (some (.multiply factor)) signed bytes = .integer number := by
  have notZero : (factor.toNat : Int) ≠ 0 := by
    rw [Ne, Int.natCast_eq_zero]
    exact fun zero => positive (UInt16.toNat_inj.mp zero)
  have reads (sameLength : bytes.length = length) :
      integerOfBytes (some (.multiply factor)) signed bytes = .integer number ↔
        integerIn signed bytes * factor.toNat = number.toInt := by
    rw [integerOfBytes_multiply, Value.integer.injEq,
      ofInt_eq_iff (natAbs_integerIn_mul_lt (by omega) factor)]
  constructor
  · rintro ⟨divides, written⟩
    rw [bytesOfInteger_eq_ok_iff (rawInteger_of_dvd divides), toInt_ofInt_tdiv] at written
    obtain ⟨sameLength, held⟩ := written
    refine ⟨sameLength, (reads sameLength).mpr ?_⟩
    rw [held, Int.tdiv_mul_cancel divides]
  · rintro ⟨sameLength, read⟩
    rw [reads sameLength] at read
    have divides : (factor.toNat : Int) ∣ number.toInt := by
      rw [← read]
      exact Int.dvd_mul_left _ _
    refine ⟨divides, (bytesOfInteger_eq_ok_iff (rawInteger_of_dvd divides)).mpr ⟨sameLength, ?_⟩⟩
    rw [toInt_ofInt_tdiv, ← read, Int.mul_tdiv_cancel _ notZero]

end Field

end HeatingBus
