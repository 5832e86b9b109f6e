import HeatingBus.Proofs.Telegram.Codec
import Mathlib.Data.List.Induction

/-!
# Corrupted frames

The checksum tells a sealed frame from every frame of its length that differs from it in a single
byte or in an odd number of bits. Before a step of the checksum adds the next byte, it rotates the
running value. That rotation can be undone, so that a difference made by one byte is never lost, and
it keeps the parity of the bits, so that a sealed frame has an even number of set bits.
-/

namespace HeatingBus

/-! ## Differences -/

section
variable {α : Type} [DecidableEq α]

def differences (these those : List α) : Nat :=
  (these.zip those).countP fun (this, that) => this ≠ that

theorem differences_cons (this that : α) (these those : List α) :
    differences (this :: these) (that :: those) =
      differences these those + if this = that then 0 else 1 := by
  rw [differences, List.zip_cons_cons, List.countP_cons, differences]
  by_cases same : this = that <;> simp [same]

theorem eq_of_differences_eq_zero {these those : List α} (sameLength : these.length = those.length)
    (none : differences these those = 0) : these = those := by
  induction these generalizing those with
  | nil => exact (List.length_eq_zero_iff.mp sameLength.symm).symm
  | cons this these inductionHypothesis =>
    cases those with
    | nil => cases sameLength
    | cons that those =>
      rw [differences_cons] at none
      by_cases same : this = that
      · rw [if_pos same] at none
        rw [same, inductionHypothesis (Nat.succ.inj sameLength) none]
      · rw [if_neg same] at none
        cases none

/-- Two lists with a single difference are the same before it and after it. -/
theorem exists_eq_append_of_differences_eq_one {these those : List α}
    (sameLength : these.length = those.length) (one : differences these those = 1) :
    ∃ front this that back, this ≠ that ∧ these = front ++ this :: back ∧
      those = front ++ that :: back := by
  induction these generalizing those with
  | nil => simp [differences] at one
  | cons this these inductionHypothesis =>
    cases those with
    | nil => cases sameLength
    | cons that those =>
      rw [differences_cons] at one
      have restLength := Nat.succ.inj sameLength
      by_cases same : this = that
      · rw [if_pos same] at one
        obtain ⟨front, before, after, back, differ, rfl, rfl⟩ := inductionHypothesis restLength one
        exact ⟨this :: front, before, after, back, differ, rfl, by rw [same]; rfl⟩
      · -- The one difference is here, and none is left for the rest.
        rw [if_neg same] at one
        have rest := eq_of_differences_eq_zero restLength (Nat.succ.inj one)
        exact ⟨[], this, that, these, same, rfl, by rw [rest]; rfl⟩

end

/-! ## Bits and their parity -/

/-- The bits of a byte, the lowest first. -/
def bitsOfByte (byte : UInt8) : List Bool :=
  (List.range 8).map byte.toNat.testBit

def bitsOf (bytes : Bytes) : List Bool :=
  bytes.flatMap bitsOfByte

def parity (bits : List Bool) : Bool :=
  bits.foldr Bool.xor false

theorem parity_append (these those : List Bool) :
    parity (these ++ those) = (parity these ^^ parity those) := by
  induction these with
  | nil => simp [parity]
  | cons this these inductionHypothesis =>
    rw [parity] at inductionHypothesis ⊢
    simp [inductionHypothesis, parity]

theorem parity_map_xor {α : Type} (places : List α) (this that : α → Bool) :
    parity (places.map fun place => this place ^^ that place) =
      (parity (places.map this) ^^ parity (places.map that)) := by
  induction places with
  | nil => rfl
  | cons place places inductionHypothesis =>
    simp only [parity, List.map_cons, List.foldr_cons] at inductionHypothesis ⊢
    rw [inductionHypothesis]
    simp only [Bool.xor_assoc, Bool.xor_left_comm]

theorem parity_bitsOfByte_xor (this that : UInt8) :
    parity (bitsOfByte (this ^^^ that)) =
      (parity (bitsOfByte this) ^^ parity (bitsOfByte that)) := by
  have bitwise : (this ^^^ that).toNat.testBit =
      fun place => this.toNat.testBit place ^^ that.toNat.testBit place := by
    funext place
    rw [UInt8.toNat_xor, Nat.testBit_xor]
  rw [bitsOfByte, bitwise, parity_map_xor, bitsOfByte, bitsOfByte]

theorem parity_bitsOf_concat (bytes : Bytes) (byte : UInt8) :
    parity (bitsOf (bytes ++ [byte])) = (parity (bitsOf bytes) ^^ parity (bitsOfByte byte)) := by
  rw [bitsOf, List.flatMap_append, parity_append, List.flatMap_singleton, bitsOf]

theorem length_bitsOf (bytes : Bytes) : (bitsOf bytes).length = 8 * bytes.length := by
  induction bytes with
  | nil => rfl
  | cons byte bytes inductionHypothesis =>
    rw [bitsOf, List.flatMap_cons, List.length_append, ← bitsOf, inductionHypothesis]
    simp [bitsOfByte]
    omega

/-- Bits that differ in an odd number of places have different parities. -/
theorem odd_differences_iff {these those : List Bool} (sameLength : these.length = those.length) :
    differences these those % 2 = 1 ↔ parity these ≠ parity those := by
  induction these generalizing those with
  | nil =>
    rw [List.length_eq_zero_iff.mp sameLength.symm]
    simp [differences]
  | cons this these inductionHypothesis =>
    cases those with
    | nil => cases sameLength
    | cons that those =>
      have rest := inductionHypothesis (Nat.succ.inj sameLength)
      have step : parity (this :: these) = (this ^^ parity these) := rfl
      have otherStep : parity (that :: those) = (that ^^ parity those) := rfl
      rw [differences_cons, step, otherStep]
      by_cases same : this = that
      · rw [if_pos same, Nat.add_zero, rest, same]
        simp
      · -- One more difference turns both sides around.
        have turned : that = !this := by
          cases this <;> cases that <;> simp_all
        have opposite : (this ^^ parity these) ≠ (!this ^^ parity those) ↔
            ¬ parity these ≠ parity those := by
          cases this <;> simp
        rw [if_neg same, turned, opposite, ← rest]
        omega

/-! ## Steps of the checksum -/

/-- The running value of a checksum right before the next byte is added to it. -/
def rotated (running : UInt8) : UInt8 :=
  checksumStep running 0

/-- The running value before it was rotated. -/
def rotatedBack (running : UInt8) : UInt8 :=
  if running &&& 1 != 0 then ((running ^^^ 0x18) >>> 1) ||| 0x80 else running >>> 1

theorem checksumStep_eq (running byte : UInt8) :
    checksumStep running byte = rotated running ^^^ byte := by
  simp [rotated, checksumStep]

theorem rotatedBack_rotated (running : UInt8) : rotatedBack (rotated running) = running := by
  have all : ∀ bits : BitVec 8, rotatedBack (rotated ⟨bits⟩) = ⟨bits⟩ := by
    decide +kernel
  exact all running.toBitVec

/-- A rotation moves the top bit to the other end and adds it to two of the bits. -/
theorem parity_bitsOfByte_rotated (running : UInt8) :
    parity (bitsOfByte (rotated running)) = parity (bitsOfByte running) := by
  have all : ∀ bits : BitVec 8,
      parity (bitsOfByte (rotated ⟨bits⟩)) = parity (bitsOfByte ⟨bits⟩) := by decide +kernel
  exact all running.toBitVec

/-- Two running values that differ are never brought together by the same next byte. -/
theorem checksumStep_left_inj {this that byte : UInt8} :
    checksumStep this byte = checksumStep that byte ↔ this = that := by
  rw [checksumStep_eq, checksumStep_eq, UInt8.xor_left_inj]
  constructor
  · intro same
    rw [← rotatedBack_rotated this, same, rotatedBack_rotated]
  · intro same
    rw [same]

theorem foldl_checksumStep_inj {this that : UInt8} (bytes : Bytes) :
    bytes.foldl checksumStep this = bytes.foldl checksumStep that ↔ this = that := by
  induction bytes generalizing this that with
  | nil => rfl
  | cons byte bytes inductionHypothesis =>
    rw [List.foldl_cons, List.foldl_cons, inductionHypothesis, checksumStep_left_inj]

/-- One other byte makes another checksum. -/
theorem checksum_append_cons_inj (front back : Bytes) {this that : UInt8} :
    checksum (front ++ this :: back) = checksum (front ++ that :: back) ↔ this = that := by
  rw [checksum, checksum, List.foldl_append, List.foldl_append, List.foldl_cons, List.foldl_cons,
    foldl_checksumStep_inj, checksumStep_eq, checksumStep_eq, UInt8.xor_right_inj]

/-- The checksum has the parity of the bytes that it is of. -/
theorem parity_checksum (bytes : Bytes) :
    parity (bitsOfByte (checksum bytes)) = parity (bitsOf bytes) := by
  induction bytes using List.reverseRecOn with
  | nil => rfl
  | append_singleton bytes byte inductionHypothesis =>
    have step : checksum (bytes ++ [byte]) = checksumStep (checksum bytes) byte := by
      simp [checksum]
    rw [step, checksumStep_eq, parity_bitsOfByte_xor, parity_bitsOfByte_rotated,
      inductionHypothesis, parity_bitsOf_concat]

/-! ## Sealed frames -/

theorem isSealed_concat_iff {front : Bytes} {last : UInt8} :
    IsSealed (front ++ [last]) ↔ last = checksum front := by
  rw [IsSealed, List.getLast?_concat, List.dropLast_concat, Option.some.injEq]

theorem exists_concat_of_isSealed {frame : Bytes} (intact : IsSealed frame) :
    ∃ front, frame = front ++ [checksum front] := by
  obtain ⟨front, same⟩ := List.getLast?_eq_some_iff.mp intact
  have body : frame.dropLast = front := by
    rw [same, List.dropLast_concat]
  rw [body] at same
  exact ⟨front, same⟩

/-- A sealed frame has an even number of set bits. -/
theorem parity_of_isSealed {frame : Bytes} (intact : IsSealed frame) :
    parity (bitsOf frame) = false := by
  obtain ⟨front, rfl⟩ := exists_concat_of_isSealed intact
  rw [parity_bitsOf_concat, parity_checksum, Bool.xor_self]

section
variable {frame other : Bytes}

/-- Two sealed frames never differ in one byte alone. -/
theorem differences_ne_one_of_isSealed (intact : IsSealed frame) (otherIntact : IsSealed other)
    (sameLength : frame.length = other.length) : differences frame other ≠ 1 := by
  intro one
  obtain ⟨front, this, that, back, differ, rfl, rfl⟩ :=
    exists_eq_append_of_differences_eq_one sameLength one
  apply differ
  cases back using List.reverseRecOn with
  | nil =>
    -- The byte that differs is the checksum itself, and both are of the same bytes.
    rw [isSealed_concat_iff] at intact otherIntact
    rw [intact, otherIntact]
  | append_singleton back last =>
    -- The checksums are the same, so the bytes before them cannot differ in one byte.
    rw [← List.cons_append, ← List.append_assoc, isSealed_concat_iff] at intact otherIntact
    exact (checksum_append_cons_inj front back).mp (intact.symm.trans otherIntact)

/-- Two sealed frames differ in an even number of bits. -/
theorem even_differences_of_isSealed (intact : IsSealed frame) (otherIntact : IsSealed other)
    (sameLength : frame.length = other.length) :
    differences (bitsOf frame) (bitsOf other) % 2 ≠ 1 := by
  have sameBits : (bitsOf frame).length = (bitsOf other).length := by
    rw [length_bitsOf, length_bitsOf, sameLength]
  rw [Ne, odd_differences_iff sameBits, parity_of_isSealed intact, parity_of_isSealed otherIntact]
  simp

end

namespace Telegram

/-- A frame that differs from an accepted one of the same length in exactly one byte, or in an odd
number of bits, is refused for its checksum. -/
theorem parse_of_corrupted {frame other : Bytes} {telegram : Telegram}
    (accepted : parse frame = .ok telegram) (sameLength : other.length = frame.length)
    (corrupted : differences frame other = 1 ∨
      differences (bitsOf frame) (bitsOf other) % 2 = 1) :
    parse other =
      .error (.checksumMismatch (HeatingBus.checksum other.dropLast) (other.getLastD 0)) := by
  obtain ⟨⟨least, greatest⟩, intact⟩ := exists_parse_eq_ok_iff.mp ⟨telegram, accepted⟩
  rw [← sameLength] at least greatest
  apply parse_of_not_isSealed least greatest
  intro otherIntact
  rcases corrupted with oneByte | oddBits
  · exact differences_ne_one_of_isSealed intact otherIntact sameLength.symm oneByte
  · exact even_differences_of_isSealed intact otherIntact sameLength.symm oddBits

/-- A request with two bits of its checksum flipped, and one with three bits of two bytes. -/
theorem parse_of_flipped_bits :
    parse [0x0B, 0x88, 0x02, 0x00, 0x20, 0xBC] = .ok (readRequest 0x0B 0x08 0x02) ∧
      parse [0x0B, 0x88, 0x02, 0x00, 0x20, 0xBF] = .error (.checksumMismatch 0xBC 0xBF) ∧
      parse [0x0B, 0x89, 0x02, 0x00, 0x26, 0xBC] = .error (.checksumMismatch 0xB2 0xBC) := by
  have accepted : parse [0x0B, 0x88, 0x02, 0x00, 0x20, 0xBC] =
      .ok (readRequest 0x0B 0x08 0x02) := rfl
  have oneByte : differences ([0x0B, 0x88, 0x02, 0x00, 0x20, 0xBC] : Bytes)
      [0x0B, 0x88, 0x02, 0x00, 0x20, 0xBF] = 1 := by decide
  have oddBits : differences (bitsOf [0x0B, 0x88, 0x02, 0x00, 0x20, 0xBC])
      (bitsOf [0x0B, 0x89, 0x02, 0x00, 0x26, 0xBC]) % 2 = 1 := by decide
  exact ⟨accepted, parse_of_corrupted accepted rfl (.inl oneByte),
    parse_of_corrupted accepted rfl (.inr oddBits)⟩

end Telegram

end HeatingBus
