import HeatingBus.Decimal.Reader
import HeatingBus.Text.Blank
import HeatingBus.Text.Hex
import Mathlib.Algebra.Group.Nat.Defs

/-!
# Digits of a number

A number is written in its decimal digits, with zeros before them or without. The digits are read as
the number again, and the run of them ends where the digits end, unless a digit follows.
-/

namespace HeatingBus

open Text

namespace Decimal

variable {digits rest : List Char} {width number : Nat}

/-! ## Runs of digits -/

def AreDigits (text : List Char) : Prop :=
  ∀ c ∈ text, c.isDigit = true

def StartsNoDigit (text : List Char) : Prop :=
  ∀ c ∈ text.head?, c.isDigit = false

theorem startsNoDigit_nil : StartsNoDigit [] := nofun

theorem startsNoDigit_cons {c : Char} (other : c.isDigit = false) : StartsNoDigit (c :: rest) := by
  intro first starts
  cases starts
  exact other

theorem splitDigits_append_of_startsNoDigit (all : AreDigits digits) (ends : StartsNoDigit rest) :
    splitDigits (digits ++ rest) = (digits, rest) := by
  rw [splitDigits, List.takeWhile_append_of_pos all, List.dropWhile_append_of_pos all]
  cases rest with
  | nil => simp
  | cons c rest =>
    have other := ends c rfl
    simp [other]

theorem not_isBlank_of_isDigit {c : Char} (digit : c.isDigit = true) : isBlank c = false := by
  have codes : 48 ≤ c.toNat ∧ c.toNat ≤ 57 := Char.isDigit_iff_toNat.mp digit
  rw [isBlank]
  grind

/-- Blanks are dropped up to the first digit. -/
theorem dropBlanks_append (all : AreDigits digits) (nonempty : digits ≠ []) :
    dropBlanks (digits ++ rest) = digits ++ rest := by
  obtain ⟨c, others, rfl⟩ := List.exists_cons_of_ne_nil nonempty
  have first := not_isBlank_of_isDigit (all c List.mem_cons_self)
  simp [dropBlanks, first]

/-! ## Digits of a number -/

theorem areDigits_toDigits (number : Nat) : AreDigits (Nat.toDigits 10 number) :=
  fun _ member => Nat.isDigit_of_mem_toDigits (by decide) (by decide) member

theorem exists_cons_toDigits (number : Nat) :
    ∃ c others, Nat.toDigits 10 number = c :: others ∧ c.isDigit = true := by
  obtain ⟨c, others, digits⟩ :=
    List.exists_cons_of_ne_nil (Nat.toDigits_ne_nil : Nat.toDigits 10 number ≠ [])
  exact ⟨c, others, digits, areDigits_toDigits number c (by simp [digits])⟩

theorem ne_of_isDigit {c : Char} (digit : c.isDigit = true) (mark : Char)
    (other : mark.isDigit = false) : c ≠ mark := by
  rintro rfl
  simp [digit] at other

theorem digitsValue_toDigits (number : Nat) : digitsValue (Nat.toDigits 10 number) = number :=
  Nat.ofDigitChars_ten_toDigits

/-- Only zero starts with a zero. -/
theorem head?_toDigits_ne (positive : 0 < number) :
    (Nat.toDigits 10 number).head? ≠ some '0' := by
  induction number using Nat.strongRecOn with
  | ind number inductionHypothesis =>
    rw [Nat.toDigits_eq_if (by decide)]
    split
    · simp only [List.head?_cons, ne_eq, Option.some.injEq, Nat.digitChar_eq_zero]
      omega
    · have shorter := inductionHypothesis (number / 10) (by omega) (by omega)
      obtain ⟨c, others, digits, _⟩ := exists_cons_toDigits (number / 10)
      rw [digits] at shorter ⊢
      exact shorter

/-! ## Digits behind zeros -/

theorem toList_zeroPadded (width number : Nat) :
    (zeroPadded width number).toList =
      List.replicate (width - (Nat.toDigits 10 number).length) '0' ++ Nat.toDigits 10 number := by
  rw [zeroPadded, String.toList_ofList]

theorem areDigits_zeroPadded (width number : Nat) :
    AreDigits (zeroPadded width number).toList := by
  intro c member
  rw [toList_zeroPadded, List.mem_append, List.mem_replicate] at member
  rcases member with ⟨_, rfl⟩ | member
  · rfl
  · exact areDigits_toDigits number c member

theorem zeroPadded_ne_nil (width number : Nat) : (zeroPadded width number).toList ≠ [] := by
  rw [toList_zeroPadded]
  exact List.append_ne_nil_of_right_ne_nil _ Nat.toDigits_ne_nil

theorem length_zeroPadded (positive : 0 < width) (fits : number < 10 ^ width) :
    (zeroPadded width number).toList.length = width := by
  have short := (Nat.length_toDigits_le_iff (by decide) positive).mpr fits
  rw [toList_zeroPadded, List.length_append, List.length_replicate]
  omega

theorem digitsValue_zeroPadded (width number : Nat) :
    digitsValue (zeroPadded width number).toList = number := by
  show Nat.ofDigitChars 10 _ 0 = number
  rw [toList_zeroPadded, Nat.ofDigitChars_append, Nat.ofDigitChars_replicate_zero, Nat.mul_zero]
  exact digitsValue_toDigits number

end Decimal

end HeatingBus
