import HeatingBus.Calendar.Reader
import HeatingBus.Proofs.Decimal.Digits
import HeatingBus.Proofs.Field.Dates
import Mathlib.Data.List.TakeWhile

/-!
# Dates and timestamps are read as they were written

A number of a fixed width is read up to that width, whatever follows it. A year of another width has
a sign before it and is read up to the separator. A second numbered 60 is what a leap second is
written as, and the digits of a fraction are scaled back to nanoseconds.
-/

namespace HeatingBus.Calendar

open Text Decimal

variable {rest : List Char} {width number : Nat}

/-! ## Numbers and separators -/

theorem readNumber?_zeroPadded (positive : 0 < width) (fits : number < 10 ^ width) :
    readNumber? width ((zeroPadded width number).toList ++ rest) = some (number, rest) := by
  have digits := areDigits_zeroPadded width number
  have size := length_zeroPadded positive fits
  have nonempty := zeroPadded_ne_nil width number
  simp only [readNumber?, dropBlanks_append digits nonempty, List.take_left' size,
    List.takeWhile_eq_self_iff.mpr digits, List.drop_left, digitsValue_zeroPadded]
  simp [nonempty]

theorem readSeparator?_cons {separator : Char} (shown : isBlank separator = false) :
    readSeparator? separator (separator :: rest) = some rest := by
  simp [readSeparator?, dropBlanks, shown]

/-! ## Dates -/

/-- Without a sign before it, a year is a number of four digits. -/
theorem readYear?_digits {digits : List Char} (all : AreDigits digits) (nonempty : digits ≠ []) :
    readYear? (digits ++ rest) =
      (readNumber? 4 (digits ++ rest)).map fun (size, remaining) => ((size : Int), remaining) := by
  rw [readYear?, dropBlanks_append all nonempty]
  obtain ⟨c, others, rfl⟩ := List.exists_cons_of_ne_nil nonempty
  have digit := all c List.mem_cons_self
  simp [ne_of_isDigit digit '-' rfl, ne_of_isDigit digit '+' rfl]

/-- Behind a sign all digits are read, however many there are. -/
theorem readYear?_sign {negative : Prop} [Decidable negative] {digits : List Char}
    (all : AreDigits digits) (nonempty : digits ≠ []) (ends : StartsNoDigit rest) :
    readYear? ((if negative then "-" else "+").toList ++ (digits ++ rest)) =
      some (if negative then -(digitsValue digits : Int) else digitsValue digits, rest) := by
  have minus : dropBlanks ('-' :: (digits ++ rest)) = '-' :: (digits ++ rest) := rfl
  have plus : dropBlanks ('+' :: (digits ++ rest)) = '+' :: (digits ++ rest) := rfl
  have read := splitDigits_append_of_startsNoDigit all ends
  split
  · simp [readYear?, minus, read, nonempty]
  · simp [readYear?, plus, read, nonempty]

/-- A year is read up to the first character that is no digit. -/
theorem readYear?_yearText (year : Int) (ends : StartsNoDigit rest) :
    readYear? ((yearText year).toList ++ rest) = some (year, rest) := by
  unfold yearText
  split
  · rename_i short
    have fits : year.toNat < 10 ^ 4 := by omega
    rw [readYear?_digits (areDigits_zeroPadded 4 _) (zeroPadded_ne_nil 4 _),
      readNumber?_zeroPadded (by decide) fits]
    simp only [Option.map_some, Int.toNat_of_nonneg short.1]
  -- The column of four digits is no bound for a year of another width, because it has a sign.
  · have signed : (if year < 0 then -(year.natAbs : Int) else year.natAbs) = year := by
      split <;> omega
    rw [String.toList_append, List.append_assoc,
      readYear?_sign (areDigits_zeroPadded 4 _) (zeroPadded_ne_nil 4 _) ends,
      digitsValue_zeroPadded, signed]

/-- A date is read from its text, whatever follows it. -/
theorem readDateParts?_text (date : Date) (rest : List Char) :
    readDateParts? (date.text.toList ++ rest) = some (date, rest) := by
  have month : date.month < 100 := Nat.lt_of_le_of_lt date.month_le (by decide)
  have day : date.day < 100 := Nat.lt_of_le_of_lt date.day_le (by decide)
  have dash : isBlank '-' = false := by decide
  have ends (text : List Char) : StartsNoDigit ('-' :: text) := startsNoDigit_cons (by decide)
  simp [Date.text, readDateParts?, readYear?_yearText _ (ends _), readSeparator?_cons dash,
    readNumber?_zeroPadded, month, day, date.ofYmd?_parts]

/-- A date is read from its text. -/
theorem readDate?_text (date : Date) : readDate? date.text = some date := by
  have read := readDateParts?_text date []
  rw [List.append_nil] at read
  rw [readDate?, read]
  rfl

/-! ## Fractions of a second -/

/-- A fraction counts as many nanoseconds as its last digit stands for. -/
theorem readFraction?_zeroPadded {fraction : Nat} (positive : 0 < width) (counted : width ≤ 9)
    (fits : fraction < 10 ^ width) :
    readFraction? ("." ++ zeroPadded width fraction).toList =
      some (fraction * 10 ^ (9 - width), []) := by
  have split := splitDigits_append_of_startsNoDigit (areDigits_zeroPadded width fraction)
    startsNoDigit_nil
  have size := length_zeroPadded positive fits
  have nonempty := zeroPadded_ne_nil width fraction
  rw [List.append_nil] at split
  simp [readFraction?, split, nonempty, List.take_of_length_le, size, counted,
    digitsValue_zeroPadded]

/-- The nanoseconds past the second are read from the text of the fraction. -/
theorem readFraction?_fractionText (time : TimeOfDay) :
    readFraction? time.fractionText.toList = some (time.nanosecond % nanosPerSecond, []) := by
  have below : time.nanosecond % nanosPerSecond < nanosPerSecond := Nat.mod_lt _ (by decide)
  simp only [TimeOfDay.fractionText]
  generalize time.nanosecond % nanosPerSecond = fraction at *
  unfold nanosPerSecond at below
  split
  · rename_i whole
    simp [readFraction?, whole]
  split
  · rename_i millis
    have fits : fraction / 1000000 < 10 ^ 3 := by omega
    rw [readFraction?_zeroPadded (by decide) (by decide) fits]
    simp
    omega
  split
  · rename_i micros
    have fits : fraction / 1000 < 10 ^ 6 := by omega
    rw [readFraction?_zeroPadded (by decide) (by decide) fits]
    simp
    omega
  · have fits : fraction < 10 ^ 9 := below
    rw [readFraction?_zeroPadded (by decide) (by decide) fits]
    simp

/-! ## Timestamps -/

theorem TimeOfDay.shownSecond_le (time : TimeOfDay) : time.shownSecond ≤ 60 := by
  obtain ⟨_, _, second, fraction⟩ := time.isTimeOfDay
  unfold TimeOfDay.shownSecond nanosPerSecond at *
  omega

/-- The time of day that a clock shows: a leap second within a minute is the second after it. -/
def TimeOfDay.clockTime (time : TimeOfDay) : TimeOfDay :=
  if shown : time.IsClockTime then time
  else
    { hour := time.hour
      minute := time.minute
      second := time.second + 1
      nanosecond := time.nanosecond - nanosPerSecond
      isTimeOfDay := by
        obtain ⟨hour, minute, second, fraction⟩ := time.isTimeOfDay
        obtain ⟨_, inner⟩ := not_or.mp shown
        exact ⟨hour, minute, by omega, by omega⟩ }

theorem TimeOfDay.clockTime_eq_self_iff {time : TimeOfDay} :
    time.clockTime = time ↔ time.IsClockTime := by
  unfold TimeOfDay.clockTime
  split
  · rename_i shown
    exact iff_of_true rfl shown
  · rename_i hidden
    refine iff_of_false (fun same => ?_) hidden
    exact Nat.succ_ne_self _ (congrArg TimeOfDay.second same)

/-- Of a leap second within a minute, a clock shows the second after it and what is left of the
fraction. -/
theorem TimeOfDay.parts_clockTime {time : TimeOfDay} (hidden : ¬ time.IsClockTime) :
    time.clockTime.hour = time.hour ∧ time.clockTime.minute = time.minute ∧
      time.clockTime.second = time.second + 1 ∧
      time.clockTime.nanosecond + nanosPerSecond = time.nanosecond := by
  have leap : nanosPerSecond ≤ time.nanosecond := Nat.not_lt.mp (not_or.mp hidden).1
  rw [TimeOfDay.clockTime, dif_neg hidden]
  exact ⟨rfl, rfl, rfl, Nat.sub_add_cancel leap⟩

/-- The time that a clock shows is found from the second and the fraction that are written of a time
of day: only within a leap second does the fraction carry over. -/
theorem TimeOfDay.ofParts?_shown (time : TimeOfDay) :
    (time.shownSecond ≠ 60 ∧
      TimeOfDay.ofParts? time.hour time.minute time.shownSecond
        (time.nanosecond % nanosPerSecond) = some time.clockTime) ∨
    (time.shownSecond = 60 ∧
      TimeOfDay.ofParts? time.hour time.minute 59
        (nanosPerSecond + time.nanosecond % nanosPerSecond) = some time.clockTime) := by
  simp only [TimeOfDay.ofParts?_eq_some_iff, TimeOfDay.shownSecond]
  obtain ⟨_, _, second, limit⟩ := time.isTimeOfDay
  have below : time.nanosecond % nanosPerSecond < nanosPerSecond := Nat.mod_lt _ (by decide)
  by_cases whole : time.nanosecond < nanosPerSecond
  · left
    rw [TimeOfDay.clockTime, dif_pos (.inl whole), Nat.div_eq_of_lt whole, Nat.mod_eq_of_lt whole]
    exact ⟨by omega, .inl whole, rfl, rfl, rfl, rfl⟩
  · have carried : time.nanosecond / nanosPerSecond = 1 ∧
        time.nanosecond % nanosPerSecond = time.nanosecond - nanosPerSecond := by
      unfold nanosPerSecond at *
      omega
    rw [carried.2] at below
    rw [carried.1, carried.2]
    by_cases last : time.second = 59
    · right
      rw [TimeOfDay.clockTime, dif_pos (.inr last)]
      exact ⟨by omega, .inr rfl, rfl, rfl, last, by omega⟩
    · left
      obtain ⟨hour, minute, next, rest⟩ := TimeOfDay.parts_clockTime (not_or.mpr ⟨whole, last⟩)
      exact ⟨by omega, .inl below, hour, minute, next, by omega⟩

/-- A timestamp is read from its text with the fraction of its second, but a clock time in place of a
leap second within a minute. -/
theorem readTimestamp?_isoText (timestamp : Timestamp) :
    readTimestamp? timestamp.isoText = some ⟨timestamp.date, timestamp.time.clockTime⟩ := by
  obtain ⟨hour, minute, _, _⟩ := timestamp.time.isTimeOfDay
  have hourFits : timestamp.time.hour < 100 := by omega
  have minuteFits : timestamp.time.minute < 100 := by omega
  have secondFits : timestamp.time.shownSecond < 100 :=
    Nat.lt_of_le_of_lt timestamp.time.shownSecond_le (by decide)
  have mark : isBlank 'T' = false := by decide
  have colon : isBlank ':' = false := by decide
  rcases timestamp.time.ofParts?_shown with ⟨shown, found⟩ | ⟨shown, found⟩ <;>
    simp [Timestamp.isoText, Timestamp.text, TimeOfDay.text, readTimestamp?, readDateParts?_text,
      readSeparator?_cons mark, readSeparator?_cons colon, readNumber?_zeroPadded, hourFits,
      minuteFits, secondFits, readFraction?_fractionText, shown, found, dropBlanks]

end HeatingBus.Calendar
