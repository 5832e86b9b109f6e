import HeatingBus.Field.Codec

/-!
# Dates and their bytes

The bytes of a date or of a timestamp are its parts, and a year is counted from 2000 on. They are
read as the date that they were written from, and nothing else is written to the same bytes.
-/

namespace HeatingBus

open Calendar

/-! ## Parts of a date -/

namespace Calendar

theorem Date.ofYmd?_eq_some_iff {year : Int} {month day : Nat} {date : Date} :
    Date.ofYmd? year month day = some date ↔
      date.year = year ∧ date.month = month ∧ date.day = day := by
  constructor
  · intro found
    rw [Date.ofYmd?] at found
    split at found
    · cases found
      exact ⟨rfl, rfl, rfl⟩
    · cases found
  · rintro ⟨rfl, rfl, rfl⟩
    exact date.ofYmd?_parts

theorem TimeOfDay.ofParts?_eq_some_iff {hour minute second nanosecond : Nat} {time : TimeOfDay} :
    TimeOfDay.ofParts? hour minute second nanosecond = some time ↔
      IsClockSecond second nanosecond ∧ time.hour = hour ∧ time.minute = minute ∧
        time.second = second ∧ time.nanosecond = nanosecond := by
  constructor
  · intro found
    rw [TimeOfDay.ofParts?] at found
    split at found
    · rename_i valid
      cases found
      exact ⟨valid.2, rfl, rfl, rfl, rfl⟩
    · cases found
  · rintro ⟨shown, rfl, rfl, rfl, rfl⟩
    rw [TimeOfDay.ofParts?, dif_pos ⟨time.isTimeOfDay, shown⟩]

theorem Timestamp.ofParts?_eq_some_iff {year : Int} {month day hour minute second : Nat}
    {timestamp : Timestamp} :
    Timestamp.ofParts? year month day hour minute second = some timestamp ↔
      (timestamp.date.year = year ∧ timestamp.date.month = month ∧ timestamp.date.day = day) ∧
        timestamp.time.hour = hour ∧ timestamp.time.minute = minute ∧
          timestamp.time.second = second ∧ timestamp.time.nanosecond = 0 := by
  have times : TimeOfDay.ofParts? hour minute second 0 = some timestamp.time ↔ _ :=
    TimeOfDay.ofParts?_eq_some_iff.trans (and_iff_right (.inl (by decide)))
  rw [← Date.ofYmd?_eq_some_iff, ← times, Timestamp.ofParts?]
  cases Date.ofYmd? year month day with
  | none => simp
  | some date =>
    cases TimeOfDay.ofParts? hour minute second 0 with
    | none => simp
    | some time =>
      simp only [Option.bind_eq_bind, Option.bind_some, Option.pure_def, Option.some.injEq]
      constructor
      · rintro rfl
        exact ⟨rfl, rfl⟩
      · rintro ⟨rfl, rfl⟩
        rfl

theorem daysInMonth_le (year : Int) (month : Nat) : daysInMonth year month ≤ 31 := by
  have february : (if IsLeapYear year then 29 else 28) ≤ 31 := by
    split <;> decide
  unfold daysInMonth
  split <;> omega

theorem daysInMonth_of_lt {year : Int} {month : Nat} (late : 12 < month) :
    daysInMonth year month = 0 := by
  unfold daysInMonth
  split <;> omega

theorem Date.month_le (date : Date) : date.month ≤ 12 := by
  obtain ⟨_, _, first, last⟩ := date.isDate
  apply Nat.le_of_not_lt
  intro late
  rw [daysInMonth_of_lt late] at last
  omega

theorem Date.day_le (date : Date) : date.day ≤ 31 :=
  Nat.le_trans date.isDate.2.2.2 (daysInMonth_le date.year date.month)

/-- The parts of a date fit into bytes, except for its year. -/
theorem Date.month_lt_and_day_lt (date : Date) : date.month < 256 ∧ date.day < 256 :=
  ⟨Nat.lt_of_le_of_lt date.month_le (by decide), Nat.lt_of_le_of_lt date.day_le (by decide)⟩

end Calendar

/-! ## Bytes of parts -/

theorem ofNat_eq_byte_iff {number : Nat} {byte : UInt8} (small : number < 256) :
    UInt8.ofNat number = byte ↔ number = byte.toNat := by
  rw [← UInt8.toNat_inj, UInt8.toNat_ofNat_of_lt' small]

namespace Field

theorem yearByte?_eq_some_iff {year : Int} {greatest : Nat} {byte : UInt8}
    (limit : greatest ≤ 0xFF) :
    yearByte? year greatest = some byte ↔
      year = yearEpoch + byte.toNat ∧ byte.toNat ≤ greatest := by
  simp only [yearByte?]
  split
  · rename_i within
    rw [Option.some.injEq, ofNat_eq_byte_iff (by omega)]
    omega
  · rename_i outside
    simp only [reduceCtorEq, false_iff]
    omega

/-! ## Dates -/

theorem exists_date_of_dateOfBytes? {bytes : Bytes} {value : Value}
    (read : dateOfBytes? bytes = some value) : ∃ date, value = .date date := by
  unfold dateOfBytes? at read
  split at read
  · obtain ⟨date, _, rfl⟩ := Option.map_eq_some_iff.mp read
    exact ⟨date, rfl⟩
  · cases read

/-- A date is written to some bytes exactly if it is read from them. -/
theorem bytesOfDate_eq_ok_iff {date : Date} {bytes : Bytes} :
    bytesOfDate date = .ok bytes ↔
      bytes.length = 3 ∧ dateOfBytes? bytes = some (.date date) := by
  obtain ⟨month, day⟩ := date.month_lt_and_day_lt
  have reads (dayByte monthByte yearByte : UInt8) :
      dateOfBytes? [dayByte, monthByte, yearByte] = some (.date date) ↔
        UInt8.ofNat date.day = dayByte ∧ UInt8.ofNat date.month = monthByte ∧
          yearByte? date.year 0xFF = some yearByte := by
    rw [yearByte?_eq_some_iff (Nat.le_refl _), ofNat_eq_byte_iff day, ofNat_eq_byte_iff month]
    simp only [dateOfBytes?, Option.map_eq_some_iff, Value.date.injEq, exists_eq_right,
      Date.ofYmd?_eq_some_iff]
    have small := yearByte.toNat_lt
    omega
  constructor
  · intro written
    rw [bytesOfDate] at written
    cases year : yearByte? date.year 0xFF with
    | none =>
      rw [year] at written
      cases written
    | some yearByte =>
      rw [year] at written
      cases written
      exact ⟨rfl, (reads _ _ _).mpr ⟨rfl, rfl, year⟩⟩
  · rintro ⟨three, read⟩
    match bytes, three with
    | [dayByte, monthByte, yearByte], _ =>
      obtain ⟨rfl, rfl, year⟩ := (reads _ _ _).mp read
      rw [bytesOfDate, year]

/-! ## Timestamps -/

theorem exists_timestamp_of_dateTimeOfBytes? {bytes : Bytes} {value : Value}
    (read : dateTimeOfBytes? bytes = some value) :
    ∃ timestamp reservedBit, value = .dateTime timestamp reservedBit := by
  unfold dateTimeOfBytes? at read
  split at read
  · obtain ⟨timestamp, _, rfl⟩ := Option.map_eq_some_iff.mp read
    exact ⟨timestamp, _, rfl⟩
  · cases read

/-- The reserved bit of a year byte and the year below it are apart from each other. -/
theorem and_yearByte_or {year : UInt8} (low : year.toNat ≤ 0x7F) (reservedBit : Bool) :
    (year ||| if reservedBit then reservedYearBit else 0) &&& ~~~reservedYearBit = year ∧
      ((year ||| if reservedBit then reservedYearBit else 0) &&& reservedYearBit != 0) =
        reservedBit := by
  have all : ∀ (reservedBit : Bool) (bits : BitVec 8), bits.toNat ≤ 0x7F →
      ((⟨bits⟩ : UInt8) ||| if reservedBit then reservedYearBit else 0) &&& ~~~reservedYearBit =
          ⟨bits⟩ ∧
        (((⟨bits⟩ : UInt8) ||| if reservedBit then reservedYearBit else 0) &&&
          reservedYearBit != 0) = reservedBit := by decide
  exact all reservedBit year.toBitVec low

/-- A year byte is its reserved bit and the year below it. -/
theorem yearByte_or_and (byte : UInt8) :
    (byte &&& ~~~reservedYearBit).toNat ≤ 0x7F ∧
      (byte &&& ~~~reservedYearBit |||
        if byte &&& reservedYearBit != 0 then reservedYearBit else 0) = byte := by
  have all : ∀ bits : BitVec 8, ((⟨bits⟩ : UInt8) &&& ~~~reservedYearBit).toNat ≤ 0x7F ∧
      ((⟨bits⟩ : UInt8) &&& ~~~reservedYearBit |||
        if (⟨bits⟩ : UInt8) &&& reservedYearBit != 0 then reservedYearBit else 0) = ⟨bits⟩ := by
    decide
  exact all byte.toBitVec

/-- Whether a timestamp is one to the second, and to the minute if a field of its length has no
byte for the second. -/
def FitsLength (timestamp : Timestamp) (length : Nat) : Prop :=
  timestamp.time.nanosecond = 0 ∧ (length = 5 → timestamp.time.second = 0)

section
variable {timestamp : Timestamp} {reservedBit : Bool} {length : Nat} {bytes : Bytes}

def secondOf (rest : Bytes) : UInt8 :=
  match rest with
  | [last] => last
  | _ => 0

theorem dateTimeOfBytes?_eq_some_iff {year month hour day minute : UInt8} {rest : Bytes} :
    dateTimeOfBytes? (year :: month :: hour :: day :: minute :: rest) =
        some (.dateTime timestamp reservedBit) ↔
      (yearByte? timestamp.date.year 0x7F = some (year &&& ~~~reservedYearBit) ∧
        (year &&& reservedYearBit != 0) = reservedBit) ∧
      (UInt8.ofNat timestamp.date.month = month ∧ UInt8.ofNat timestamp.time.hour = hour ∧
        UInt8.ofNat timestamp.date.day = day ∧ UInt8.ofNat timestamp.time.minute = minute) ∧
      UInt8.ofNat timestamp.time.second = secondOf rest ∧ timestamp.time.nanosecond = 0 := by
  obtain ⟨monthFits, dayFits⟩ := timestamp.date.month_lt_and_day_lt
  obtain ⟨hourFits, minuteFits, secondFits, _⟩ := timestamp.time.isTimeOfDay
  have low := (yearByte_or_and year).1
  rw [yearByte?_eq_some_iff (by decide), ofNat_eq_byte_iff monthFits, ofNat_eq_byte_iff dayFits,
    ofNat_eq_byte_iff (by omega), ofNat_eq_byte_iff (by omega), ofNat_eq_byte_iff (by omega)]
  simp only [dateTimeOfBytes?, Option.map_eq_some_iff, Value.dateTime.injEq]
  constructor
  · rintro ⟨found, parts, rfl, rfl⟩
    obtain ⟨⟨years, months, days⟩, hours, minutes, seconds, nanoseconds⟩ :=
      Timestamp.ofParts?_eq_some_iff.mp parts
    exact ⟨⟨⟨years, low⟩, rfl⟩, ⟨months, hours, days, minutes⟩, seconds, nanoseconds⟩
  · rintro ⟨⟨⟨years, _⟩, reserved⟩, ⟨months, hours, days, minutes⟩, seconds, nanoseconds⟩
    exact ⟨timestamp, Timestamp.ofParts?_eq_some_iff.mpr
      ⟨⟨years, months, days⟩, hours, minutes, seconds, nanoseconds⟩, rfl, reserved⟩

/-- A timestamp that fits is written to some bytes exactly if it is read from them. -/
theorem bytesOfDateTime_eq_ok_iff (room : length = 5 ∨ length = 6) :
    FitsLength timestamp length ∧ bytesOfDateTime length timestamp reservedBit = .ok bytes ↔
      bytes.length = length ∧
        dateTimeOfBytes? bytes = some (.dateTime timestamp reservedBit) := by
  constructor
  · rintro ⟨⟨whole, even⟩, written⟩
    rw [bytesOfDateTime] at written
    cases year : yearByte? timestamp.date.year 0x7F with
    | none =>
      rw [year] at written
      cases written
    | some yearByte =>
      have low := ((yearByte?_eq_some_iff (by decide)).mp year).2
      obtain ⟨below, above⟩ := and_yearByte_or low reservedBit
      rw [year] at written
      cases written
      rcases room with rfl | rfl
      · refine ⟨rfl, dateTimeOfBytes?_eq_some_iff.mpr
          ⟨⟨by rw [below, year], above⟩, ⟨rfl, rfl, rfl, rfl⟩, ?_, whole⟩⟩
        -- There is no byte for the second, so it has to be the one that is read in its place.
        rw [even rfl]
        rfl
      · exact ⟨rfl, dateTimeOfBytes?_eq_some_iff.mpr
          ⟨⟨by rw [below, year], above⟩, ⟨rfl, rfl, rfl, rfl⟩, rfl, whole⟩⟩
  · rintro ⟨rfl, read⟩
    have seconds : timestamp.time.second < 256 := by
      have bound := timestamp.time.isTimeOfDay.2.2.1
      omega
    match bytes, room with
    | [yearByte, _, _, _, _], _ =>
      obtain ⟨⟨year, reserved⟩, ⟨rfl, rfl, rfl, rfl⟩, second, whole⟩ :=
        dateTimeOfBytes?_eq_some_iff.mp read
      have zero : timestamp.time.second = 0 := (ofNat_eq_byte_iff seconds).mp second
      refine ⟨⟨whole, fun _ => zero⟩, ?_⟩
      rw [bytesOfDateTime, year, ← reserved]
      simp only [(yearByte_or_and yearByte).2]
      rfl
    | [yearByte, _, _, _, _, _], _ =>
      obtain ⟨⟨year, reserved⟩, ⟨rfl, rfl, rfl, rfl⟩, second, whole⟩ :=
        dateTimeOfBytes?_eq_some_iff.mp read
      refine ⟨⟨whole, fun five => by simp at five⟩, ?_⟩
      rw [bytesOfDateTime, year, ← reserved, second]
      simp only [(yearByte_or_and yearByte).2]
      rfl

end

end Field

end HeatingBus
