import HeatingBus.Message.Basic
import HeatingBus.Proofs.Field.RoundTrip
import HeatingBus.Proofs.Message.Layouts
import Mathlib.Algebra.BigOperators.Ring.Finset
import Mathlib.Tactic.Ring

/-!
# What fields are read as

What the value of a field is, said of its bytes one by one: an integer is a positional number in
two's complement, times its factor, and a date or a timestamp is the one whose parts stand in the
bytes, if the Gregorian calendar has such a day and the day has such a time.
-/

namespace HeatingBus

open Calendar Finset

/-! ## Positional numbers -/

theorem numberOfBytes_concat (bytes : Bytes) (byte : UInt8) :
    numberOfBytes (bytes ++ [byte]) = 256 * numberOfBytes bytes + byte.toNat := by
  rw [numberOfBytes, List.foldl_concat]
  rfl

theorem numberOfBytes_eq_sum (byteAt : Nat → UInt8) (count : Nat) :
    numberOfBytes ((List.range count).map byteAt) =
      ∑ place ∈ range count, (byteAt place).toNat * 256 ^ (count - 1 - place) := by
  induction count with
  | zero => rfl
  | succ count inductionHypothesis =>
    rw [List.range_succ, List.map_append, List.map_singleton, numberOfBytes_concat,
      inductionHypothesis, sum_range_succ, mul_sum]
    -- Each of the earlier bytes has moved up by one place.
    have moved : ∀ place ∈ range count,
        256 * ((byteAt place).toNat * 256 ^ (count - 1 - place)) =
          (byteAt place).toNat * 256 ^ (count + 1 - 1 - place) := by
      intro place before
      have up : count + 1 - 1 - place = count - 1 - place + 1 := by
        have := mem_range.mp before
        omega
      rw [up, pow_succ]
      ring
    rw [sum_congr rfl moved]
    simp

/-- The top bit of the first byte tells the upper half of all values from the lower one. -/
theorem byteValues_le_iff_testBit (byte : UInt8) (bytes : Bytes) :
    byteValues (byte :: bytes).length ≤ 2 * numberOfBytes (byte :: bytes) ↔
      byte.toNat.testBit 7 = true := by
  have top : byte.toNat.testBit 7 = true ↔ 128 ≤ byte.toNat := by
    have all : ∀ bits : BitVec 8, bits.toNat.testBit 7 = true ↔ 128 ≤ bits.toNat := by decide
    exact all byte.toBitVec
  have rest := numberOfBytes_lt bytes
  rw [top, numberOfBytes_cons, List.length_cons, byteValues_succ]
  constructor
  · intro upper
    by_contra lower
    have small := Nat.mul_le_mul_right (byteValues bytes.length)
      (Nat.le_of_lt_succ (Nat.not_le.mp lower))
    omega
  · intro upper
    have large := Nat.mul_le_mul_right (byteValues bytes.length) upper
    omega

theorem integerIn_eq_sub {signed : Bool} {bytes : Bytes} (nonempty : bytes ≠ []) :
    integerIn signed bytes = numberOfBytes bytes -
      if signed && (bytes.headD 0).toNat.testBit 7 then 2 ^ (8 * bytes.length) else 0 := by
  obtain ⟨byte, rest, rfl⟩ := List.exists_cons_of_ne_nil nonempty
  cases signed with
  | false => simp [integerIn]
  | true =>
    simp only [integerIn, signedNumber, if_true, Bool.true_and, List.headD_cons,
      byteValues_le_iff_testBit]
    split
    · rw [byteValues_eq_two_pow]
      norm_cast
    · simp

/-! ## The calendar -/

namespace Calendar

def IsGregorianDate (year : Int) (month day : Nat) : Prop :=
  1 ≤ day ∧
    ((month = 1 ∨ month = 3 ∨ month = 5 ∨ month = 7 ∨ month = 8 ∨ month = 10 ∨ month = 12) ∧
        day ≤ 31 ∨
      (month = 4 ∨ month = 6 ∨ month = 9 ∨ month = 11) ∧ day ≤ 30 ∨
      month = 2 ∧ (day ≤ 28 ∨ day = 29 ∧ (4 ∣ year ∧ ¬ 100 ∣ year ∨ 400 ∣ year)))

theorem isDate_iff_isGregorianDate {year : Int} {month day : Nat} (low : firstYear ≤ year)
    (high : year ≤ lastYear) : IsDate year month day ↔ IsGregorianDate year month day := by
  rw [IsDate, and_iff_right low, and_iff_right high, IsGregorianDate]
  refine and_congr_right fun first => ?_
  unfold daysInMonth
  split
  case h_12 =>
    have leap : IsLeapYear year ↔ 4 ∣ year ∧ ¬ 100 ∣ year ∨ 400 ∣ year := by
      rw [IsLeapYear]
      omega
    by_cases long : IsLeapYear year
    · have divides := leap.mp long
      rw [if_pos long]
      omega
    · have apart := mt leap.mpr long
      rw [if_neg long]
      omega
  case h_13 =>
    grind
  all_goals omega

/-- There is a date of the given parts exactly if they are one of the Gregorian calendar. -/
theorem Date.exists_iff_isGregorianDate {year : Int} {month day : Nat} (low : firstYear ≤ year)
    (high : year ≤ lastYear) :
    (∃ date : Date, date.year = year ∧ date.month = month ∧ date.day = day) ↔
      IsGregorianDate year month day := by
  rw [← isDate_iff_isGregorianDate low high]
  constructor
  · rintro ⟨date, rfl, rfl, rfl⟩
    exact date.isDate
  · intro isDate
    exact ⟨⟨year, month, day, isDate⟩, rfl, rfl, rfl⟩

theorem TimeOfDay.exists_iff {hour minute second : Nat} :
    (∃ time : TimeOfDay, time.hour = hour ∧ time.minute = minute ∧ time.second = second ∧
        time.nanosecond = 0) ↔ hour < 24 ∧ minute < 60 ∧ second < 60 := by
  constructor
  · rintro ⟨time, rfl, rfl, rfl, _⟩
    obtain ⟨hours, minutes, seconds, _⟩ := time.isTimeOfDay
    exact ⟨hours, minutes, seconds⟩
  · rintro ⟨hours, minutes, seconds⟩
    exact ⟨⟨hour, minute, second, 0, hours, minutes, seconds, by decide⟩, rfl, rfl, rfl, rfl⟩

end Calendar

/-! ## Bytes of a field -/

namespace Field

def byteIn (field : Field) (buffer : Bytes) (place : Nat) : UInt8 :=
  buffer.getD (field.position + place) 0

/-- The number that a field holds: each byte counts 256 times as much as the next one, and in a
number with a sign the top bit of all takes away as much as there are values. -/
def numberIn (field : Field) (signed : Bool) (buffer : Bytes) : Int :=
  (∑ place ∈ range field.length,
      (field.byteIn buffer place).toNat * 256 ^ (field.length - 1 - place) : Nat) -
    if signed && (field.byteIn buffer 0).toNat.testBit 7 then 2 ^ (8 * field.length) else 0

section
variable {field : Field} {messageLength : Nat} {buffer : Bytes} {value : Value}

theorem bytesIn?_of_covers (covers : field.finish ≤ buffer.length) :
    field.bytesIn? buffer = some ((List.range field.length).map (field.byteIn buffer)) := by
  rw [bytesIn?, if_pos covers, Option.some.injEq]
  rw [finish] at covers
  refine List.ext_getElem (by simp; omega) fun place inside _ => ?_
  rw [List.getElem_take, List.getElem_drop, List.getElem_map, List.getElem_range, byteIn,
    List.getD_eq_getElem?_getD, List.getElem?_eq_getElem, Option.getD_some]

theorem decode_of_covers (covers : field.finish ≤ buffer.length) :
    field.decode buffer = .ok value ↔
      field.valueOf? ((List.range field.length).map (field.byteIn buffer)) = some value := by
  rw [decode_eq_ok_iff, bytesIn?_of_covers covers]
  simp only [Option.some.injEq, exists_eq_left']

/-! ## Integers -/

theorem integerIn_map_byteIn {signed : Bool} (positive : 1 ≤ field.length) :
    integerIn signed ((List.range field.length).map (field.byteIn buffer)) =
      field.numberIn signed buffer := by
  have nonempty : (List.range field.length).map (field.byteIn buffer) ≠ [] := by
    rw [Ne, List.map_eq_nil_iff, List.range_eq_nil]
    omega
  have first : ((List.range field.length).map (field.byteIn buffer)).headD 0 =
      field.byteIn buffer 0 := by
    obtain ⟨rest, length⟩ := Nat.exists_eq_add_of_le' positive
    rw [length, List.range_succ_eq_map]
    rfl
  rw [integerIn_eq_sub nonempty, numberOfBytes_eq_sum, List.length_map, List.length_range, first,
    numberIn]

theorem exists_decode_integer {signed : Bool} (accepted : field.check messageLength = .ok ())
    (covers : field.finish ≤ buffer.length) (kind : field.kind = .integer none signed) :
    ∃ value : Int64, field.decode buffer = .ok (.integer value) ∧
      value.toInt = field.numberIn signed buffer := by
  obtain ⟨positive, short, _⟩ := lengthBounds_of_check accepted
  rw [kind, FieldKind.lengthBounds] at positive short
  have fewBytes : ((List.range field.length).map (field.byteIn buffer)).length ≤ 4 := by
    simpa using short
  have small : (integerIn signed _).natAbs ≤ _ := natAbs_integerIn_le fewBytes
  rw [integerIn_map_byteIn positive] at small
  refine ⟨Int64.ofInt (field.numberIn signed buffer), (decode_of_covers covers).mpr ?_, ?_⟩
  · rw [← integerIn_map_byteIn positive, valueOf?, kind]
    rfl
  · exact Int64.toInt_ofInt_of_le (by omega) (by omega)

theorem exists_decode_multiplied {signed : Bool} {factor : UInt16}
    (accepted : field.check messageLength = .ok ()) (covers : field.finish ≤ buffer.length)
    (kind : field.kind = .integer (some (.multiply factor)) signed) :
    ∃ value : Int64, field.decode buffer = .ok (.integer value) ∧
      value.toInt = field.numberIn signed buffer * factor.toNat := by
  obtain ⟨positive, short, _⟩ := lengthBounds_of_check accepted
  rw [kind, FieldKind.lengthBounds] at positive short
  have fewBytes : ((List.range field.length).map (field.byteIn buffer)).length ≤ 4 := by
    simpa using short
  have small : (integerIn signed _ * factor.toNat).natAbs < _ :=
    natAbs_integerIn_mul_lt fewBytes factor
  rw [integerIn_map_byteIn positive] at small
  refine ⟨Int64.ofInt (field.numberIn signed buffer * factor.toNat),
    (decode_of_covers covers).mpr ?_, ?_⟩
  · simp only [valueOf?, kind]
    rw [integerOfBytes_multiply, integerIn_map_byteIn positive]
  · exact Int64.toInt_ofInt_of_le (by omega) (by omega)

/-! ## Dates and timestamps -/

theorem decode_date_iff (accepted : field.check messageLength = .ok ())
    (covers : field.finish ≤ buffer.length) (kind : field.kind = .date) :
    field.decode buffer = .ok value ↔ ∃ date, value = .date date ∧
      date.year = 2000 + (field.byteIn buffer 2).toNat ∧
      date.month = (field.byteIn buffer 1).toNat ∧
      date.day = (field.byteIn buffer 0).toNat := by
  obtain ⟨least, greatest, _⟩ := lengthBounds_of_check accepted
  rw [kind, FieldKind.lengthBounds] at least greatest
  have three : field.length = 3 := Nat.le_antisymm greatest least
  rw [decode_of_covers covers, valueOf?, kind, three]
  show (Date.ofYmd? _ _ _).map Value.date = some value ↔ _
  simp only [Option.map_eq_some_iff, Date.ofYmd?_eq_some_iff, eq_comm (b := value), yearEpoch]
  exact exists_congr fun date => and_comm

/-- The second of a timestamp field, zero if the field has no byte for it. -/
def secondIn (field : Field) (buffer : Bytes) : Nat :=
  if field.length = 5 then 0 else (field.byteIn buffer 5).toNat

/-- The year byte of a timestamp is the year in its lower seven bits and the reserved bit above. -/
theorem yearByte_parts (byte : UInt8) :
    (byte &&& ~~~reservedYearBit).toNat = byte.toNat % 0x80 ∧
      (byte &&& reservedYearBit != 0) = byte.toNat.testBit 7 := by
  have all : ∀ bits : BitVec 8,
      ((⟨bits⟩ : UInt8) &&& ~~~reservedYearBit).toNat = bits.toNat % 0x80 ∧
        ((⟨bits⟩ : UInt8) &&& reservedYearBit != 0) = bits.toNat.testBit 7 := by decide
  exact all byte.toBitVec

theorem valueOf?_dateTime (kind : field.kind = .dateTime)
    (room : field.length = 5 ∨ field.length = 6) :
    field.valueOf? ((List.range field.length).map (field.byteIn buffer)) =
      (Timestamp.ofParts? (2000 + ((field.byteIn buffer 0).toNat % 0x80 : Nat))
        (field.byteIn buffer 1).toNat (field.byteIn buffer 3).toNat (field.byteIn buffer 2).toNat
        (field.byteIn buffer 4).toNat (field.secondIn buffer)).map
          (.dateTime · ((field.byteIn buffer 0).toNat.testBit 7)) := by
  obtain ⟨year, reserved⟩ := yearByte_parts (field.byteIn buffer 0)
  rw [valueOf?, kind, secondIn, ← year, ← reserved]
  rcases room with five | six
  · rw [if_pos five, five]
    rfl
  · rw [if_neg (by omega), six]
    rfl

theorem decode_dateTime_iff (accepted : field.check messageLength = .ok ())
    (covers : field.finish ≤ buffer.length) (kind : field.kind = .dateTime) :
    field.decode buffer = .ok value ↔ ∃ timestamp,
      value = .dateTime timestamp ((field.byteIn buffer 0).toNat.testBit 7) ∧
      (timestamp.date.year = 2000 + ((field.byteIn buffer 0).toNat % 0x80 : Nat) ∧
        timestamp.date.month = (field.byteIn buffer 1).toNat ∧
        timestamp.date.day = (field.byteIn buffer 3).toNat) ∧
      timestamp.time.hour = (field.byteIn buffer 2).toNat ∧
        timestamp.time.minute = (field.byteIn buffer 4).toNat ∧
        timestamp.time.second = field.secondIn buffer ∧ timestamp.time.nanosecond = 0 := by
  obtain ⟨least, greatest, _⟩ := lengthBounds_of_check accepted
  rw [kind, FieldKind.lengthBounds] at least greatest
  rw [decode_of_covers covers, valueOf?_dateTime kind (by omega)]
  simp only [Option.map_eq_some_iff, Timestamp.ofParts?_eq_some_iff, eq_comm (b := value)]
  exact exists_congr fun timestamp => and_comm

/-! ## Main statement -/

def HoldsDate (field : Field) (buffer : Bytes) : Prop :=
  IsGregorianDate (2000 + (field.byteIn buffer 2).toNat) (field.byteIn buffer 1).toNat
    (field.byteIn buffer 0).toNat

def HoldsDateTime (field : Field) (buffer : Bytes) : Prop :=
  IsGregorianDate (2000 + ((field.byteIn buffer 0).toNat % 0x80 : Nat))
      (field.byteIn buffer 1).toNat (field.byteIn buffer 3).toNat ∧
    (field.byteIn buffer 2).toNat < 24 ∧ (field.byteIn buffer 4).toNat < 60 ∧
    field.secondIn buffer < 60

theorem exists_decode_date_iff (accepted : field.check messageLength = .ok ())
    (covers : field.finish ≤ buffer.length) (kind : field.kind = .date) :
    (∃ value, field.decode buffer = .ok value) ↔ field.HoldsDate buffer := by
  have small := (field.byteIn buffer 2).toNat_lt
  rw [HoldsDate, ← Date.exists_iff_isGregorianDate (by rw [firstYear]; omega)
    (by rw [lastYear]; omega)]
  simp only [decode_date_iff accepted covers kind]
  constructor
  · rintro ⟨_, date, _, parts⟩
    exact ⟨date, parts⟩
  · rintro ⟨date, parts⟩
    exact ⟨_, date, rfl, parts⟩

theorem exists_decode_dateTime_iff (accepted : field.check messageLength = .ok ())
    (covers : field.finish ≤ buffer.length) (kind : field.kind = .dateTime) :
    (∃ value, field.decode buffer = .ok value) ↔ field.HoldsDateTime buffer := by
  rw [HoldsDateTime, ← Date.exists_iff_isGregorianDate (by rw [firstYear]; omega)
    (by rw [lastYear]; omega), ← TimeOfDay.exists_iff]
  simp only [decode_dateTime_iff accepted covers kind]
  constructor
  · rintro ⟨_, timestamp, _, date, time⟩
    exact ⟨⟨timestamp.date, date⟩, timestamp.time, time⟩
  · rintro ⟨⟨date, dateParts⟩, time, timeParts⟩
    exact ⟨_, ⟨date, time⟩, rfl, dateParts, timeParts⟩

end

/-- The fields of a message never want for bytes in the buffer of the message. -/
theorem decode_ne_bufferTooShort {message : Message} {field : Field}
    (declared : field ∈ message.layout.fields) (name : String) (size : Nat) :
    field.decode message.buffer ≠ .error (.decode name (.bufferTooShort size)) := by
  have covers : field.finish ≤ message.buffer.length := by
    rw [message.buffer_length]
    exact (length_of_check (message.layout.check_field declared)).2.2
  intro failed
  rw [decode, bytesIn?_of_covers covers] at failed
  cases kind : field.kind with
  | integer _ _ | boolean _ | flag _ | text => simp [kind] at failed
  | date =>
    simp only [kind] at failed
    split at failed <;> cases failed
  | dateTime =>
    simp only [kind] at failed
    split at failed <;> cases failed

/-- What a checked field is read as in a buffer that covers it, said of its bytes; and the buffer of
a message covers all its fields. -/
theorem decode_of_bytes {field : Field} {messageLength : Nat} {buffer : Bytes}
    (accepted : field.check messageLength = .ok ()) (covers : field.finish ≤ buffer.length) :
    (∀ signed, field.kind = .integer none signed → ∃ value : Int64,
      field.decode buffer = .ok (.integer value) ∧
        value.toInt = field.numberIn signed buffer) ∧
    (∀ factor signed, field.kind = .integer (some (.multiply factor)) signed → ∃ value : Int64,
      field.decode buffer = .ok (.integer value) ∧
        value.toInt = field.numberIn signed buffer * factor.toNat) ∧
    (field.kind = .date →
      ((∃ value, field.decode buffer = .ok value) ↔ field.HoldsDate buffer) ∧
      ∀ value, field.decode buffer = .ok value → ∃ date, value = .date date ∧
        date.year = 2000 + (field.byteIn buffer 2).toNat ∧
        date.month = (field.byteIn buffer 1).toNat ∧
        date.day = (field.byteIn buffer 0).toNat) ∧
    (field.kind = .dateTime →
      ((∃ value, field.decode buffer = .ok value) ↔ field.HoldsDateTime buffer) ∧
      ∀ value, field.decode buffer = .ok value → ∃ timestamp,
        value = .dateTime timestamp ((field.byteIn buffer 0).toNat.testBit 7) ∧
        (timestamp.date.year = 2000 + ((field.byteIn buffer 0).toNat % 0x80 : Nat) ∧
          timestamp.date.month = (field.byteIn buffer 1).toNat ∧
          timestamp.date.day = (field.byteIn buffer 3).toNat) ∧
        timestamp.time.hour = (field.byteIn buffer 2).toNat ∧
          timestamp.time.minute = (field.byteIn buffer 4).toNat ∧
          timestamp.time.second = field.secondIn buffer ∧ timestamp.time.nanosecond = 0) ∧
    ∀ message : Message, ∀ declared ∈ message.layout.fields, ∀ name size,
      declared.decode message.buffer ≠ .error (.decode name (.bufferTooShort size)) := by
  refine ⟨fun signed kind => exists_decode_integer accepted covers kind,
    fun factor signed kind => exists_decode_multiplied accepted covers kind,
    fun kind => ⟨exists_decode_date_iff accepted covers kind, fun value decoded => ?_⟩,
    fun kind => ⟨exists_decode_dateTime_iff accepted covers kind, fun value decoded => ?_⟩,
    fun message declared listed => decode_ne_bufferTooShort listed⟩
  · exact (decode_date_iff accepted covers kind).mp decoded
  · exact (decode_dateTime_iff accepted covers kind).mp decoded

def leastMultiple : Field :=
  ((Field.integer 1 4 "balance" "Balance").signed).multipliedBy 0xFFFF

theorem decode_of_bytes_leastMultiple :
    leastMultiple.check 5 = .ok () ∧
      ∃ value : Int64, leastMultiple.decode [0xFF, 0x80, 0, 0, 0] = .ok (.integer value) ∧
        value.toInt = -0x80000000 * 0xFFFF := by
  have accepted : leastMultiple.check 5 = .ok () := rfl
  have covers : leastMultiple.finish ≤ ([0xFF, 0x80, 0, 0, 0] : Bytes).length := by decide
  obtain ⟨value, decoded, number⟩ := (decode_of_bytes accepted covers).2.1 0xFFFF true rfl
  exact ⟨accepted, value, decoded, number.trans (by decide)⟩

end Field

end HeatingBus
