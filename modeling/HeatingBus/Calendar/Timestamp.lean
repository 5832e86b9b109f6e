import HeatingBus.Calendar.Date

/-!
# Times of day and timestamps

A time of day has fractions of a second down to the nanosecond, and a second with a fraction of one
second or more is a leap second. Only the last second of a minute is made one, but a time may be
given such a fraction at any other second. A `Timestamp` is a date and a time of day.
-/

namespace HeatingBus.Calendar

open Text

def nanosPerSecond : Nat := 1000000000

def IsTimeOfDay (hour minute second nanosecond : Nat) : Prop :=
  hour < 24 ∧ minute < 60 ∧ second < 60 ∧ nanosecond < 2 * nanosPerSecond

/-- Whether a clock shows a second with a fraction: a leap second comes last in its minute. -/
def IsClockSecond (second nanosecond : Nat) : Prop :=
  nanosecond < nanosPerSecond ∨ second = 59

instance (hour minute second nanosecond : Nat) :
    Decidable (IsTimeOfDay hour minute second nanosecond) :=
  inferInstanceAs (Decidable (_ ∧ _))

instance (second nanosecond : Nat) : Decidable (IsClockSecond second nanosecond) :=
  inferInstanceAs (Decidable (_ ∨ _))

structure TimeOfDay where
  hour : Nat
  minute : Nat
  second : Nat
  nanosecond : Nat
  isTimeOfDay : IsTimeOfDay hour minute second nanosecond
  deriving DecidableEq

def TimeOfDay.IsClockTime (time : TimeOfDay) : Prop :=
  IsClockSecond time.second time.nanosecond

instance (time : TimeOfDay) : Decidable time.IsClockTime :=
  inferInstanceAs (Decidable (IsClockSecond _ _))

def TimeOfDay.ofParts? (hour minute second nanosecond : Nat) : Option TimeOfDay :=
  if valid : IsTimeOfDay hour minute second nanosecond ∧ IsClockSecond second nanosecond then
    some ⟨hour, minute, second, nanosecond, valid.1⟩
  else none

/-- The whole seconds past the minute: one more within a leap second. -/
def TimeOfDay.shownSecond (time : TimeOfDay) : Nat :=
  time.second + time.nanosecond / nanosPerSecond

def TimeOfDay.text (time : TimeOfDay) : String :=
  zeroPadded 2 time.hour ++ ":" ++ zeroPadded 2 time.minute ++ ":" ++ zeroPadded 2 time.shownSecond

/-- The fraction of a second in three, six or nine digits, as many as it needs. -/
def TimeOfDay.fractionText (time : TimeOfDay) : String :=
  let fraction := time.nanosecond % nanosPerSecond
  if fraction = 0 then ""
  else if fraction % 1000000 = 0 then "." ++ zeroPadded 3 (fraction / 1000000)
  else if fraction % 1000 = 0 then "." ++ zeroPadded 6 (fraction / 1000)
  else "." ++ zeroPadded 9 fraction

structure Timestamp where
  date : Date
  time : TimeOfDay
  deriving DecidableEq

namespace Timestamp

def ofParts? (year : Int) (month day hour minute second : Nat) : Option Timestamp := do
  let date ← Date.ofYmd? year month day
  let time ← TimeOfDay.ofParts? hour minute second 0
  return ⟨date, time⟩

def text (timestamp : Timestamp) : String :=
  timestamp.date.text ++ "T" ++ timestamp.time.text

def isoText (timestamp : Timestamp) : String :=
  timestamp.text ++ timestamp.time.fractionText

def spacedText (timestamp : Timestamp) : String :=
  timestamp.date.text ++ " " ++ timestamp.time.text ++ timestamp.time.fractionText

end Timestamp

end HeatingBus.Calendar
