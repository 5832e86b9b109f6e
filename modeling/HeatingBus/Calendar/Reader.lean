import HeatingBus.Calendar.Timestamp
import HeatingBus.Decimal.Reader
import HeatingBus.Text.Blank

/-!
# Reading dates and timestamps

The texts that stand for a date or a timestamp. They are the ISO forms with some liberty: blanks may
stand before a number, before a separator and at the end; a number may have fewer digits than its
column; a year with a sign may have any number of digits; a fraction of a second may have any number
of digits, of which nine count. A second numbered 60 is a leap second.
-/

namespace HeatingBus.Calendar

open Text Decimal

/-- A number of at most `width` digits at the start of a text, after blanks. -/
def readNumber? (width : Nat) (text : List Char) : Option (Nat × List Char) :=
  let rest := dropBlanks text
  let digits := (rest.take width).takeWhile Char.isDigit
  if digits.isEmpty then none else some (digitsValue digits, rest.drop digits.length)

def readYear? (text : List Char) : Option (Int × List Char) :=
  let signed (rest : List Char) : Option (Nat × List Char) :=
    let (digits, afterDigits) := splitDigits rest
    if digits.isEmpty then none else some (digitsValue digits, afterDigits)
  match dropBlanks text with
  | '-' :: rest => (signed rest).map fun (size, remaining) => (-(size : Int), remaining)
  | '+' :: rest => (signed rest).map fun (size, remaining) => ((size : Int), remaining)
  | rest => (readNumber? 4 rest).map fun (size, remaining) => ((size : Int), remaining)

def readSeparator? (separator : Char) (text : List Char) : Option (List Char) :=
  match dropBlanks text with
  | c :: rest => if c = separator then some rest else none
  | [] => none

def readDateParts? (text : List Char) : Option (Date × List Char) := do
  let (year, text) ← readYear? text
  let text ← readSeparator? '-' text
  let (month, text) ← readNumber? 2 text
  let text ← readSeparator? '-' text
  let (day, text) ← readNumber? 2 text
  let date ← Date.ofYmd? year month day
  return (date, text)

def readDate? (text : String) : Option Date := do
  let (date, rest) ← readDateParts? text.toList
  if (dropBlanks rest).isEmpty then return date else none

/-- The nanoseconds of a fraction of a second at the start of a text; none at all is zero. -/
def readFraction? : List Char → Option (Nat × List Char)
  | '.' :: rest =>
    let (digits, remaining) := splitDigits rest
    if digits.isEmpty then none
    else
      let counted := digits.take 9
      some (digitsValue counted * Nat.pow 10 (9 - counted.length), remaining)
  | rest => some (0, rest)

def readTimestamp? (text : String) : Option Timestamp := do
  let (date, text) ← readDateParts? text.toList
  let text ← readSeparator? 'T' text
  let (hour, text) ← readNumber? 2 text
  let text ← readSeparator? ':' text
  let (minute, text) ← readNumber? 2 text
  let text ← readSeparator? ':' text
  let (second, text) ← readNumber? 2 text
  let (nanosecond, text) ← readFraction? text
  let time ←
    if second = 60 then TimeOfDay.ofParts? hour minute 59 (nanosPerSecond + nanosecond)
    else TimeOfDay.ofParts? hour minute second nanosecond
  if (dropBlanks text).isEmpty then return ⟨date, time⟩ else none

end HeatingBus.Calendar
