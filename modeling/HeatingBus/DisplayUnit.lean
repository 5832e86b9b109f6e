import HeatingBus.Value

/-!
# Display units

A unit says how a value is shown: a sign after numbers, a plausible range, and for an enumeration
the label of every raw value.
-/

namespace HeatingBus

inductive DisplayUnit where
  | minute
  | hour
  | celsius
  | percent
  | bar
  | microAmpere
  | literPerMin
  | yesNo
  | openClosed
  | onOff
  | weekDay
  | offOnAuto
  /-- Mode of the drink water, of which one value is economic. -/
  | dwMode
  /-- Loading of the drink water, of which one value is a valve. -/
  | dwLoading
  | dwType
  /-- Presence of a device on the bus. -/
  | device
  | hcInstallation
  | hcWorkMode
  | hcRemote
  | hcOperation
  | ubaMsTimestamp
  | ubaMmNeed
  | ubaFtValve
  | hwDcProgram
  deriving Repr, DecidableEq

namespace DisplayUnit

def all : List DisplayUnit :=
  [minute, hour, celsius, percent, bar, microAmpere, literPerMin, yesNo, openClosed, onOff, weekDay,
    offOnAuto, dwMode, dwLoading, dwType, device, hcInstallation, hcWorkMode, hcRemote, hcOperation,
    ubaMsTimestamp, ubaMmNeed, ubaFtValve, hwDcProgram]

def name : DisplayUnit → String
  | minute => "Minute"
  | hour => "Hour"
  | celsius => "Celsius"
  | percent => "Percent"
  | bar => "Bar"
  | microAmpere => "MicroAmpere"
  | literPerMin => "LiterPerMin"
  | yesNo => "YesNo"
  | openClosed => "OpenClosed"
  | onOff => "OnOff"
  | weekDay => "WeekDay"
  | offOnAuto => "OffOnAuto"
  | dwMode => "DwMode"
  | dwLoading => "DwLoading"
  | dwType => "DwType"
  | device => "Device"
  | hcInstallation => "HcInstallation"
  | hcWorkMode => "HcWorkMode"
  | hcRemote => "HcRemote"
  | hcOperation => "HcOperation"
  | ubaMsTimestamp => "UbaMsTimestamp"
  | ubaMmNeed => "UbaMmNeed"
  | ubaFtValve => "UbaFtValve"
  | hwDcProgram => "HwDcProgram"

def sign? : DisplayUnit → Option String
  | minute => some "min"
  | hour => some "h"
  | celsius => some "°C"
  | percent => some "%"
  | bar => some "bar"
  | microAmpere => some "µA"
  | literPerMin => some "l/min"
  | _ => none

def range? : DisplayUnit → Option (Int64 × Int64)
  | minute => some (0, 60)
  | hour => some (0, 24)
  | celsius => some (0, 80)
  | percent => some (0, 100)
  | _ => none

def labels? : DisplayUnit → Option (List String)
  | yesNo => some ["No", "Yes"]
  | openClosed => some ["Closed", "Open"]
  | onOff => some ["Off", "On"]
  | weekDay =>
    some ["Monday", "Tuesday", "Wednesday", "Thursday", "Friday", "Saturday", "Sunday", "Daily"]
  | offOnAuto => some ["Always off", "Always on", "Auto"]
  | dwType =>
    some ["No drink water", "Flow heating", "Flow heating with small hot water tank",
      "Hot water tank"]
  | device => some ["Absent", "Present"]
  | hcInstallation =>
    some ["(unknown)", "Radiator", "Convector", "Floor heating", "Room forward flow"]
  | hcWorkMode => some ["Off", "Reduced", "Room guided", "Outside guided"]
  | hcRemote => some ["(none)", "RC20", "RC3x"]
  | hcOperation => some ["Night", "Day", "Auto"]
  | ubaMsTimestamp => some ["None", "Working hours", "Date"]
  | ubaMmNeed =>
    some ["No", "1", "2", "Yes, by working hours", "4", "5", "6", "7", "Yes, by date"]
  | ubaFtValve => some ["Heat circuit", "Drinkwater circuit"]
  | hwDcProgram => some ["By heat circuit", "Separate program"]
  | _ => none

def economicMode : Int64 := 0xDB

def valveLoading : Int64 := 0xFF

/-- Whether a value is plausible: what is no number, and every value of a unit without a range, is.
-/
def contains (displayUnit : DisplayUnit) (value : Value) : Bool :=
  match displayUnit.range?, value.asFloat? with
  | some (least, greatest), some number => least.toFloat ≤ number && number ≤ greatest.toFloat
  | _, _ => true

def label? (displayUnit : DisplayUnit) (value : Value) : Option String := do
  let labels ← displayUnit.labels?
  let index ← value.asIndex?
  labels[index]?

def plainText (displayUnit : DisplayUnit) (value : Value) : String :=
  match displayUnit with
  | dwMode => if value.asInteger? = some economicMode then "ECO" else "Comfort"
  | dwLoading => if value.asInteger? = some valveLoading then "Three way valve" else "Pump"
  | _ => (displayUnit.label? value).getD value.describe

def render (displayUnit : DisplayUnit) (value : Value) : String :=
  match displayUnit.sign? with
  | some sign => displayUnit.plainText value ++ " " ++ sign
  | none => displayUnit.plainText value

/-- The text of a unit: its sign, or its name if it has none. -/
def describe (displayUnit : DisplayUnit) : String :=
  displayUnit.sign?.getD displayUnit.name

end DisplayUnit

end HeatingBus
