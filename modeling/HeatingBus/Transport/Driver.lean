import HeatingBus.Error
import HeatingBus.Log.Basic
import HeatingBus.Log.DriverLevel

/-!
# Bus drivers

The bus driver owns the serial link and the timing of the bus. It runs outside of this process,
where all that can be seen of it is its link, or it is attached to this process and says itself
whether it starts and stops.
-/

namespace HeatingBus

inductive DriverCall where
  | start (link : String)
  | stop
  | setLogLevel (level : DriverLogLevel)
  deriving DecidableEq

structure AttachedDriver where
  /-- Why the driver does not start, if it does not. -/
  startFault : Option BusError
  /-- Why the driver does not stop, if it does not. -/
  stopFault : Option BusError
  counters : List (String × Nat)
  /-- What the driver has been asked to do, the first call first. -/
  calls : List DriverCall

structure ExternalDriver where
  /-- Which links exist. -/
  linkExists : String → Bool
  logBits : UInt8
  isRunning : Bool

inductive BusDriver where
  | external (driver : ExternalDriver)
  | attached (driver : AttachedDriver)

namespace BusDriver

def outside (linkExists : String → Bool) : BusDriver :=
  .external ⟨linkExists, 0, false⟩

def record (driver : AttachedDriver) (call : DriverCall) : BusDriver :=
  .attached { driver with calls := driver.calls ++ [call] }

def outcome : Option BusError → Except BusError Unit
  | some error => .error error
  | none => .ok ()

def setLogLevel (driver : BusDriver) (level : DriverLogLevel) : BusDriver :=
  match driver with
  | .external driver => .external { driver with logBits := level.bits }
  | .attached driver => record driver (.setLogLevel level)

def start (driver : BusDriver) (link : String) :
    Except BusError Unit × BusDriver × List LogEntry :=
  match driver with
  | .external driver =>
    if !link.isEmpty ∧ driver.linkExists link then
      (.ok (), .external { driver with isRunning := true }, [.info s!"Using bus link {link}"])
    else (.error (.startup (.linkDoesNotExist link)), .external driver, [])
  | .attached driver => (outcome driver.startFault, record driver (.start link), [])

def stop (driver : BusDriver) : Except BusError Unit × BusDriver :=
  match driver with
  | .external driver => (.ok (), .external { driver with isRunning := false })
  | .attached driver => (outcome driver.stopFault, record driver .stop)

def counters : BusDriver → List (String × Nat)
  | .external driver => [("logging", driver.logBits.toNat), ("running", driver.isRunning.toNat)]
  | .attached driver => driver.counters

end BusDriver

end HeatingBus
