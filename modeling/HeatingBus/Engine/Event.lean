import HeatingBus.Registry.Device

/-!
# Events

What the engine reports to the application: a device was identified, or a message of an identified
device arrived. An event carries the message as it was at that moment.
-/

namespace HeatingBus

open Text

inductive EventKind where
  /-- A device was identified; the message is its version message. -/
  | discovered
  /-- A message of an identified device arrived, whether it changed a field or not. -/
  | updated
  deriving Repr, DecidableEq

structure BusEvent where
  kind : EventKind
  device : DeviceInfo
  message : Message
  /-- The names of the fields that changed, in the order of the fields. -/
  changedFields : List String

namespace BusEvent

def discoveryLine (device : DeviceInfo) : String :=
  "🔍 0x" ++ hexByte device.address ++
    s!": {device.deviceType.label} {device.productName} (product {device.productId}" ++
    (if device.readOnly then ", read-only" else "") ++ ")"

def fieldLine (event : BusEvent) (field : Field) : String :=
  let place := "0x" ++ hexByte event.device.address ++ " " ++
    padRight 22 event.message.layout.name ++ " " ++ padRight 28 field.label
  match event.message.value? field.name with
  | some value => "📈 " ++ place ++ " " ++ field.display value
  | none => "❓ " ++ place ++ " (undecodable)"

def lines (event : BusEvent) : List String :=
  match event.kind with
  | .discovered => [discoveryLine event.device]
  | .updated =>
    event.changedFields.filterMap fun name =>
      (event.message.layout.field? name).map event.fieldLine

end BusEvent

inductive EventSink where
  /-- To the application. -/
  | listener
  /-- To the application through a channel that it may have given up. -/
  | channel (isOpen : Bool)
  | nowhere
  deriving Repr, DecidableEq

namespace EventSink

/-- What of an event reaches the application. -/
def deliver (sink : EventSink) (event : BusEvent) : Option BusEvent :=
  match sink with
  | .listener | .channel true => some event
  | .channel false | .nowhere => none

def notes : EventSink → List LogEntry
  | .channel false => [.debug "Event receiver dropped"]
  | _ => []

end EventSink

end HeatingBus
