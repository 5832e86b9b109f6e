import HeatingBus.Log.DriverLevel
import HeatingBus.Log.Telegrams
import HeatingBus.Text.Blank

/-!
# Configuration

What the engine and its connection to the bus driver are told, with a default for everything, and
the rules that a configuration has to keep.
-/

namespace HeatingBus

structure TransportConfig where
  /-- The queue that telegrams are read from. -/
  inboundQueue : String := "/ems_bus_rx"
  /-- The queue that telegrams are written to. -/
  outboundQueue : String := "/ems_bus_tx"
  /-- The number of frames that a queue is expected to hold. -/
  capacity : Nat := 10
  /-- The greatest length of a frame. -/
  maxFrame : Nat := maxTelegramLength
  /-- The time between two attempts to connect, in milliseconds. -/
  retryInterval : Nat := 1000
  /-- The longest time that one receive waits, in milliseconds. -/
  receiveTimeout : Nat := 1000
  /-- The address of the boiler, which is the bus master. -/
  boilerAddress : BusAddress := 0x08
  deriving Repr, DecidableEq

structure EngineConfig where
  /-- The serial link of the bus, as the driver knows it. -/
  link : String := "/dev/ttyAMA0"
  /-- The address that the engine sends from. -/
  clientId : BusAddress := 0x0B
  /-- The verbosity of the driver, in bits. -/
  logLevel : UInt8 := DriverLogLevel.standard.bits
  /-- How telegrams are dumped. -/
  telegramLogging : LoggingMode := .interpreted
  transport : TransportConfig := {}
  deriving Repr, DecidableEq

def IsBusAddress (address : UInt8) : Prop :=
  address ≠ 0 ∧ address ≤ 0x7F

instance (address : UInt8) : Decidable (IsBusAddress address) :=
  inferInstanceAs (Decidable (_ ∧ _))

namespace TransportConfig

/-- Whether a text is the name of a queue: a slash and something after it. -/
def isQueueName (name : String) : Bool :=
  match name.toList with
  | '/' :: _ :: _ => true
  | _ => false

def check (config : TransportConfig) : Except ConfigurationFault Unit := do
  if !isQueueName config.inboundQueue then
    throw (.queueName "inbound_queue" config.inboundQueue)
  if !isQueueName config.outboundQueue then
    throw (.queueName "outbound_queue" config.outboundQueue)
  if config.inboundQueue = config.outboundQueue then throw .sameQueues
  if config.capacity = 0 then throw .zeroCapacity
  if config.maxFrame < minTelegramLength ∨ maxTelegramLength < config.maxFrame then
    throw (.maxFrame minTelegramLength maxTelegramLength config.maxFrame)
  if ¬ IsBusAddress config.boilerAddress then
    throw (.notABusAddress "boiler_address" config.boilerAddress)

end TransportConfig

namespace EngineConfig

def check (config : EngineConfig) : Except ConfigurationFault Unit := do
  if Text.isAllBlank config.link then throw .emptyLink
  if ¬ IsBusAddress config.clientId then throw (.notABusAddress "client_id" config.clientId)
  if config.clientId = config.transport.boilerAddress then throw (.clientIsBoiler config.clientId)
  config.transport.check

def validated (config : EngineConfig) : Except BusError EngineConfig :=
  match config.check with
  | .ok () => .ok config
  | .error fault => .error (.configuration fault)

def driverLogLevel (config : EngineConfig) : DriverLogLevel :=
  .ofBits config.logLevel

end EngineConfig

end HeatingBus
