import HeatingBus.Catalog.Messages
import HeatingBus.Configuration.Basic
import HeatingBus.Queue.Broker
import HeatingBus.Transport.Counters
import HeatingBus.Transport.Driver

/-!
# The transport

The transport carries telegrams between the engine and the bus driver through two queues. Both
queues are connected or neither is. A queue that fails takes the connection down with it; a frame
that is refused does not.
-/

namespace HeatingBus

open Text

/-- Why an operation has no result. -/
inductive Halt where
  | failed (error : BusError)
  /-- The operation waits for something that has not happened yet. -/
  | waiting
  deriving Repr, DecidableEq

structure Journal where
  /-- The diagnostics of the library. -/
  trace : List LogEntry
  /-- The telegram dumps for the embedding application. -/
  dumps : List LogEntry
  deriving Repr, DecidableEq

structure Transport where
  config : TransportConfig
  /-- The address that telegrams are sent from. -/
  clientId : BusAddress
  logger : TelegramLogger
  logLevel : DriverLogLevel
  driver : BusDriver
  /-- The queues that can be opened. -/
  broker : Broker
  inbound : Option QueueHandle
  outbound : Option QueueHandle
  isRunning : Bool
  counters : TransportCounters
  journal : Journal

namespace Transport

def new (config : EngineConfig) (driver : BusDriver) (broker : Broker) : Transport where
  config := config.transport
  clientId := config.clientId
  logger := .toDiagnostics config.telegramLogging
  logLevel := config.driverLogLevel
  driver := driver
  broker := broker
  inbound := none
  outbound := none
  isRunning := false
  counters := {}
  journal := ⟨[], []⟩

def isConnected (transport : Transport) : Bool :=
  transport.inbound.isSome && transport.outbound.isSome

def disconnect (transport : Transport) : Transport :=
  { transport with inbound := none, outbound := none }

def count (transport : Transport) (update : TransportCounters → TransportCounters) : Transport :=
  { transport with counters := update transport.counters }

/-! ## Diagnostics -/

def say (transport : Transport) (entries : List LogEntry) : Transport :=
  { transport with
    journal := { transport.journal with trace := transport.journal.trace ++ entries } }

def dump (transport : Transport) (direction : String) (frame : Bytes) : Transport :=
  if transport.logLevel.logsPackets then
    let entries := transport.logger.lines direction frame
    match transport.logger.target with
    | .nowhere => transport
    | .listener =>
      { transport with
        journal := { transport.journal with dumps := transport.journal.dumps ++ entries } }
    | .diagnostics => transport.say (entries.map TelegramLogger.marked)
  else transport

/-! ## The driver -/

def setLogLevel (transport : Transport) (level : DriverLogLevel) : Transport :=
  { transport with logLevel := level, driver := transport.driver.setLogLevel level }

def startupError : BusError → BusError
  | .startup fault => .startup fault
  | error => .startup (.other error.message)

def start (transport : Transport) (link : String) : Except BusError Unit × Transport :=
  let driver := transport.driver.setLogLevel transport.logLevel
  let (result, driver, notes) := driver.start link
  let transport := { transport with driver }.say notes
  match result with
  | .ok () => (.ok (), { transport with isRunning := true })
  | .error error => (.error (startupError error), transport)

def close (transport : Transport) : Except BusError Unit × Transport :=
  let (result, driver) := transport.driver.stop
  (result, { transport.disconnect with driver, isRunning := false })

def stats (transport : Transport) : List (String × Nat) :=
  transport.counters.merge transport.driver.counters

/-! ## Telegrams -/

/-- Whether an error is about a single frame and not about the queue. -/
def isFrameError : BusError → Bool
  | .frame _ => true
  | _ => false

def send (transport : Transport) (telegram : Telegram) : Except Halt Unit × Transport :=
  match transport.outbound with
  | none => (.error (.failed (.connection .outboundNotConnected)), transport)
  | some handle =>
    let frame := telegram.toBytes
    let transport := transport.dump "TX" frame
    match (transport.broker.queue handle).send frame with
    | .accepted queue =>
      let transport := { transport with broker := transport.broker.update handle queue }
      (.ok (), transport.count fun counters =>
        { counters with framesSent := counters.framesSent + 1 })
    | .mustWait => (.error .waiting, transport)
    | .refused error =>
      let transport := transport.count fun counters =>
        { counters with sendFailures := counters.sendFailures + 1 }
      (.error (.failed error), if isFrameError error then transport else transport.disconnect)

def accept (transport : Transport) (frame : Bytes) : Option Telegram × Transport :=
  -- A frame that is too short is dropped without a word, one that is too long or has another checksum
  -- is dropped with a warning.
  if frame.length < minTelegramLength then
    (none, transport.count fun counters =>
      { counters with shortFrames := counters.shortFrames + 1 })
  else if transport.config.maxFrame < frame.length then
    let transport := transport.count fun counters =>
      { counters with oversizeFrames := counters.oversizeFrames + 1 }
    (none, transport.say [.warn s!"Dropped oversize frame of {frame.length} bytes"])
  else
    let transport := transport.dump "RX" frame
    match Telegram.parse frame with
    | .ok telegram =>
      (some telegram, transport.count fun counters =>
        { counters with framesReceived := counters.framesReceived + 1 })
    | .error error =>
      let transport := transport.count fun counters =>
        { counters with checksumFailures := counters.checksumFailures + 1 }
      (none, transport.say [.warn ("Dropped frame " ++ hexString frame ++ s!": {error.message}")])

/-- Takes one frame from the inbound queue. There is no telegram if the queue is empty or the frame
was dropped. -/
def receive (transport : Transport) : Except BusError (Option Telegram) × Transport :=
  match transport.inbound with
  | none => (.error (.connection .inboundNotConnected), transport)
  | some handle =>
    match (transport.broker.queue handle).receive with
    | .error error => (.error error, transport.disconnect)
    | .ok (none, _) => (.ok none, transport)
    | .ok (some frame, queue) =>
      let transport := { transport with broker := transport.broker.update handle queue }
      let (telegram, transport) := transport.accept frame
      (.ok telegram, transport)

/-- Whether a receive would find the inbound queue connected, open and empty. -/
def isQuiet (transport : Transport) : Bool :=
  match transport.inbound with
  | none => false
  | some handle =>
    match (transport.broker.queue handle).receive with
    | .ok (none, _) => true
    | _ => false

end Transport

end HeatingBus
