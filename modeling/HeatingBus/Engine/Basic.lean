import HeatingBus.Catalog.Devices
import HeatingBus.Catalog.Messages
import HeatingBus.Engine.Event
import HeatingBus.Registry.Basic
import HeatingBus.Text.Quoted
import HeatingBus.Transport.Connect

/-!
# The engine

The engine follows the bus: it keeps the registry up to date with the telegrams that arrive, asks
new devices who they are, writes values to devices, and reports to the application.
-/

namespace HeatingBus

open Text

structure Engine where
  config : EngineConfig
  messages : MessageCatalog
  devices : DeviceCatalog
  registry : Registry
  transport : Transport
  sink : EventSink
  isRunning : Bool

namespace Engine

/-! ## Construction -/

/-- The first request for a message that is not known, among those that are made once a product is
identified. -/
def unknownRequest? (messages : MessageCatalog) (devices : DeviceCatalog) :
    Option (DeviceType × UInt8) :=
  devices.products.findSome? fun product =>
    ((devices.initialRequests product.deviceType).find? (!messages.contains ·)).map
      (product.deviceType, ·)

def checkParts (config : EngineConfig) (messages : MessageCatalog) (devices : DeviceCatalog)
    (transport : Transport) : Except ConfigurationFault Unit := do
  config.check
  if transport.clientId ≠ config.clientId then
    throw (.clientMismatch transport.clientId config.clientId)
  match unknownRequest? messages devices with
  | some (deviceType, identification) =>
    throw (.unknownInitialRequest identification deviceType.label)
  | none => return ()

def new (config : EngineConfig) (messages : MessageCatalog) (devices : DeviceCatalog)
    (transport : Transport) (sink : EventSink) : Except BusError Engine :=
  match checkParts config messages devices transport with
  | .ok () => .ok ⟨config, messages, devices, .empty, transport, sink, false⟩
  | .error fault => .error (.configuration fault)

def describe (engine : Engine) : String :=
  "ProtocolEngine \x7b client_id: " ++ toString engine.config.clientId.toNat ++ ", link: " ++
    quoted engine.config.link ++ ", running: " ++ (if engine.isRunning then "true" else "false") ++
    " \x7d"

/-! ## Requests -/

def say (engine : Engine) (entries : List LogEntry) : Engine :=
  { engine with transport := engine.transport.say entries }

def send (engine : Engine) (telegram : Telegram) : Except Halt Unit × Engine :=
  let (result, transport) := engine.transport.send telegram
  (result, { engine with transport })

def readRequest (engine : Engine) (address : BusAddress) (identification : UInt8) :
    Except Halt Unit × Engine :=
  let note := LogEntry.debug ("Reading message 0x" ++ hexByteUpper identification ++ " from 0x" ++
    hexByte address)
  (engine.say [note]).send (.readRequest engine.config.clientId address identification)

structure FollowUp where
  address : BusAddress
  identification : UInt8
  /-- What is said before. -/
  announcement : List LogEntry
  /-- How a failure is reported. -/
  failureText : String

def request (engine : Engine) : List FollowUp → Except Halt Unit × Engine
  | [] => (.ok (), engine)
  | followUp :: rest =>
    match (engine.say followUp.announcement).readRequest followUp.address
        followUp.identification with
    | (.ok (), engine) => engine.request rest
    -- A failure is reported and does not stop the others.
    | (.error (.failed error), engine) =>
      (engine.say [.warn s!"{followUp.failureText} failed: {error.message}"]).request rest
    | (.error .waiting, engine) => (.error .waiting, engine)

/-! ## Starting and stopping -/

/-- Starts the bus driver. The receive loop goes on from there. -/
def start (engine : Engine) : Except BusError Unit × Engine :=
  if engine.isRunning then (.error (.startup .alreadyRunning), engine)
  else
    let (result, transport) := engine.transport.start engine.config.link
    match result with
    | .ok () =>
      let note := LogEntry.info (s!"EMS engine started on {engine.config.link} as 0x" ++
        hexByte engine.config.clientId)
      (.ok (), { engine with transport := transport.say [note], isRunning := true })
    | .error error =>
      let note := LogEntry.error s!"Cannot start bus on {engine.config.link}: {error.message}"
      (.error error, { engine with transport := transport.say [note] })

def stop (engine : Engine) : Except BusError Unit × Engine :=
  if engine.isRunning then
    let (result, transport) := (engine.transport.say [.info "Stopping EMS engine"]).close
    (result, { engine with transport, isRunning := false })
  else (.ok (), engine)

def setLogLevel (engine : Engine) (level : DriverLogLevel) : Engine :=
  { engine with transport := engine.transport.setLogLevel level }

end Engine

end HeatingBus
