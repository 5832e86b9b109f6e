import HeatingBus.Catalog.KnownMessages
import HeatingBus.Proofs.Engine.Writes

/-!
# Runs

The calls of an engine, made one after the other. Between two calls others may use the queues and
the driver, so that the engine finds its transport in any state.
-/

namespace HeatingBus

namespace Engine

inductive Call where
  | dispatch (telegram : Telegram)
  | setValue (address identification : UInt8) (name : String) (value : Value)
  | readRequest (address : BusAddress) (identification : UInt8)
  /-- Others leave the transport in some state. -/
  | surroundings (transport : Transport)

def perform (engine : Engine) : Call → Engine
  | .dispatch telegram => (engine.dispatch telegram).2
  | .setValue address identification name value =>
    (engine.setValue address identification name value).2
  | .readRequest address identification => (engine.readRequest address identification).2
  | .surroundings transport => { engine with transport }

def run (engine : Engine) (calls : List Call) : Engine := calls.foldl perform engine

/-! ## A bus with a boiler -/

def versionLayout : MessageLayout where
  row := .readOnly versionMessage "Version" 3 KnownMessages.versionFields
  index := _
  accepted := rfl

def onlineLayout : MessageLayout where
  row := .readOnly onlineMessage "UbaDevices" 13 []
  index := _
  accepted := rfl

def setValuesLayout : MessageLayout where
  row := .acceptingWrites (.readOnly 0x1A "UbaSetValues" 4 KnownMessages.ubaSetValuesFields)
  index := _
  accepted := rfl

def boilerEngine : Engine where
  config := {}
  messages := ⟨[versionLayout, onlineLayout, setValuesLayout]⟩
  devices := ⟨[⟨123, .boiler, "Boiler", .none, false⟩], []⟩
  registry := .empty
  transport := .new {} (.outside fun _ => true) .empty
  sink := .listener
  isRunning := false

def connectedTransport : Transport :=
  { boilerEngine.transport with
    broker := { Broker.empty with queues := [.new "in" 8 32, .new "out" 8 32] }
    inbound := some 0
    outbound := some 1 }

def boilerDiscovery : List Call :=
  [.dispatch (.sealed 8 0 onlineMessage 0 [1]),
    .dispatch (.sealed 8 0 versionMessage 0 [123, 1, 2])]

end Engine

end HeatingBus
