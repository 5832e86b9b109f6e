import HeatingBus.Engine.Dispatch

/-!
# The receive loop

Once the engine has been started, the receive loop connects the transport and dispatches one
telegram after the other until the engine is stopped. When a queue fails it connects anew. The loop
goes step by step, so that the surroundings may change between two steps.
-/

namespace HeatingBus

inductive ReceiveLoop where
  | starting
  | connecting (progress : ConnectProgress)
  | reconnecting (progress : ConnectProgress)
  | receiving
  | finished

namespace ReceiveLoop

def isOpening : ReceiveLoop → Bool
  | .connecting (.finished _) | .reconnecting (.finished _) => false
  | .connecting _ | .reconnecting _ => true
  | _ => false

def isFinished : ReceiveLoop → Bool
  | .finished => true
  | _ => false

end ReceiveLoop

structure LoopStep where
  loop : ReceiveLoop
  event : Option BusEvent
  engine : Engine

namespace Engine

def dispatchNote (error : BusError) : LogEntry :=
  match error with
  | .unknownMessage _ => .debug error.message
  | _ => .warn error.message

/-- Dispatches a telegram that was received; an error is reported and goes no further. -/
def dispatchReceived (engine : Engine) (telegram : Telegram) : Option BusEvent × Engine :=
  let counted := engine.transport.count fun counters =>
    { counters with framesDispatched := counters.framesDispatched + 1 }
  match { engine with transport := counted }.dispatch telegram with
  | (.ok event, engine) => (event, engine)
  | (.error (.failed error), engine) => (none, engine.say [dispatchNote error])
  | (.error .waiting, engine) => (none, engine)

def finishLoop (engine : Engine) (notes : List LogEntry) : LoopStep :=
  ⟨.finished, none, engine.say (notes ++ [.debug "Receive loop finished"])⟩

def beginReceiving (engine : Engine) (outcome : ConnectOutcome) : LoopStep :=
  let notes := if outcome.bootstrapped then
    [LogEntry.info s!"Discarded {outcome.drained} stale telegrams, requested online devices"]
  else []
  ⟨.receiving, none, engine.say notes⟩

/-- Takes one frame from the inbound queue, or starts to connect anew if that fails. -/
def receiveStep (engine : Engine) : LoopStep :=
  match engine.transport.receive with
  | (.ok (some telegram), transport) =>
    let (event, engine) := { engine with transport }.dispatchReceived telegram
    ⟨.receiving, event, engine⟩
  | (.ok none, transport) => ⟨.receiving, none, { engine with transport }⟩
  | (.error error, transport) =>
    let (progress, transport) := (transport.say
      [.error s!"Receive failed: {error.message}, reconnecting"]).beginReconnect
    ⟨.reconnecting progress, none, { engine with transport }⟩

def advance (engine : Engine) (loop : ReceiveLoop) : LoopStep :=
  match loop with
  | .starting =>
    let (progress, transport) := engine.transport.beginConnect
    ⟨.connecting progress, none, { engine with transport }⟩
  | .connecting (.finished (.ok outcome)) | .reconnecting (.finished (.ok outcome)) =>
    engine.beginReceiving outcome
  | .connecting (.finished (.error (.failed error))) =>
    ⟨.finished, none, engine.say [.debug s!"Receive loop not started: {error.message}"]⟩
  | .reconnecting (.finished (.error (.failed error))) =>
    engine.finishLoop [.debug s!"Reconnect abandoned: {error.message}"]
  | .connecting (.finished (.error .waiting)) | .reconnecting (.finished (.error .waiting)) =>
    ⟨loop, none, engine⟩
  | .connecting progress =>
    let (progress, transport) := engine.transport.openNext progress
    ⟨.connecting progress, none, { engine with transport }⟩
  | .reconnecting progress =>
    let (progress, transport) := engine.transport.openNext progress
    ⟨.reconnecting progress, none, { engine with transport }⟩
  | .receiving => if engine.isRunning then engine.receiveStep else engine.finishLoop []
  | .finished => ⟨.finished, none, engine⟩

/-- Whether the next step of the receive loop would change nothing. -/
def isIdle (engine : Engine) (loop : ReceiveLoop) : Bool :=
  match loop with
  | .finished => true
  | .connecting (.finished (.error .waiting)) | .reconnecting (.finished (.error .waiting)) => true
  | .receiving => engine.isRunning && engine.transport.isQuiet
  | _ => false

end Engine

end HeatingBus
