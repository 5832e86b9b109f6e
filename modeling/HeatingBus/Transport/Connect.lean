import HeatingBus.Transport.Basic

/-!
# Connecting

The driver creates the queues when it is ready, so the transport tries again and again to open them
for as long as it is running. An attempt opens the outbound queue and then the inbound one; between
two opens the surroundings may change, so connecting goes step by step. An inbound queue that is
full at the first attempt holds stale telegrams: they are discarded, and the boiler is asked who is
present.
-/

namespace HeatingBus

structure ConnectOutcome where
  /-- The number of attempts, with the successful one. -/
  attempts : Nat
  /-- The number of stale telegrams that were discarded. -/
  drained : Nat
  /-- Whether the boiler was asked who is present. -/
  bootstrapped : Bool
  deriving Repr, DecidableEq

inductive ConnectProgress where
  | openingOutbound (attempt : Nat)
  | openingInbound (attempt : Nat) (outbound : QueueHandle)
  | finished (result : Except Halt ConnectOutcome)

namespace Transport

/-- Starts the next attempt after `made` of them, unless the transport has been stopped. -/
def beginAttempt (transport : Transport) (made : Nat) : ConnectProgress × Transport :=
  if transport.isRunning then
    (.openingOutbound (made + 1), transport.count fun counters =>
      { counters with connectAttempts := counters.connectAttempts + 1 })
  else (.finished (.error (.failed (.connection .stoppedBeforeConnecting))), transport)

def failAttempt (transport : Transport) (attempt : Nat) (error : BusError) :
    ConnectProgress × Transport :=
  (transport.disconnect.say
    [.debug s!"Connect attempt {attempt} failed: {error.message}"]).beginAttempt attempt

def drain (transport : Transport) (handle : QueueHandle) : Nat × Transport :=
  let queue := transport.broker.queue handle
  let drained := queue.frames.length
  (drained, { transport with
    broker := transport.broker.update handle { queue with frames := [] } }.count fun counters =>
      { counters with framesDrained := counters.framesDrained + drained })

def presenceRequest (transport : Transport) : Telegram :=
  .readRequest transport.clientId transport.config.boilerAddress onlineMessage

/-- Discards what is stale in the inbound queue of a first attempt. -/
def settle (transport : Transport) (attempt : Nat) (inbound : QueueHandle) :
    Except Halt ConnectOutcome × Transport :=
  match (transport.broker.queue inbound).isFull with
  | .error error => (.error (.failed error), transport)
  | .ok isFull =>
    -- What a later attempt finds has arrived since the first one.
    if 1 < attempt ∨ !isFull then (.ok ⟨attempt, 0, false⟩, transport)
    else
      let (drained, transport) := transport.drain inbound
      let transport := transport.say [.info s!"Discarded {drained} stale telegrams"]
      let (result, transport) := transport.send transport.presenceRequest
      (result.map fun () => ⟨attempt, drained, true⟩, transport)

def join (transport : Transport) (attempt : Nat) (inbound outbound : QueueHandle) :
    ConnectProgress × Transport :=
  let connected := { transport with inbound := some inbound, outbound := some outbound }
  match connected.settle attempt inbound with
  | (.ok outcome, transport) =>
    let queues := s!"{transport.config.inboundQueue} and {transport.config.outboundQueue}"
    (.finished (.ok outcome), transport.say [.info s!"Connected to {queues}"])
  | (.error (.failed error), transport) => transport.failAttempt attempt error
  | (.error .waiting, transport) => (.finished (.error .waiting), transport)

def openQueue (transport : Transport) (name : String) : Except BusError QueueHandle × Transport :=
  let (result, broker) := transport.broker.openQueue name
  (result, { transport with broker })

def openNext (transport : Transport) (progress : ConnectProgress) : ConnectProgress × Transport :=
  match progress with
  | .openingOutbound attempt =>
    match transport.openQueue transport.config.outboundQueue with
    | (.ok outbound, transport) => (.openingInbound attempt outbound, transport)
    | (.error error, transport) => transport.failAttempt attempt error
  | .openingInbound attempt outbound =>
    match transport.openQueue transport.config.inboundQueue with
    | (.ok inbound, transport) => transport.join attempt inbound outbound
    | (.error error, transport) => transport.failAttempt attempt error
  | .finished result => (.finished result, transport)

/-- Opens queues until connecting is done, at most `fuel` times. -/
def proceed : Nat → ConnectProgress → Transport → Except Halt ConnectOutcome × Transport
  | _, .finished result, transport => (result, transport)
  | 0, _, transport => (.error .waiting, transport)
  | fuel + 1, progress, transport =>
    let (progress, transport) := transport.openNext progress
    proceed fuel progress transport

def beginConnect (transport : Transport) : ConnectProgress × Transport :=
  transport.beginAttempt 0

def beginReconnect (transport : Transport) : ConnectProgress × Transport :=
  (transport.disconnect.count fun counters =>
    { counters with reconnects := counters.reconnects + 1 }).beginConnect

def connect (transport : Transport) (fuel : Nat) : Except Halt ConnectOutcome × Transport :=
  let (progress, transport) := transport.beginConnect
  transport.proceed fuel progress

def reconnect (transport : Transport) (fuel : Nat) : Except Halt ConnectOutcome × Transport :=
  let (progress, transport) := transport.beginReconnect
  transport.proceed fuel progress

end Transport

end HeatingBus
