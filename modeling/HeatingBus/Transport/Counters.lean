/-!
# Counters of the transport

How many attempts to connect there were, and what became of every frame.
-/

namespace HeatingBus

structure TransportCounters where
  connectAttempts : Nat := 0
  reconnects : Nat := 0
  framesReceived : Nat := 0
  shortFrames : Nat := 0
  oversizeFrames : Nat := 0
  checksumFailures : Nat := 0
  framesDispatched : Nat := 0
  framesSent : Nat := 0
  sendFailures : Nat := 0
  framesDrained : Nat := 0
  deriving Repr, DecidableEq

namespace TransportCounters

def named (counters : TransportCounters) : List (String × Nat) :=
  [("connect_attempts", counters.connectAttempts), ("reconnects", counters.reconnects),
    ("frames_received", counters.framesReceived), ("short_frames", counters.shortFrames),
    ("oversize_frames", counters.oversizeFrames),
    ("checksum_failures", counters.checksumFailures),
    ("frames_dispatched", counters.framesDispatched), ("frames_sent", counters.framesSent),
    ("send_failures", counters.sendFailures), ("frames_drained", counters.framesDrained)]

/-- The counters of the transport and those of a driver with other names. -/
def merge (counters : TransportCounters) (others : List (String × Nat)) : List (String × Nat) :=
  counters.named ++ others.filter fun (name, _) => !counters.named.any (·.1 = name)

end TransportCounters

end HeatingBus
