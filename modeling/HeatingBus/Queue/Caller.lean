import HeatingBus.Queue.Basic

/-!
# Callers at a queue

A caller brings a frame or wants one. It is served at once, or it waits until the queue has room,
has a frame, or is closed.
-/

namespace HeatingBus

inductive QueueCaller where
  | sender (frame : Bytes)
  | receiver
  deriving Repr, DecidableEq

/-- What a caller gets, and the queue after that; nothing while the caller has to wait. -/
def Queue.serve? (queue : Queue) : QueueCaller → Option (Except BusError (Option Bytes) × Queue)
  | .sender frame =>
    match queue.send frame with
    | .accepted queue => some (.ok none, queue)
    | .mustWait => none
    | .refused error => some (.error error, queue)
  | .receiver =>
    match queue.receive with
    | .ok (some frame, queue) => some (.ok (some frame), queue)
    | .ok (none, _) => none
    | .error error => some (.error error, queue)

end HeatingBus
