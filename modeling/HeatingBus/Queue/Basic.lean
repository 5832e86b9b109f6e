import HeatingBus.Error

/-!
# Queues

A bounded queue of frames between the bus driver and the engine. A frame that is too long is
refused, a closed queue refuses everything, and a full one lets the sender wait.
-/

namespace HeatingBus

structure Queue where
  name : String
  /-- The greatest number of frames in the queue. -/
  capacity : Nat
  /-- The greatest length of a frame. -/
  maxSize : Nat
  /-- The frames in the queue, the oldest first. -/
  frames : List Bytes
  closed : Bool
  deriving Repr, DecidableEq

inductive SendOutcome where
  | accepted (queue : Queue)
  /-- The queue is full, so the sender has to wait. -/
  | mustWait
  | refused (error : BusError)
  deriving Repr, DecidableEq

namespace Queue

/-- An empty queue; it has room for at least one frame. -/
def new (name : String) (capacity maxSize : Nat) : Queue where
  name := name
  capacity := max capacity 1
  maxSize := maxSize
  frames := []
  closed := false

def closedError (queue : Queue) : BusError :=
  .io (.queueClosed queue.name)

def checkOpen (queue : Queue) : Except BusError Unit :=
  if queue.closed then .error queue.closedError else .ok ()

def close (queue : Queue) : Queue :=
  { queue with closed := true }

/-- What becomes of a frame that is sent: its length is looked at first, then the state of the
queue. -/
def send (queue : Queue) (frame : Bytes) : SendOutcome :=
  if queue.maxSize < frame.length then
    .refused (.frame (.exceedsQueue frame.length queue.maxSize))
  else if queue.closed then .refused queue.closedError
  else if queue.capacity ≤ queue.frames.length then .mustWait
  else .accepted { queue with frames := queue.frames ++ [frame] }

def receive (queue : Queue) : Except BusError (Option Bytes × Queue) :=
  if queue.closed then .error queue.closedError
  else match queue.frames with
    | [] => .ok (none, queue)
    | frame :: rest => .ok (some frame, { queue with frames := rest })

def length (queue : Queue) : Except BusError Nat :=
  queue.checkOpen.map fun () => queue.frames.length

def isEmpty (queue : Queue) : Except BusError Bool :=
  queue.length.map (· == 0)

def isFull (queue : Queue) : Except BusError Bool :=
  queue.length.map (queue.capacity ≤ ·)

end Queue

end HeatingBus
