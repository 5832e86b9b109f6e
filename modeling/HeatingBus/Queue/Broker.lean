import HeatingBus.Queue.Basic

/-!
# The broker

Queues are created under names and opened by name. A name can be given up while those who have
opened its queue go on with it; a queue created under the name later is another one.
-/

namespace HeatingBus

abbrev QueueHandle := Nat

structure Broker where
  queues : List Queue
  names : List (String × QueueHandle)
  /-- The number of opens that are going to fail. -/
  failingOpens : Nat
  /-- The number of opens so far. -/
  openAttempts : Nat
  deriving Repr, DecidableEq

namespace Broker

def empty : Broker := ⟨[], [], 0, 0⟩

/-- What a handle that was never given out stands for. -/
def missingQueue : Queue := { Queue.new "" 1 0 with closed := true }

def queue (broker : Broker) (handle : QueueHandle) : Queue :=
  broker.queues.getD handle missingQueue

def handle? (broker : Broker) (name : String) : Option QueueHandle :=
  (broker.names.find? (·.1 = name)).map (·.2)

def update (broker : Broker) (handle : QueueHandle) (queue : Queue) : Broker :=
  { broker with queues := broker.queues.set handle queue }

def add (broker : Broker) (queue : Queue) : QueueHandle × Broker :=
  (broker.queues.length, { broker with queues := broker.queues ++ [queue] })

def create (broker : Broker) (name : String) (capacity maxSize : Nat) : QueueHandle × Broker :=
  match broker.handle? name with
  | some handle => (handle, broker)
  | none =>
    let (handle, broker) := broker.add (.new name capacity maxSize)
    (handle, { broker with names := broker.names ++ [(name, handle)] })

def unlink (broker : Broker) (name : String) : Broker :=
  { broker with names := broker.names.filter (·.1 ≠ name) }

def shut (broker : Broker) (handle : QueueHandle) : Broker :=
  broker.update handle (broker.queue handle).close

def close (broker : Broker) (name : String) : Broker :=
  match broker.handle? name with
  | some handle => (broker.shut handle).unlink name
  | none => broker

def failNextOpens (broker : Broker) (count : Nat) : Broker :=
  { broker with failingOpens := count }

def openQueue (broker : Broker) (name : String) : Except BusError QueueHandle × Broker :=
  let broker := { broker with openAttempts := broker.openAttempts + 1 }
  if 0 < broker.failingOpens then
    (.error (.connection (.queueNotAvailable name)),
      { broker with failingOpens := broker.failingOpens - 1 })
  else match broker.handle? name with
    | some handle => (.ok handle, broker)
    | none => (.error (.connection (.queueDoesNotExist name)), broker)

/-- Whether the operating system takes a name for a queue: it must not hold a zero character. -/
def checkSystemName (name : String) : Except BusError Unit :=
  if name.toList.contains '\x00' then .error (.configuration (.invalidQueueName name)) else .ok ()

end Broker

end HeatingBus
