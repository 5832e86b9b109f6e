/-!
# The order of events

The events of one message are delivered in the order of its updates. Every update draws a ticket
while the message is at hand; the ticket is dropped when its event has been delivered, and with it
every earlier ticket counts as delivered too.
-/

namespace HeatingBus

structure EventOrder where
  /-- The number of tickets drawn. -/
  issued : Nat
  /-- One more than the greatest place whose ticket has been dropped. -/
  delivered : Nat
  deriving Repr, DecidableEq

namespace EventOrder

def fresh : EventOrder := ⟨0, 0⟩

def next (order : EventOrder) : Nat := order.issued

def draw (order : EventOrder) : EventOrder :=
  { order with issued := order.issued + 1 }

def drop (order : EventOrder) (place : Nat) : EventOrder :=
  { order with delivered := max order.delivered (place + 1) }

def isTurn (order : EventOrder) (place : Nat) : Bool :=
  place ≤ order.delivered

/-- Whether it is the turn of every ticket that has been drawn. -/
def isSettled (order : EventOrder) : Bool :=
  order.issued ≤ order.delivered

end EventOrder

end HeatingBus
