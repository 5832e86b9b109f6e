import HeatingBus.Log.Basic
import HeatingBus.OnlineBitmap
import HeatingBus.Registry.Device

/-!
# The registry

What is known of every address of the bus. The online bitmap alone says who is present: an address
that turns up is unidentified, one that goes away is forgotten with all its messages, and only an
address that is present and unidentified can be identified.
-/

namespace HeatingBus

open Text

abbrev addressCount : Nat := 128

/-- The place of an address in the table of addresses; the read flag does not count. -/
def slotOf (address : UInt8) : Fin addressCount where
  val := (withoutReadFlag address).toNat
  isLt := by
    simp only [withoutReadFlag, UInt8.toNat_and]
    exact Nat.lt_of_le_of_lt Nat.and_le_right (by decide)

/-- What is known of an address, and how many devices have been identified there so far. -/
structure Slot where
  state : AddressState
  tenure : Nat

/-- A message of one of the devices that an address has had. -/
structure MessageTenure where
  address : BusAddress
  identification : UInt8
  tenure : Nat
  deriving Repr, DecidableEq

structure EventTicket where
  tenure : MessageTenure
  place : Nat
  deriving Repr, DecidableEq

structure Registry where
  bitmap : OnlineBitmap
  slots : Vector Slot addressCount
  /-- The orders of messages that are forgotten while tickets of theirs are not due yet. -/
  retired : List (MessageTenure × EventOrder)

structure PresenceUpdate where
  registry : Registry
  change : BitmapChange
  notes : List LogEntry

structure Identification where
  registry : Registry
  /-- The device and the ticket of its version message, unless the attempt was in vain. -/
  found : Option (DeviceInfo × EventTicket)
  notes : List LogEntry

namespace Registry

def empty : Registry where
  bitmap := .empty
  slots := Vector.replicate addressCount ⟨.offline, 0⟩
  retired := []

/-! ## Addresses -/

def slot (registry : Registry) (address : UInt8) : Slot :=
  registry.slots.get (slotOf address)

def state (registry : Registry) (address : UInt8) : AddressState :=
  (registry.slot address).state

def device? (registry : Registry) (address : UInt8) : Option Device :=
  (registry.state address).device?

def isIdentified (registry : Registry) (address : UInt8) : Bool :=
  (registry.device? address).isSome

def deviceInfo? (registry : Registry) (address : UInt8) : Option DeviceInfo :=
  (registry.device? address).map Device.info

def devices (registry : Registry) : List DeviceInfo :=
  registry.slots.toList.filterMap fun slot => slot.state.device?.map Device.info

def message? (registry : Registry) (address identification : UInt8) : Option Message := do
  let device ← registry.device? address
  let cached ← device.cached? identification
  return cached.message

def value? (registry : Registry) (address identification : UInt8) (field : String) :
    Option Value := do
  (← registry.message? address identification).value? field

def setState (registry : Registry) (address : UInt8) (state : AddressState) : Registry :=
  let index := slotOf address
  let slot := { registry.slots.get index with state }
  { registry with slots := registry.slots.set index.val slot index.isLt }

def store (registry : Registry) (address : UInt8) (device : Device) (identification : UInt8)
    (cached : CachedMessage) : Registry :=
  registry.setState address (.identified (device.store identification cached))

/-! ## Presence -/

/-- The orders of the messages of an address that somebody still waits for. -/
def unsettled (registry : Registry) (address : BusAddress) : List (MessageTenure × EventOrder) :=
  match registry.device? address with
  | none => []
  | some device =>
    device.messageIds.filterMap fun identification => do
      let cached ← device.cached? identification
      if cached.order.isSettled then none
      else some (⟨address, identification, (registry.slot address).tenure⟩, cached.order)

def arrivalNote (registry : Registry) (address : BusAddress) : LogEntry :=
  .debug ("Device 0x" ++ hexByteUpper address ++
    s!" came online ({(registry.state address).arrive.name})")

def departureNote? (registry : Registry) (address : BusAddress) : Option LogEntry :=
  (registry.device? address).map fun device =>
    .info ("Removing device 0x" ++ hexByteUpper address ++
      s!" ({device.product.name}) with {device.messageIds.length} cached messages")

def slotAfter (change : BitmapChange) (address : BusAddress) (slot : Slot) : Slot :=
  if address ∈ change.cameOnline then { slot with state := slot.state.arrive }
  else if address ∈ change.wentOffline then { slot with state := .offline }
  else slot

def applyOnlineUpdate (registry : Registry) (update : Bytes) (offset : Nat) : PresenceUpdate :=
  let newer := registry.bitmap.withUpdate update offset
  let change := registry.bitmap.diff newer
  { registry :=
      { bitmap := newer
        slots := registry.slots.mapFinIdx fun index slot _ =>
          slotAfter change (UInt8.ofNat index) slot
        retired := registry.retired ++ change.wentOffline.flatMap registry.unsettled }
    change
    notes := change.cameOnline.map registry.arrivalNote ++
      change.wentOffline.filterMap registry.departureNote? }

/-! ## Identification -/

def ignoredNote (registry : Registry) (address : UInt8) (product : Product) : LogEntry :=
  .debug (s!"Ignoring {product.name} for 0x" ++ hexByteUpper (withoutReadFlag address) ++
    s!", address is {(registry.state address).name}")

def identify (registry : Registry) (address : UInt8) (product : Product) (version : Message) :
    Identification :=
  match registry.state address with
  | .onlineUnidentified =>
    let place := EventOrder.fresh.next
    let cached : CachedMessage := ⟨version, EventOrder.fresh.draw⟩
    let device := (Device.new (withoutReadFlag address) product).store version.identification cached
    let index := slotOf address
    let tenure := (registry.slot address).tenure + 1
    { registry :=
        { registry with
          slots := registry.slots.set index.val ⟨.identified device, tenure⟩ index.isLt }
      found := some (device.info,
        ⟨⟨withoutReadFlag address, version.identification, tenure⟩, place⟩)
      notes := [] }
  | _ => ⟨registry, none, [registry.ignoredNote address product]⟩

/-! ## Tickets -/

def order? (registry : Registry) (tenure : MessageTenure) : Option EventOrder :=
  let isCurrent := (registry.slot tenure.address).tenure = tenure.tenure
  if isCurrent ∧ registry.isIdentified tenure.address then
    (do (← registry.device? tenure.address).cached? tenure.identification).map CachedMessage.order
  else (registry.retired.find? (·.1 = tenure)).map (·.2)

def isTurn (registry : Registry) (ticket : EventTicket) : Bool :=
  match registry.order? ticket.tenure with
  | some order => order.isTurn ticket.place
  -- An order that is forgotten had nobody waiting.
  | none => true

def drawTicket? (registry : Registry) (address identification : UInt8) :
    Option (EventTicket × Registry) := do
  let device ← registry.device? address
  let cached ← device.cached? identification
  let tenure := ⟨withoutReadFlag address, identification, (registry.slot address).tenure⟩
  return (⟨tenure, cached.order.next⟩,
    registry.store address device identification { cached with order := cached.order.draw })

/-- The registry after a ticket of a forgotten message was dropped. -/
def dropRetired (registry : Registry) (tenure : MessageTenure) (place : Nat) : Registry :=
  let retired := registry.retired.map fun (key, order) =>
    if key = tenure then (key, order.drop place) else (key, order)
  { registry with retired := retired.filter fun (_, order) => !order.isSettled }

def dropTicket (registry : Registry) (ticket : EventTicket) : Registry :=
  let ⟨tenure, place⟩ := ticket
  match registry.device? tenure.address with
  | some device =>
    if (registry.slot tenure.address).tenure = tenure.tenure then
      match device.cached? tenure.identification with
      | some cached =>
        registry.store tenure.address device tenure.identification
          { cached with order := cached.order.drop place }
      | none => registry
    -- The device of the ticket has gone, and another one has been identified in its place.
    else registry.dropRetired tenure place
  | none => registry.dropRetired tenure place

end Registry

end HeatingBus
