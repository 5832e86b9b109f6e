import HeatingBus.Catalog.Devices
import HeatingBus.Message.Basic
import HeatingBus.Registry.EventOrder
import HeatingBus.Telegram

/-!
# Devices

An identified device: its product and what is known of its messages. A message is kept from the
first time that it is heard of or written to.
-/

namespace HeatingBus

structure DeviceInfo where
  address : BusAddress
  productId : UInt8
  productName : String
  deviceType : DeviceType
  variant : ProductVariant
  readOnly : Bool
  deriving Repr, DecidableEq

structure CachedMessage where
  message : Message
  order : EventOrder

def CachedMessage.ofMessage (message : Message) : CachedMessage :=
  ⟨message, .fresh⟩

structure Device where
  address : BusAddress
  product : Product
  /-- The messages by their codes. -/
  messages : Vector (Option CachedMessage) 256

namespace Device

def new (address : BusAddress) (product : Product) : Device :=
  ⟨address, product, Vector.replicate 256 none⟩

def info (device : Device) : DeviceInfo where
  address := device.address
  productId := device.product.id
  productName := device.product.name
  deviceType := device.product.deviceType
  variant := device.product.variant
  readOnly := device.product.readOnly

def cached? (device : Device) (identification : UInt8) : Option CachedMessage :=
  device.messages.get ⟨identification.toNat, identification.toNat_lt⟩

/-- The message of a layout; one that is not kept yet is empty. -/
def cachedOrNew (device : Device) (layout : MessageLayout) : CachedMessage :=
  (device.cached? layout.identification).getD (.ofMessage (.new layout))

def store (device : Device) (identification : UInt8) (cached : CachedMessage) : Device :=
  { device with
    messages := device.messages.set identification.toNat (some cached) identification.toNat_lt }

def messageIds (device : Device) : List UInt8 :=
  ((List.range 256).map UInt8.ofNat).filter fun identification =>
    (device.cached? identification).isSome

end Device

inductive AddressState where
  | offline
  /-- Present, with a product that is not known, or not yet. -/
  | onlineUnidentified
  | identified (device : Device)

namespace AddressState

def device? : AddressState → Option Device
  | identified device => some device
  | _ => none

def name : AddressState → String
  | offline => "offline"
  | onlineUnidentified => "online, unidentified"
  | identified _ => "identified"

def arrive : AddressState → AddressState
  | offline => onlineUnidentified
  | state => state

end AddressState

end HeatingBus
