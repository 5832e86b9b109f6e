import HeatingBus.Text.Hex

/-!
# Device catalogues

The products that devices report in their version message. Several products may share a number; the
first one counts, so the order of a catalogue matters. For every type of device the catalogue says
which messages to ask for once a device of the type is identified.
-/

namespace HeatingBus

inductive DeviceType where
  | none
  | serviceKey
  | boiler
  | thermostat
  | mixer
  | solar
  | heatPump
  | gateway
  | other
  | switch
  | controller
  | connector
  | unknown
  deriving Repr, DecidableEq

namespace DeviceType

def all : List DeviceType :=
  [none, serviceKey, boiler, thermostat, mixer, solar, heatPump, gateway, other, switch, controller,
    connector, unknown]

def code : DeviceType → Nat
  | none => 0
  | serviceKey => 1
  | boiler => 2
  | thermostat => 3
  | mixer => 4
  | solar => 5
  | heatPump => 6
  | gateway => 7
  | other => 8
  | switch => 9
  | controller => 10
  | connector => 11
  | unknown => 12

def name : DeviceType → String
  | none => "None"
  | serviceKey => "ServiceKey"
  | boiler => "Boiler"
  | thermostat => "Thermostat"
  | mixer => "Mixer"
  | solar => "Solar"
  | heatPump => "HeatPump"
  | gateway => "Gateway"
  | other => "Other"
  | switch => "Switch"
  | controller => "Controller"
  | connector => "Connector"
  | unknown => "Unknown"

def label : DeviceType → String
  | none => "none"
  | serviceKey => "service key"
  | boiler => "boiler"
  | thermostat => "thermostat"
  | mixer => "mixer"
  | solar => "solar panel"
  | heatPump => "heat pump"
  | gateway => "gateway"
  | other => "other device"
  | switch => "switch"
  | controller => "controller"
  | connector => "connector"
  | unknown => "unknown device"

end DeviceType

inductive ProductVariant where
  | none
  | easy
  | rc10
  | rc20
  | rc30
  | rc35
  | rc300
  | junkers
  | sm10
  | sm100
  deriving Repr, DecidableEq

namespace ProductVariant

def all : List ProductVariant :=
  [none, easy, rc10, rc20, rc30, rc35, rc300, junkers, sm10, sm100]

def name : ProductVariant → String
  | none => "None"
  | easy => "Easy"
  | rc10 => "Rc10"
  | rc20 => "Rc20"
  | rc30 => "Rc30"
  | rc35 => "Rc35"
  | rc300 => "Rc300"
  | junkers => "Junkers"
  | sm10 => "Sm10"
  | sm100 => "Sm100"

end ProductVariant

structure Product where
  id : UInt8
  deviceType : DeviceType
  name : String
  variant : ProductVariant
  /-- Whether devices of the product refuse writes. -/
  readOnly : Bool
  deriving Repr, DecidableEq

/-- The bit of the capability byte that says that a product refuses writes. -/
def noWriteFlag : UInt8 := 0x80

def Product.flags (product : Product) : UInt8 :=
  if product.readOnly then noWriteFlag else 0

structure DeviceCatalog where
  products : List Product
  requests : List (DeviceType × List UInt8)
  deriving Repr, DecidableEq

namespace DeviceCatalog

/-- The first product of a number. -/
def lookup? (catalog : DeviceCatalog) (id : UInt8) : Option Product :=
  catalog.products.find? (·.id = id)

def initialRequests (catalog : DeviceCatalog) (deviceType : DeviceType) : List UInt8 :=
  ((catalog.requests.find? (·.1 = deviceType)).map (·.2)).getD []

end DeviceCatalog

end HeatingBus
