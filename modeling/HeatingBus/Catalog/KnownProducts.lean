import HeatingBus.Catalog.Devices

/-!
# Known products

The products that are found on buses of this kind, and what is asked for once a boiler or a
thermostat is identified. Where products share a number, the one that comes first counts.
-/

namespace HeatingBus.KnownProducts

def busMasters : List Product := [
  ⟨72, .boiler, "MC10 Module", .none, false⟩,
  ⟨123, .boiler,
    "Buderus GBx72/Nefit Trendline/Junkers Cerapur/Worcester Greenstar Si/27i",
    .none, false⟩,
  ⟨133, .boiler, "Buderus GB125/Logamatic MC110", .none, false⟩,
  ⟨115, .boiler, "Nefit Topline/Buderus GB162", .none, false⟩,
  ⟨203, .boiler, "Buderus Logamax U122/Junkers Cerapur", .none, false⟩,
  ⟨208, .boiler, "Buderus Logamax plus/GB192/Bosch Condens GC9000", .none, false⟩,
  ⟨64, .boiler, "Sieger BK13,BK15/Nefit Smartline/Buderus GB1x2", .none, false⟩,
  ⟨234, .boiler, "Buderus Logamax Plus GB122", .none, false⟩,
  ⟨95, .boiler,
    "Bosch Condens 2500/Buderus Logamax GB062/Junkers Cerapur Top/Worcester Greenstar i/Generic HT3",
    .none, false⟩,
  ⟨122, .boiler, "Nefit Proline", .none, false⟩,
  ⟨170, .boiler, "Buderus Logano GB212", .none, false⟩,
  ⟨172, .boiler, "Nefit Enviline", .none, false⟩]

def solarModules : List Product := [
  ⟨73, .solar, "SM10 Solar Module", .sm10, false⟩,
  ⟨163, .solar, "SM100 Solar Module", .sm100, false⟩,
  ⟨101, .solar, "Junkers ISM1 Solar Module", .sm100, false⟩,
  ⟨162, .solar, "SM50 Solar Module", .sm100, false⟩]

def mixingModules : List Product := [
  ⟨160, .mixer, "MM100 Mixing Module", .none, false⟩,
  ⟨161, .mixer, "MM200 Mixing Module", .none, false⟩,
  ⟨69, .mixer, "MM10 Mixer Module", .none, false⟩,
  ⟨159, .mixer, "MM50 Mixing Module", .none, false⟩,
  ⟨79, .mixer, "MM100 Mixer Module", .none, false⟩,
  ⟨80, .mixer, "MM200 Mixer Module", .none, false⟩,
  ⟨78, .mixer, "MM400 Mixer Module", .none, false⟩]

def heatPumps : List Product := [
  ⟨252, .heatPump, "HeatPump Module", .none, false⟩,
  ⟨200, .heatPump, "HeatPump Module", .none, false⟩]

def controllers : List Product := [
  ⟨71, .switch, "WM10 Switch Module", .none, false⟩,
  ⟨68, .controller, "BC10/RFM20 Receiver", .none, false⟩,
  ⟨218, .controller, "Junkers M200/Buderus RFM200 Receiver", .none, false⟩,
  ⟨190, .controller, "BC10 Base Controller", .none, false⟩,
  ⟨114, .controller, "BC10 Base Controller", .none, false⟩,
  ⟨125, .controller, "BC25 Base Controller", .none, false⟩,
  ⟨169, .controller, "BC40 Base Controller", .none, false⟩,
  ⟨152, .controller, "Controller", .none, false⟩,
  ⟨95, .controller, "HT3 Controller", .none, false⟩,
  ⟨230, .controller, "BC Base Controller", .none, false⟩,
  ⟨205, .connector, "Nefit Moduline Easy Connect", .none, false⟩,
  ⟨206, .connector, "Bosch Easy Connect", .none, false⟩,
  ⟨171, .connector, "EMS-OT OpenTherm converter", .none, false⟩,
  ⟨189, .gateway, "Web Gateway KM200", .none, false⟩]

/-- The thermostats of the Easy family and their kin, which refuse writes. -/
def easyThermostats : List Product := [
  ⟨202, .thermostat, "Logamatic TC100/Nefit Moduline Easy", .easy, true⟩,
  ⟨203, .thermostat, "Bosch EasyControl CT200", .easy, true⟩,
  ⟨157, .thermostat, "Buderus RC200/Bosch CW100/Junkers CW100", .none, true⟩]

def buderusThermostats : List Product := [
  ⟨79, .thermostat, "RC10/Moduline 100", .rc10, false⟩,
  ⟨77, .thermostat, "RC20/Moduline 300", .rc20, false⟩,
  ⟨93, .thermostat, "RC20RF", .rc20, false⟩,
  ⟨67, .thermostat, "RC30", .rc30, false⟩,
  ⟨78, .thermostat, "RC30/Moduline 400", .rc30, false⟩,
  ⟨86, .thermostat, "RC35", .rc35, false⟩,
  ⟨158, .thermostat, "RC300/RC310/Moduline 3000/Bosch CW400/W-B Sense II", .rc300, false⟩,
  ⟨165, .thermostat, "RC100/Moduline 1010", .rc300, true⟩]

def siegerThermostats : List Product := [
  ⟨76, .thermostat, "Sieger ES73", .rc35, false⟩]

def junkersThermostats : List Product := [
  ⟨105, .thermostat, "Junkers FW100", .junkers, true⟩,
  ⟨106, .thermostat, "Junkers FW200", .junkers, true⟩,
  ⟨107, .thermostat, "Junkers FR100", .junkers, true⟩,
  ⟨108, .thermostat, "Junkers FR110", .junkers, true⟩,
  ⟨111, .thermostat, "Junkers FR10", .junkers, true⟩,
  ⟨191, .thermostat, "Junkers FR120", .junkers, true⟩,
  ⟨192, .thermostat, "Junkers FW120", .junkers, true⟩,
  ⟨147, .thermostat, "Junkers FR50", .junkers, true⟩]

def all : List Product :=
  busMasters ++ solarModules ++ mixingModules ++ heatPumps ++ controllers ++
    easyThermostats ++ buderusThermostats ++ siegerThermostats ++ junkersThermostats

def requests : List (DeviceType × List UInt8) :=
  [(.boiler, [0x18, 0x19, 0x1A, 0x33, 0x34]), (.thermostat, [0x3D, 0x3E, 0x37])]

end HeatingBus.KnownProducts

namespace HeatingBus

def DeviceCatalog.known : DeviceCatalog :=
  ⟨KnownProducts.all, KnownProducts.requests⟩

end HeatingBus
