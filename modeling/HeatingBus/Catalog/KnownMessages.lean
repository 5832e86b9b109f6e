import HeatingBus.Catalog.Messages

/-!
# Known messages

The messages that are found on buses of this kind. A field stands under its name and its label, and
what follows them says how its raw value is read and shown.
-/

namespace HeatingBus.KnownMessages

open HeatingBus.Field

/-! ## Fields -/

def versionFields : List Field := [
  integer 0 1 "product_id" "Product ID",
  integer 1 1 "ver_major" "Version Major",
  integer 2 1 "ver_minor" "Version Minor"]

def rcTimeFields : List Field := [
  dateTime 0 6 "time" "Time",
  integer 6 1 "dow" "Day of week",
  boolean 7 0 "dst" "Daylight saving",
  boolean 7 1 "radio" "Radio clock",
  boolean 7 2 "bad_time" "Time incorrect",
  boolean 7 3 "bad_date" "Date incorrect",
  boolean 7 4 "enabled" "Clock enabled"]

def errorLogFields : List Field := [
  text 0 2 "display" "Display code",
  integer 2 2 "code" "Error code",
  dateTime 4 5 "timestamp" "Time stamp",
  integer 9 2 "duration" "Duration" |>.withUnit .minute,
  integer 11 1 "source" "Source bus address"]

def ubaOperationTimeFields : List Field := [
  integer 0 3 "duration" "Operation duration" |>.withUnit .minute]

def ubaMaintenanceSettingsFields : List Field := [
  integer 0 1 "timestamp_unit" "Maintenance log timestamp unit" |>.withUnit .ubaMsTimestamp,
  integer 1 1 "remaining_time" "Remaining time to next maintenance"
    |>.withUnit .hour |>.multipliedBy 100,
  date 2 "next_maintenance" "Date of next maintenance"]

def ubaSettingsFields : List Field := [
  flag 0 0xFF "boiler_heating" "Boiler heating activated" |>.withUnit .onOff,
  integer 1 1 "boiler_temp" "Boiler heating temperature" |>.withUnit .celsius |>.signed,
  integer 2 1 "boiler_max" "Maximum boiler power" |>.withUnit .percent,
  integer 3 1 "boiler_min" "Minimum boiler power" |>.withUnit .percent,
  integer 4 1 "stop_hysteresis" "Stop hysteresis" |>.withUnit .celsius |>.signed,
  integer 5 1 "start_hysteresis" "Start hysteresis" |>.withUnit .celsius |>.signed,
  integer 6 1 "anti_swing_time" "Anti-swinging time" |>.withUnit .minute,
  integer 8 1 "follow_up_time" "Boiler stop follow up time" |>.withUnit .minute,
  integer 9 1 "pump_max" "Heat circuit pump maximum power" |>.withUnit .percent,
  integer 10 1 "pump_min" "Heat circuit pump minimum power" |>.withUnit .percent]

def ubaMonitorFastFields : List Field := [
  integer 0 1 "forward_temp_set" "Set forward flow temperature" |>.withUnit .celsius |>.signed,
  integer 1 2 "forward_temp" "Current forward flow temperature"
    |>.withUnit .celsius |>.dividedBy 10 |>.signed,
  integer 3 1 "burner_power_max" "Maximum burner power" |>.withUnit .percent,
  integer 4 1 "burner_power" "Current burner power" |>.withUnit .percent,
  boolean 7 0 "valve1" "Gas valve 1" |>.withUnit .openClosed,
  boolean 7 1 "valve2" "Gas valve 2" |>.withUnit .openClosed,
  boolean 7 2 "fan" "Fan" |>.withUnit .onOff,
  boolean 7 3 "ignition" "Ignition" |>.withUnit .onOff,
  boolean 7 4 "boiler_pump" "Boiler pump" |>.withUnit .onOff,
  boolean 7 5 "drinkwater_valve" "Drink water valve" |>.withUnit .openClosed,
  boolean 7 6 "drinkwater_pump" "Drink water circulation pump" |>.withUnit .onOff,
  integer 9 2 "boiler_temp" "Boiler temperature" |>.withUnit .celsius |>.dividedBy 10 |>.signed,
  integer 11 2 "drinkwater_temp" "Drink water temperature"
    |>.withUnit .celsius |>.dividedBy 10 |>.signed,
  integer 13 2 "return_current" "Current return flow temperature"
    |>.withUnit .celsius |>.dividedBy 10 |>.signed,
  integer 15 2 "flame_power" "Flame current" |>.withUnit .microAmpere |>.dividedBy 10,
  integer 17 1 "pressure" "System pressure" |>.withUnit .bar |>.dividedBy 10,
  text 18 2 "service_code" "Service code",
  integer 20 2 "error_code" "Error code",
  integer 23 2 "intake_temp" "Intake temperature" |>.withUnit .celsius |>.dividedBy 10 |>.signed]

def ubaMonitorSlowFields : List Field := [
  integer 0 2 "outside_temp" "Outside temperature" |>.withUnit .celsius |>.dividedBy 10 |>.signed,
  integer 2 2 "boiler_temp" "Boiler temperature" |>.withUnit .celsius |>.dividedBy 10 |>.signed,
  integer 4 2 "exhaust_temp" "Exhaust temperature" |>.withUnit .celsius |>.dividedBy 10 |>.signed,
  integer 9 1 "pump_power" "Pump power" |>.withUnit .percent,
  integer 10 3 "burner_starts" "Burner starts",
  integer 13 3 "burner_total" "Burner total operation time" |>.withUnit .minute,
  integer 16 3 "burner_stage2" "Burner time in stage 2" |>.withUnit .minute,
  integer 19 3 "burner_heat" "Burner time heating" |>.withUnit .minute,
  integer 22 3 "burner_drinkwater" "Burner time heating drink water" |>.withUnit .minute]

def ubaSetValuesFields : List Field := [
  integer 0 1 "boiler_temp" "Boiler set temperature" |>.withUnit .celsius |>.signed,
  integer 1 1 "heat_power" "Heat circuit power" |>.withUnit .percent,
  integer 2 1 "drinkwater_power" "Requested drink water power" |>.withUnit .percent]

def ubaMaintenanceFields : List Field := [
  integer 0 1 "need_maintenance" "Maintenance necessary" |>.withUnit .ubaMmNeed]

def ubaFunctionTestFields : List Field := [
  flag 0 0x5A "test_on" "Test mode activated" |>.withUnit .onOff,
  integer 1 1 "burner_power" "Burner power" |>.withUnit .percent,
  integer 3 1 "boiler_power" "Boiler power" |>.withUnit .percent,
  integer 4 1 "valve" "3-way-valve setting" |>.withUnit .ubaFtValve,
  flag 5 0xFF "pump_on" "Heat circuit pump" |>.withUnit .onOff]

def ubaDrinkwaterParamFields : List Field := [
  boolean 0 3 "installed" "Drink water system installed" |>.withUnit .yesNo,
  flag 1 0xFF "activated" "Drink water system activated" |>.withUnit .yesNo,
  integer 2 1 "set_temp" "Drink water set temperature" |>.withUnit .celsius |>.signed,
  flag 6 0xFF "pump_installed" "Drink water circulation pump installed" |>.withUnit .yesNo,
  integer 7 1 "pump_cycle" "Drink water circulation pump switch cycle"
    |>.withUnit .minute |>.multipliedBy 3,
  integer 8 1 "desinfection_temp" "Drink water thermal desinfection temperature"
    |>.withUnit .celsius |>.signed,
  integer 9 1 "mode" "Drink water operation mode" |>.withUnit .dwMode,
  integer 10 1 "use_valve" "Drink water loading system type" |>.withUnit .dwLoading]

def ubaDrinkwaterMonitorFields : List Field := [
  integer 0 1 "set_temp" "Drink water set temperature" |>.withUnit .celsius |>.signed,
  integer 1 2 "sensor1_temp" "Drink water sensor 1 temperature"
    |>.withUnit .celsius |>.dividedBy 10 |>.signed,
  integer 3 2 "sensor2_temp" "Drink water sensor 2 temperature"
    |>.withUnit .celsius |>.dividedBy 10 |>.signed,
  boolean 5 0 "day_mode" "Drink water day mode" |>.withUnit .yesNo,
  boolean 5 1 "oneshot" "Drink water one shot heating" |>.withUnit .yesNo,
  boolean 5 2 "desinfection" "Drink water thermal desinfection running" |>.withUnit .yesNo,
  boolean 5 3 "enabled" "Drink water heating enabled" |>.withUnit .yesNo,
  boolean 5 4 "reheat" "Drink water re-heating" |>.withUnit .yesNo,
  boolean 5 5 "set_reached" "Drink water set temperature reached" |>.withUnit .yesNo,
  boolean 6 0 "sens1err" "Drink water sensor 1 error" |>.withUnit .yesNo,
  boolean 6 1 "sens2err" "Drink water sensor 2 error" |>.withUnit .yesNo,
  boolean 6 2 "desinfect_error" "Drink water thermal desinfection error" |>.withUnit .yesNo,
  boolean 7 3 "pump_day" "Drink water circulation in day mode" |>.withUnit .yesNo,
  boolean 7 4 "pump_manual" "Drink water circulation in manual mode" |>.withUnit .yesNo,
  integer 8 1 "system_type" "Drink water system type" |>.withUnit .dwType,
  integer 9 1 "current_flow" "Drink water current flow" |>.withUnit .literPerMin |>.dividedBy 10,
  integer 10 3 "heating_time" "Drink water total heating time" |>.withUnit .minute,
  integer 13 3 "heating_runs" "Drink water total heating runs"]

def ubaFlagsFields : List Field := [
  integer 0 1 "data1" "Data 1",
  integer 1 1 "data2" "Data 2"]

def hcDrinkwaterParamFields : List Field := [
  integer 0 1 "heating_program" "Drinkwater heating program" |>.withUnit .hwDcProgram,
  integer 1 1 "circulation_program" "Drinkwater circulation program" |>.withUnit .hwDcProgram,
  integer 2 1 "operation" "Drinkwater operation mode" |>.withUnit .offOnAuto,
  integer 3 1 "pump" "Drinkwater pump operation" |>.withUnit .offOnAuto,
  flag 4 0xFF "desinfection_on" "Drinkwater thermal desinfection" |>.withUnit .onOff,
  integer 5 1 "desinfection_day" "Drinkwater thermal desinfection week day" |>.withUnit .weekDay,
  integer 6 1 "desinfection_hour" "Drinkwater thermal desinfection hour" |>.withUnit .hour,
  integer 8 1 "desinfection_temp" "Drinkwater thermal desinfection maximum temperature"
    |>.withUnit .celsius |>.signed,
  flag 9 0xFF "one_shot" "One-shot drinkwater heating" |>.withUnit .onOff]

def hcParamFields : List Field := [
  integer 0 1 "install_type" "Installation type" |>.withUnit .hcInstallation,
  integer 1 1 "night_temp" "Night temperature" |>.withUnit .celsius |>.dividedBy 2 |>.signed,
  integer 2 1 "day_temp" "Day temperature" |>.withUnit .celsius |>.dividedBy 2 |>.signed,
  integer 3 1 "holiday_temp" "Holiday temperature" |>.withUnit .celsius |>.dividedBy 2 |>.signed,
  integer 4 1 "room_influence_temp" "Room influence temperature"
    |>.withUnit .celsius |>.dividedBy 2 |>.signed,
  integer 6 1 "room_offset_temp" "Room offset temperature"
    |>.withUnit .celsius |>.dividedBy 2 |>.signed,
  integer 7 1 "operation" "Operating mode" |>.withUnit .hcOperation,
  flag 8 0xFF "screed_drying" "Screed drying" |>.withUnit .onOff,
  integer 15 1 "max_forward_temp" "Max forward flow temperature" |>.withUnit .celsius |>.signed,
  integer 16 1 "min_forward_temp" "Min forward flow temperature" |>.withUnit .celsius |>.signed,
  integer 17 1 "lay_out_temp" "Lay out temperature" |>.withUnit .celsius |>.signed,
  flag 19 0xFF "onoff_optimization" "On/off optimization" |>.withUnit .onOff,
  integer 22 1 "summer_threshold" "Summer threshold" |>.withUnit .celsius |>.signed,
  integer 23 1 "antifreeze_temp" "Antifreeze temperature" |>.withUnit .celsius |>.signed,
  integer 25 1 "work_mode" "Work mode" |>.withUnit .hcWorkMode,
  integer 26 1 "remote" "Remote model" |>.withUnit .hcRemote]

def hcMonitorFields : List Field := [
  boolean 0 0 "optimize_on" "Optimize turn on" |>.withUnit .yesNo,
  boolean 0 1 "optimize_off" "Optimize turn off" |>.withUnit .yesNo,
  boolean 0 2 "automatic_mode" "Automatic mode" |>.withUnit .yesNo,
  boolean 0 3 "drinkwater_preferred" "Drinkwater preferred" |>.withUnit .yesNo,
  boolean 0 4 "screed_mode" "Screed drying mode" |>.withUnit .yesNo,
  boolean 0 5 "vacation_mode" "Vacation mode" |>.withUnit .yesNo,
  boolean 0 6 "frost_protection" "Frost protection" |>.withUnit .yesNo,
  boolean 0 7 "manual" "Manual mode" |>.withUnit .yesNo,
  boolean 1 0 "summer_mode" "Summer mode" |>.withUnit .yesNo,
  boolean 1 1 "day_mode" "Day mode" |>.withUnit .yesNo,
  boolean 1 2 "remote_offline" "Remote offline" |>.withUnit .yesNo,
  boolean 1 3 "remote_error" "Remote error" |>.withUnit .yesNo,
  boolean 1 4 "forward_error" "Forward flow sensor error" |>.withUnit .yesNo,
  boolean 1 5 "forward_max" "Forward max flow" |>.withUnit .yesNo,
  boolean 1 6 "external_error" "External error" |>.withUnit .yesNo,
  boolean 1 7 "party_pause" "Party pause mode" |>.withUnit .yesNo,
  integer 2 1 "room_set_temp" "Set room temperature" |>.withUnit .celsius |>.dividedBy 2 |>.signed,
  integer 3 2 "room_current_temp" "Current room temperature"
    |>.withUnit .celsius |>.dividedBy 10 |>.signed,
  integer 5 1 "optimize_on_time" "Optimize turn on time",
  integer 6 1 "optimize_off_time" "Optimize turn off time",
  integer 7 1 "curve_minus_10" "Heating curve at -10 °C" |>.signed,
  integer 8 1 "curve_0" "Heating curve at 0 °C" |>.signed,
  integer 9 1 "curve_plus_10" "Heating curve at 10 °C" |>.signed,
  integer 10 2 "room_adaption" "Room temperature adaption speed" |>.dividedBy 100 |>.signed,
  integer 12 1 "boiler_power" "Requested boiler power" |>.withUnit .percent,
  boolean 13 2 "party_state" "Party mode" |>.withUnit .onOff,
  boolean 13 3 "pause_state" "Pause mode" |>.withUnit .onOff,
  boolean 13 6 "vacation_state" "Vacation mode" |>.withUnit .onOff,
  boolean 13 7 "holiday_state" "Holiday mode" |>.withUnit .onOff,
  integer 14 1 "forward_temp" "Calculated forward temp" |>.withUnit .celsius |>.signed]

def rcOutdoorFields : List Field := [
  integer 0 1 "damped_temp" "Damped outdoor temperature" |>.withUnit .celsius |>.signed]

/-- The fields of the broadcast of the online bitmap: one bit for each of the addresses 8 to 71. -/
def onlineFields : List Field :=
  (List.range 64).map fun index =>
    boolean (index / 8) (UInt8.ofNat (index % 8)) ("device_" ++ Text.zeroPadded 2 (index + 8))
      "Device online" |>.withUnit .device

/-! ## Rows -/

def commonRows : List MessageRow := [
  .readOnly versionMessage "Version" 3 versionFields,
  .readOnly 0x06 "RcTime" 8 rcTimeFields,
  .readOnly onlineMessage "UbaDevices" 13 onlineFields,
  .readOnly 0x10 "UbaError1" 96 errorLogFields,
  .readOnly 0x11 "UbaError2" 96 errorLogFields,
  .readOnly 0x12 "RcErrors" 96 errorLogFields,
  .readOnly 0x13 "RcResetErrors" 96 errorLogFields,
  .readOnly 0x14 "UbaOperationTime" 3 ubaOperationTimeFields,
  .readOnly 0x15 "UbaMaintenanceSettings" 5 ubaMaintenanceSettingsFields,
  .readOnly 0x16 "UbaSettings" 11 ubaSettingsFields,
  .readOnly 0x18 "UbaMonitorFast" 25 ubaMonitorFastFields,
  .readOnly 0x19 "UbaMonitorSlow" 25 ubaMonitorSlowFields,
  .acceptingWrites (.readOnly 0x1A "UbaSetValues" 4 ubaSetValuesFields),
  .readOnly 0x1C "UbaMaintenance" 1 ubaMaintenanceFields,
  .readOnly 0x1D "UbaFunctionTest" 11 ubaFunctionTestFields,
  .acceptingWrites (.readOnly 0x33 "UbaDrinkwaterParameter" 11 ubaDrinkwaterParamFields),
  .readOnly 0x34 "UbaDrinkwaterMonitor" 16 ubaDrinkwaterMonitorFields,
  .readOnly 0x35 "UbaFlags" 2 ubaFlagsFields,
  .acceptingWrites (.readOnly 0x37 "HcDrinkwaterParam" 10 hcDrinkwaterParamFields),
  .readOnly 0xA3 "RcOutdoor" 3 rcOutdoorFields]

def circuitRows (param monitor : UInt8) (name : String) : List MessageRow :=
  [.acceptingWrites (.readOnly param (name ++ "Param") 27 hcParamFields),
    .readOnly monitor (name ++ "Monitor") 15 hcMonitorFields]

def rows : List MessageRow :=
  commonRows ++ circuitRows 0x3D 0x3E "Hc1" ++ circuitRows 0x47 0x48 "Hc2" ++
    circuitRows 0x51 0x52 "Hc3" ++ circuitRows 0x5B 0x5C "Hc4"

end HeatingBus.KnownMessages

namespace HeatingBus

def MessageCatalog.known : Except BusError MessageCatalog :=
  ofRows KnownMessages.rows

end HeatingBus
