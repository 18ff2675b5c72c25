/- module: TrackerGateway/Decoders/Information
   source: src/decoders
   digest: The configuration a device reports as key and value texts. -/

import TrackerGateway.Runtime.Effects

set_option autoImplicit false
set_option relaxedAutoImplicit false

namespace TrackerGateway.Decoders

open Foundation.Wire
open TrackerGateway.Runtime

variable (values : List (Text × Text))

def reported (key : String) : Option Text := values.lookup key.toList

/-- One member of the configuration, copied as it was reported. -/
def member (name key : String) : Text × Json := (name.toList, .ofText? (reported values key))

def intOf (t : Text) : Except Exn Json :=
  match parseInt t with
  | some n => .ok (.int n)
  | none => .error (.valueError "invalid literal for int()".toList)

def floatOf (t : Text) : Except Exn Json :=
  match parseFloat t with
  | some x => .ok (.float x)
  | none => .error (.valueError "could not convert string to float".toList)

def decodeUploadMode (value : Option Text) : Json :=
  if value = some "00".toList then .text "Always Upload".toList
  else if value = some "01".toList then .text "Smart Upload".toList
  else if value = some "02".toList then .text "Sleep Upload".toList
  else if value = some "03".toList then .text "ACC Trigger Upload".toList
  else .ofText? value

/-- A geofence of at least eight parts is taken apart, a shorter one is kept as text. -/
def decodeGeofence (value : Option Text) : Except Exn Json :=
  match truthy value with
  | none => .ok .null
  | some value =>
      match value.splitOn ',' with
      | _ :: enabled :: radius :: latitude :: longitude :: _ :: trigger :: number :: _ => do
          let radius ← intOf radius
          let latitude ← floatOf latitude
          let longitude ← floatOf longitude
          let number ← intOf number
          return .object [("enabled".toList, .bool (enabled = "ON".toList)),
            ("radius".toList, radius), ("latitude".toList, latitude),
            ("longitude".toList, longitude), ("trigger".toList, .text trigger),
            ("index".toList, number)]
      | _ => .ok (.text value)

def decodePhoneNumbers : List (Text × Json) :=
  [member values "sos_number" "SOS", member values "center_number" "CENTER"]

def decodeNetworkConfiguration : Json :=
  .object [member values "apn" "APN", member values "apn_username" "APNUSER",
    member values "apn_password" "APNPWD", member values "server_ip" "IP",
    member values "server_domain" "DOMAIN", member values "server_port" "PORT",
    member values "dns" "DNS", member values "protocol" "PROTOCOL"]

def decodeDeviceSettings : Json :=
  .object [member values "timezone" "GMT", member values "language" "LANG",
    member values "work_mode" "MODE", member values "acc_mode" "ACC",
    member values "sleep_mode" "SLEEP", member values "led_mode" "LED",
    member values "heartbeat_interval" "HEART", member values "upload_interval" "UPLOAD"]

def decodeSimInformation : Json :=
  .object [member values "iccid" "ICCID", member values "imsi" "IMSI",
    member values "operator" "OP", member values "phone_number" "PHONE"]

def decodeGpsConfiguration : Json :=
  .object [member values "filter" "FILTER", member values "accuracy" "GPSACC",
    member values "interval" "INTERVAL"]

/-- The eight flags of an alarm group, under the given names from the lowest bit up. -/
def alarmGroup (names : List String) (value : ℤ) : Json :=
  .object (names.mapIdx fun bit name => (name.toList, .bool (value / 2 ^ bit % 2 = 1)))

def decodeAlarmGroup1 (value : ℤ) : Json :=
  alarmGroup ["sos_alarm", "power_cut_alarm", "shock_alarm", "low_battery_alarm",
    "overspeed_alarm", "geofence_alarm", "move_alarm", "acc_alarm"] value

def decodeAlarmGroup2 (value : ℤ) : Json :=
  alarmGroup ["bit0", "bit1", "bit2", "bit3", "bit4", "bit5", "bit6", "bit7"] value

def decodeAlarmGroup3 (value : ℤ) : Json :=
  alarmGroup ["bit0", "bit1", "bit2", "bit3", "bit4", "bit5", "bit6", "bit7"] value

/-- The hexadecimal value of an alarm key, zero when it was not reported. -/
def alarmMask (key : String) : Except Exn ℤ :=
  match parseHex ((reported values key).getD "00".toList) with
  | some n => .ok n
  | none => .error (.valueError "invalid literal for int() with base 16".toList)

def decodeAlarmConfiguration : Except Exn Json := do
  let alm1 ← alarmMask values "ALM1"
  let alm2 ← alarmMask values "ALM2"
  let alm3 ← alarmMask values "ALM3"
  return .object [("alarm_group_1".toList, decodeAlarmGroup1 alm1),
    ("alarm_group_2".toList, decodeAlarmGroup2 alm2),
    ("alarm_group_3".toList, decodeAlarmGroup3 alm3)]

/-- The whole configuration. A geofence or alarm value that is no number raises. -/
def decodeInformation : Except Exn (List (Text × Json)) := do
  let geofence ← decodeGeofence (reported values "FENCE")
  let alarms ← decodeAlarmConfiguration values
  return [("upload_mode".toList, decodeUploadMode (reported values "DYD")),
      ("geofence".toList, geofence)] ++
    decodePhoneNumbers values ++
    [("network".toList, decodeNetworkConfiguration values),
      ("device_settings".toList, decodeDeviceSettings values),
      ("sim".toList, decodeSimInformation values),
      ("gps".toList, decodeGpsConfiguration values),
      ("alarm_configuration".toList, alarms)]

end TrackerGateway.Decoders
