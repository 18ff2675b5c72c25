/- module: TrackerGateway/Utils/CommandBuilder
   source: src/utils/command_builder.py
   digest: The binary frames of commands to V5 devices, each with the next serial number. -/

import TrackerGateway.Parsers.V5
import TrackerGateway.Runtime.Conversions
import TrackerGateway.Runtime.Values

set_option autoImplicit false
set_option relaxedAutoImplicit false

namespace TrackerGateway.Utils.CommandBuilder

open Foundation.Wire
open TrackerGateway.Runtime
open Parsers.V5

def serverFlag : Bytes := [0x00, 0x00, 0x00, 0x01]

def language : Bytes := [0x00, 0x02]

def firstSerial : Nat := 1

def nextSerial (serial : Nat) : Nat × Nat := (serial, serial + 1)

/-- A command under construction: its frame or exception, and the serial number that is next. -/
abbrev Builder := Nat → Except Exn Bytes × Nat

def commandFrame (command : Text) (value : Nat) : Except Exn Bytes := do
  let serial ← toBytes 2 value
  let commandBytes ← encodeAscii command
  let commandLength ← oneByte (serverFlag.length + commandBytes.length)
  let body := [0x80] ++ commandLength ++ serverFlag ++ commandBytes ++ language ++ serial
  let packetLength ← oneByte (body.length + 2)
  let crc := (crc16X25 (packetLength ++ body)).toNat
  return shortMarker ++ packetLength ++ body ++ bigEndianBytes 2 crc ++ [0x0D, 0x0A]

/-- The serial number is taken before anything can fail. -/
def buildCommand (command : Text) : Builder := fun serial =>
  let (value, later) := nextSerial serial
  (commandFrame command value, later)

def buildWhere : Builder := buildCommand "WHERE#".toList
def buildStatus : Builder := buildCommand "STATUS#".toList
def buildVersion : Builder := buildCommand "VERSION#".toList
def buildImei : Builder := buildCommand "IMEI#".toList
def buildParams : Builder := buildCommand "PARAM#".toList
def buildGprsset : Builder := buildCommand "GPRSSET#".toList
def buildUrl : Builder := buildCommand "URL#".toList
def buildPosition : Builder := buildCommand "POSITION#".toList
def buildFenceQuery : Builder := buildCommand "FENCE#".toList
def buildMovingQuery : Builder := buildCommand "MOVING#".toList
def buildSpeedQuery : Builder := buildCommand "SPEED#".toList
def buildSosQuery : Builder := buildCommand "SOS#".toList
def buildTimerQuery : Builder := buildCommand "TIMER#".toList
def buildApnQuery : Builder := buildCommand "APN#".toList
def buildServerQuery : Builder := buildCommand "SERVER#".toList

def buildReset : Builder := buildCommand "RESET#".toList
def buildRelayOn : Builder := buildCommand "RELAY,0#".toList
def buildRelayOff : Builder := buildCommand "RELAY,1#".toList

/-- `NAME,field,...,field#`. -/
def commandText (name : String) (fields : List Text) : Text :=
  name.toList ++ fields.flatMap (',' :: ·) ++ ['#']

def onOff (enabled : Bool) : Text := if enabled then "ON".toList else "OFF".toList

def bit (flag : Bool) : Text := if flag then ['1'] else ['0']

def buildTimer (t1 t2 : ℤ) : Builder :=
  buildCommand (commandText "TIMER" [decimalInt t1, decimalInt t2])

def buildDistance (meters : ℤ) : Builder :=
  buildCommand (commandText "DISTANCE" [decimalInt meters])

def buildSpeedAlarm (enabled : Bool) (interval limitKmh : ℤ) (sms : Bool) : Builder :=
  buildCommand (commandText "SPEED" [onOff enabled, decimalInt interval, decimalInt limitKmh,
    bit sms])

def buildMovingAlarm (enabled : Bool) (radiusM : ℤ) (sms : Bool) : Builder :=
  buildCommand (commandText "MOVING" [onOff enabled, decimalInt radiusM, bit sms])

def buildFenceCircle (spell : Spelling) (enabled : Bool) (lat lon : Number) (radius100m : ℤ)
    (trigger : Value) (sms : Bool) : Builder :=
  buildCommand (commandText "FENCE" [onOff enabled, ['0'], spell (.float lat), spell (.float lon),
    decimalInt radius100m, trigger.str spell, bit sms])

/-- `",".join(items)`, or the exception of the first item that is no text. -/
def joinTexts (items : List Value) : Except Exn Text := do
  let texts ← items.zipIdx.mapM fun (item, i) => match item with
    | .text t => .ok t
    | other => .error (.typeMismatch ("sequence item ".toList ++ decimal i ++
        ": expected str instance, ".toList ++ other.typeName ++ " found".toList))
  return (texts.intersperse [',']).flatten

/-- Numbers that are no texts raise before a serial number is taken. -/
def buildSosAdd (phone1 phone2 phone3 : Value) : Builder := fun serial =>
  match joinTexts ([phone1, phone2, phone3].filter Value.truth) with
  | .error e => (.error e, serial)
  | .ok numbers => buildCommand (commandText "SOS" [['A'], numbers]) serial

def buildSosDelete : Builder := buildCommand "SOS,D#".toList

def buildApn (spell : Spelling) (apnName user pwd : Value) : Builder :=
  if user.truth || pwd.truth then
    buildCommand (commandText "APN" [apnName.str spell, user.str spell, pwd.str spell])
  else buildCommand (commandText "APN" [apnName.str spell])

def buildServer (spell : Spelling) (domainOrIp : Value) (port : ℤ) (useDomain udp : Bool) :
    Builder :=
  buildCommand (commandText "SERVER" [bit useDomain, domainOrIp.str spell, decimalInt port,
    bit udp])

def buildBatalm (enabled sms : Bool) : Builder :=
  buildCommand (commandText "BATALM" [onOff enabled, bit sms])

def buildPoweralm (enabled sms : Bool) : Builder :=
  buildCommand (commandText "POWERALM" [onOff enabled, bit sms])

example : (buildRelayOff 1).1 = .ok [0x78, 0x78, 0x14, 0x80, 0x0C, 0x00, 0x00, 0x00, 0x01,
    0x52, 0x45, 0x4C, 0x41, 0x59, 0x2C, 0x31, 0x23, 0x00, 0x02, 0x00, 0x01, 0xEE, 0x4D,
    0x0D, 0x0A] := by decide +kernel

end TrackerGateway.Utils.CommandBuilder
