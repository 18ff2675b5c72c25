/- module: TrackerGateway/Fixtures/Teltonika
   source: src/test/teltonika_fixtures.py
   digest: The builders of record packets that the tests of the FMB family use. -/

import TrackerGateway.Parsers.Teltonika
import TrackerGateway.Runtime.Conversions

set_option autoImplicit false
set_option relaxedAutoImplicit false

namespace TrackerGateway.Fixtures.Teltonika

open Foundation.Wire
open TrackerGateway.Runtime
open Parsers.Teltonika

/-- The arguments of `encode_record`. The groups list the items of a dictionary. -/
structure Arguments where
  timestampMs : Nat
  lat : ℚ
  lon : ℚ
  altitude : ℤ
  angle : Nat
  satellites : Nat
  speed : Nat
  priority : Nat
  eventIo : Nat
  io1 : List (Nat × Nat)
  io2 : List (Nat × Nat)
  io4 : List (Nat × Nat)
  io8 : List (Nat × Nat)
  iox : List (Nat × Bytes)

/-- The width of the ids and counts of a record. -/
def idLen (extended : Bool) : Nat := if extended then 2 else 1

def encodeGroup (extended : Bool) (size : Nat) (group : List (Nat × Nat)) : Except Exn Bytes := do
  let count ← toBytes (idLen extended) group.length
  let elements ← group.mapM fun element => do
    return (← toBytes (idLen extended) element.1) ++ (← toBytes size element.2)
  return count ++ elements.flatten

def encodeVariableGroup (extended : Bool) (group : List (Nat × Bytes)) : Except Exn Bytes := do
  let count ← toBytes (idLen extended) group.length
  let elements ← group.mapM fun element => do
    return (← toBytes (idLen extended) element.1) ++ (← toBytes 2 element.2.length) ++ element.2
  return count ++ elements.flatten

def encodeRecord (extended : Bool) (a : Arguments) : Except Exn Bytes := do
  let total := a.io1.length + a.io2.length + a.io4.length + a.io8.length +
    if extended then a.iox.length else 0
  return (← toBytes 8 a.timestampMs) ++ (← oneByte a.priority) ++
    (← toBytesSigned 4 (roundHalfEven (a.lon * 10000000))) ++
    (← toBytesSigned 4 (roundHalfEven (a.lat * 10000000))) ++
    (← toBytesSigned 2 a.altitude) ++ (← toBytes 2 a.angle) ++ (← oneByte a.satellites) ++
    (← toBytes 2 a.speed) ++
    (← toBytes (idLen extended) a.eventIo) ++ (← toBytes (idLen extended) total) ++
    (← encodeGroup extended 1 a.io1) ++ (← encodeGroup extended 2 a.io2) ++
    (← encodeGroup extended 4 a.io4) ++ (← encodeGroup extended 8 a.io8) ++
    (← if extended then encodeVariableGroup extended a.iox else pure [])

def buildAvlPacket (records : List Bytes) (codec : Nat) (countTrailer : Option Nat) :
    Except Exn Bytes := do
  let body := (← oneByte codec) ++ (← oneByte records.length) ++ records.flatten ++
    (← oneByte (countTrailer.getD records.length))
  return [0x00, 0x00, 0x00, 0x00] ++ (← toBytes 4 body.length) ++ body ++
    (← toBytes 4 (crc16Ibm body).toNat)

end TrackerGateway.Fixtures.Teltonika
