/- module: TrackerGateway/Fixtures/Logins
   source: src/test/test_multiprotocol_server.py, src/test/teltonika_fixtures.py
   digest: The logins that the tests build, in the format of each family. -/

import TrackerGateway.Parsers.Gps103
import TrackerGateway.Parsers.Teltonika
import TrackerGateway.Parsers.V5

set_option autoImplicit false
set_option relaxedAutoImplicit false

namespace TrackerGateway.Fixtures.Logins

open Foundation.Wire
open Parsers.V5 (crc16X25)

/-- `imei.zfill(16)`. -/
def zfill (width : Nat) (t : Text) : Text := List.replicate (width - t.length) '0' ++ t

/-- Two start bytes, the length, the identity in packed digits, a serial number, the checksum. -/
def gt06Login (imei : Text) (serial : Nat) : Bytes :=
  let body := [0x01] ++ unhex (zfill 16 imei) ++ bigEndianBytes 2 serial
  let length := UInt8.ofNat (body.length + 2)
  [0x78, 0x78, length] ++ body ++ bigEndianBytes 2 (crc16X25 (length :: body)).toNat ++ [0x0D, 0x0A]

def gps103Login (imei : Text) : Bytes := asciiBytes ("##,imei:".toList ++ imei ++ ",A;".toList)

def loginFrame (imei : Text) : Bytes := [0x00, 0x0F] ++ asciiBytes imei

end TrackerGateway.Fixtures.Logins
