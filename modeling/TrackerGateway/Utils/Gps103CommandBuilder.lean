/- module: TrackerGateway/Utils/Gps103CommandBuilder
   source: src/utils/gps103_command_builder.py
   digest: The text commands of TK103 devices, built only for a well-formed identity. -/

import TrackerGateway.Runtime.Conversions

set_option autoImplicit false
set_option relaxedAutoImplicit false

namespace TrackerGateway.Utils.Gps103CommandBuilder

open Foundation.Wire
open TrackerGateway.Runtime

/-- Ten to seventeen ASCII digits and nothing else. -/
def isCommandImei (imei : Text) : Bool :=
  isDigits imei && 10 ≤ imei.length && imei.length ≤ 17

def frameText (imei : Text) (code : Char) : Text :=
  "**,imei:".toList ++ imei ++ [',', code, ';']

def frame (imei : Text) (code : Char) : Except Exn Bytes :=
  if isCommandImei imei then encodeAscii (frameText imei code)
  else .error (.valueError "invalid IMEI for a GPS103 command".toList)

def buildSinglePosition (imei : Text) : Except Exn Bytes := frame imei 'B'

def buildEngineResume (imei : Text) : Except Exn Bytes := frame imei 'K'

theorem frame_eq_ok {imei : Text} {code : Char} {payload : Bytes}
    (built : frame imei code = .ok payload) :
    isCommandImei imei = true ∧ payload = asciiBytes (frameText imei code) := by
  rw [frame] at built
  split at built
  · next valid =>
      rw [encodeAscii] at built
      split at built
      · cases built
        exact ⟨valid, rfl⟩
      · cases built
  · cases built

example : (buildEngineResume "359586015829802".toList).toOption =
    some (asciiBytes "**,imei:359586015829802,K;".toList) := by decide +kernel

end TrackerGateway.Utils.Gps103CommandBuilder
