/- module: TrackerGateway/Runtime/Values
   source: src/command_api.py
   digest: The values a JSON body decodes to, and how the Command API converts them. -/

import TrackerGateway.Runtime.Effects

set_option autoImplicit false
set_option relaxedAutoImplicit false

namespace TrackerGateway.Runtime

open Foundation.Wire

inductive Value
  | null
  | bool (b : Bool)
  | int (n : ℤ)
  | float (x : Number)
  | text (t : Text)
  | list (items : List Value)
  | dict (items : List (Text × Value))

/-- How the interpreter spells a value that is no text. -/
abbrev Spelling := Value → Text

namespace Exn

def typeMismatch (message : Text) : Exn := .foreign "TypeError".toList message

def attributeError (message : Text) : Exn := .foreign "AttributeError".toList message

def keyError (key : Text) : Exn := .foreign "KeyError".toList (quoted key)

end Exn

namespace Value

def typeName : Value → Text
  | .null => "NoneType".toList
  | .bool _ => "bool".toList
  | .int _ => "int".toList
  | .float _ => "float".toList
  | .text _ => "str".toList
  | .list _ => "list".toList
  | .dict _ => "dict".toList

/-- `bool(value)`. -/
def truth : Value → Bool
  | .null => false
  | .bool b => b
  | .int n => n != 0
  | .float x => x != .finite 0
  | .text t => !t.isEmpty
  | .list items => !items.isEmpty
  | .dict items => !items.isEmpty

def str (spell : Spelling) : Value → Text
  | .text t => t
  | other => spell other

def toInt : Value → Except Exn ℤ
  | .bool b => .ok (if b then 1 else 0)
  | .int n => .ok n
  | .float (.finite q) => .ok (if q < 0 then ⌈q⌉ else ⌊q⌋)
  | .float (.infinite _) => .error (.foreign "OverflowError".toList
      "cannot convert float infinity to integer".toList)
  | .float .nan => .error (.valueError "cannot convert float NaN to integer".toList)
  | .text t => match parseInt t with
      | some n => .ok n
      | none => .error (.valueError
          ("invalid literal for int() with base 10: ".toList ++ quoted t))
  | other => .error (.typeMismatch
      ("int() argument must be a string, a bytes-like object or a real number, not '".toList ++
        other.typeName ++ "'".toList))

def toFloat : Value → Except Exn Number
  | .bool b => .ok (.finite (if b then 1 else 0))
  | .int n =>
      if overflowBound ≤ |(n : ℚ)| then .error .overflowError else .ok (.finite (binary64 n))
  | .float x => .ok x
  | .text t => match parseFloat t with
      | some x => .ok x
      | none => .error (.valueError ("could not convert string to float: ".toList ++ quoted t))
  | other => .error (.typeMismatch
      ("float() argument must be a string or a real number, not '".toList ++ other.typeName ++
        "'".toList))

/-- `value[key]`. -/
def item (value : Value) (key : Text) : Except Exn Value :=
  match value with
  | .dict items => match items.lookup key with
      | some found => .ok found
      | none => .error (.keyError key)
  | .list _ => .error (.typeMismatch "list indices must be integers or slices, not str".toList)
  | .text _ => .error (.typeMismatch "string indices must be integers, not 'str'".toList)
  | other => .error (.typeMismatch
      ("'".toList ++ other.typeName ++ "' object is not subscriptable".toList))

/-- `value.get(key, default)`. -/
def get (value : Value) (key : Text) (default_ : Value) : Except Exn Value :=
  match value with
  | .dict items => .ok ((items.lookup key).getD default_)
  | other => .error (.attributeError
      ("'".toList ++ other.typeName ++ "' object has no attribute 'get'".toList))

def strip : Value → Except Exn Text
  | .text t => .ok (stripText t)
  | other => .error (.attributeError
      ("'".toList ++ other.typeName ++ "' object has no attribute 'strip'".toList))

end Value

end TrackerGateway.Runtime
