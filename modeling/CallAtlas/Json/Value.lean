/-! # JSON values

    A JSON value. The fields of an object keep the order in which they were written, each key
    once. A number is a natural number or a negative integer of at most 64 bits, or else a
    double.
-/

namespace CallAtlas

namespace Json

inductive Number where
  /-- At most 2^64 - 1. -/
  | natural (n : Nat)
  /-- The number `-n`, for `1 ≤ n ≤ 2^63`. -/
  | negative (n : Nat)
  | float (x : Float)
  deriving Inhabited

/-- The number as a double. -/
def Number.toFloat : Number → Float
  | natural n => n.toFloat
  | negative n => -n.toFloat
  | float x => x

end Json

inductive Json where
  | null
  | bool (b : Bool)
  | number (n : Json.Number)
  | string (s : String)
  | array (items : List Json)
  | object (fields : List (String × Json))
  deriving Inhabited

namespace Json

/-- The value of a field, if this is an object that has it. -/
def field? (key : String) : Json → Option Json
  | object fields => fields.lookup key
  | _ => none

def string? : Json → Option String
  | string s => some s
  | _ => none

def bool? : Json → Option Bool
  | bool b => some b
  | _ => none

def array? : Json → Option (List Json)
  | array items => some items
  | _ => none

def natural? : Json → Option Nat
  | number (.natural n) => some n
  | _ => none

/-- Any number, as a double. -/
def float? : Json → Option Float
  | number n => some n.toFloat
  | _ => none

/-- Sets a field: a key that is there keeps its place and takes the new value. -/
def putField (fields : List (String × Json)) (key : String) (value : Json) :
    List (String × Json) :=
  if fields.any (·.1 == key) then
    fields.map fun (k, v) => if k == key then (k, value) else (k, v)
  else fields ++ [(key, value)]

end Json

end CallAtlas
