import AetherEdge.Common.Text

/-!
# JSON values

A JSON value over an arbitrary type of numbers `ν`, and `SerdeNumber`: the numbers of a parsed
document, which keep integers and floats apart.
-/

namespace AetherEdge

/-- A JSON value. The members of an object are in the order of its map. -/
inductive Json (ν : Type) where
  | null
  | bool (value : Bool)
  | number (value : ν)
  | string (value : String)
  | array (items : List (Json ν))
  | object (fields : List (String × Json ν))
  deriving Repr

namespace Json

variable {ν : Type}

/-- The member of an object. -/
def get? (key : String) : Json ν → Option (Json ν)
  | object fields => fields.lookup key
  | _ => none

/-- `as_str`. -/
def asStr : Json ν → Option String
  | string value => some value
  | _ => none

end Json

/-! ## Numbers -/

/-- The bit pattern of a finite binary64 number: its exponent field is not all ones. -/
structure FiniteF64 where
  bits : UInt64
  finite : (bits >>> 52) % 2048 ≠ 2047

/-- `serde_json::Number`: unsigned and negative integers and finite floats. -/
inductive SerdeNumber where
  | posInt (value : UInt64)
  | negInt (value : Int64)
  | float (value : FiniteF64)

end AetherEdge
