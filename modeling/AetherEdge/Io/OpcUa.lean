import AetherEdge.Io.PointConfig

/-!
# The writes of the OPC UA adapter

Model of `write_control` and `write_adjustment` of `OpcUaChannel`
(`services/io/src/protocols/adapters/opcua.rs`). The session is a library that is not part of the
repository: writing one node is a parameter, and what it comes to is decided by the session's state.
-/

namespace AetherEdge.Io

/-- Lines 69-73. -/
structure OpcUaAddress where
  nodeId : String
  namespaceIndex : UInt16
  deriving DecidableEq

/-- The values of `Variant` that the adapter writes. -/
inductive Variant where
  | boolean (value : Bool)
  | double (value : F64)
  deriving DecidableEq

namespace OpcUaChannel

variable {κ : Type} (arith : F64.Arithmetic)
  (writeSingleValue : OpcUaAddress × Variant → κ → Except String Unit × κ)

/-- The message of a control command, if it is sent. -/
def controlMessage (points : List (PointConfig OpcUaAddress)) (command : UInt32 × F64) :
    Option (OpcUaAddress × Bool) :=
  (findPoint points command.1).map fun point =>
    (point.address, point.transform.applyBool (!command.2.eq .zero))

/-- The message of an adjustment command, if it is sent. -/
def adjustmentMessage (points : List (PointConfig OpcUaAddress)) (command : UInt32 × F64) :
    Option (OpcUaAddress × F64) :=
  match findPoint points command.1 with
  | none => none
  | some point =>
    match point.transform.reverseApply arith command.2 with
    | .error _ => none
    | .ok raw => some (point.address, raw)

/-- `write_control` (lines 1225-1253): the writes that succeeded and the session. -/
def writeControl (points : List (PointConfig OpcUaAddress)) (commands : List (UInt32 × F64))
    (session : κ) : ℕ × κ :=
  sendAll (fun message => writeSingleValue (message.1, .boolean message.2))
    (commands.filterMap (controlMessage points)) 0 session

/-- `write_adjustment` (lines 1189-1223). -/
def writeAdjustment (points : List (PointConfig OpcUaAddress)) (commands : List (UInt32 × F64))
    (session : κ) : ℕ × κ :=
  sendAll (fun message => writeSingleValue (message.1, .double message.2))
    (commands.filterMap (adjustmentMessage arith points)) 0 session

end OpcUaChannel

end AetherEdge.Io
