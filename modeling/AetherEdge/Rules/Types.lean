import AetherEdge.Common.Float64
import AetherEdge.Common.HashMap
import AetherEdge.Common.Json

/-!
# Rules

The types of the rule engine: a rule and its flow (`libs/aether-rules/src/types.rs`) and its
trigger (`libs/aether-rules/src/scheduler.rs`). What other libraries compute for the engine is
collected in `Libraries`.
-/

namespace AetherEdge.Rules

open List

/-- `serde_json::Value`. -/
abbrev Value := Json SerdeNumber

/-! ## Flows -/

/-- `types.rs:141-145`. -/
structure RuleWires where
  default : List String

/-- `types.rs:149-168`. -/
structure RuleVariable where
  name : String
  instanceId : Option ℕ
  pointType : Option String
  point : Option ℕ
  formula : List Value

/-- `FlowCondition`; `variableName` is its `variables`. -/
structure FlowCondition where
  condType : String
  variableName : Option String
  operator : Option String
  value : Option Value

/-- `RuleSwitchBranch`; nothing reads its type. -/
structure RuleSwitchBranch where
  name : String
  rule : List FlowCondition

/-- `RuleValueAssignment`; `variableName` is its `variables`. -/
structure RuleValueAssignment where
  variableName : String
  value : Value

/-- `types.rs:221-227`. -/
structure CalculationRule where
  output : String
  formula : String

/-- `types.rs:76-137`. -/
inductive RuleNode where
  | start (wires : RuleWires)
  | finish
  | switch (vars : List RuleVariable) (rule : List RuleSwitchBranch)
      (wires : HashMap (List String))
  | changeValue (vars : List RuleVariable) (rule : List RuleValueAssignment)
      (wires : RuleWires)
  | calculation (vars : List RuleVariable) (rule : List CalculationRule) (wires : RuleWires)
  | periodDelta (input output : RuleVariable) (period : String) (wires : RuleWires)

/-- The variables a node declares. -/
def RuleNode.vars : RuleNode → List RuleVariable
  | .start _ | .finish => []
  | .switch vars _ _ | .changeValue vars _ _ | .calculation vars _ _ => vars
  | .periodDelta input output _ _ => [input, output]

/-- `types.rs:65-71`. -/
structure RuleFlow where
  startNode : String
  nodes : HashMap RuleNode

/-- `Rule` without its description and priority, which nothing here reads. -/
structure Rule where
  id : ℤ
  name : String
  enabled : Bool
  cooldownMs : ℕ
  triggerConfig : Option String
  flow : RuleFlow

/-! ## Triggers -/

/-- `scheduler.rs:109-112`. -/
inductive PointKind where
  | measurement
  | action
  deriving DecidableEq, Repr

/-- The key of a point in the maps of the engine: `"M:1:0"` or `"A:1:0"`. -/
def pointKey (kind : PointKind) (instanceId point : ℕ) : String :=
  match kind with
  | .measurement => s!"M:{instanceId}:{point}"
  | .action => s!"A:{instanceId}:{point}"

theorem strBytes_pointKey (kind : PointKind) (instanceId point : ℕ) :
    strBytes (pointKey kind instanceId point) =
      strBytes (match kind with | .measurement => "M:" | .action => "A:") ++
        (strBytes (toString instanceId) ++ 58 :: strBytes (toString point)) := by
  have hcolon : strBytes ":" = [58] := by decide +kernel
  cases kind with
  | measurement =>
    show strBytes ("M:" ++ toString instanceId ++ ":" ++ toString point) = _
    simp only [strBytes_append, hcolon, append_assoc, singleton_append]
  | action =>
    show strBytes ("A:" ++ toString instanceId ++ ":" ++ toString point) = _
    simp only [strBytes_append, hcolon, append_assoc, singleton_append]

theorem pointKey_inj {kind kind' : PointKind} {instanceId instanceId' point point' : ℕ}
    (h : pointKey kind instanceId point = pointKey kind' instanceId' point') :
    kind = kind' ∧ instanceId = instanceId' ∧ point = point' := by
  have hbs := congrArg strBytes h
  rw [strBytes_pointKey, strBytes_pointKey] at hbs
  have hkind : kind = kind' := by
    have hM : strBytes "M:" = [77, 58] := by decide +kernel
    have hA : strBytes "A:" = [65, 58] := by decide +kernel
    cases kind <;> cases kind' <;> simp_all
  subst hkind
  exact ⟨rfl, decimal_pair_inj (by decide) (append_cancel_left hbs)⟩

/-- `scheduler.rs:87-91`. -/
structure PointRef where
  instanceId : ℕ
  pointType : PointKind
  point : ℕ
  deriving DecidableEq, Repr

/-- `cache_key` (`scheduler.rs:96-102`). -/
def PointRef.cacheKey (ref : PointRef) : String := pointKey ref.pointType ref.instanceId ref.point

theorem PointRef.cacheKey_injective : Function.Injective PointRef.cacheKey := by
  rintro ⟨instanceId, kind, point⟩ ⟨instanceId', kind', point'⟩ h
  obtain ⟨hkind, hinst, hpt⟩ := pointKey_inj h
  simp_all

/-- `scheduler.rs:121-124`. -/
inductive ValueDeadband where
  | absolute (threshold : F64)
  | percent (threshold : F64)

/-- `scheduler.rs:155-179`. -/
inductive TriggerConfig where
  | interval (intervalMs : ℕ)
  | onChange (pointRefs : List PointRef) (timeDeadbandMs : Option ℕ)
      (valueDeadband : Option ValueDeadband)

/-- `trigger_subscriptions` (`scheduler.rs:282-287`). -/
def TriggerConfig.pointRefs : TriggerConfig → List PointRef
  | .interval _ => []
  | .onChange refs _ _ => refs

/-- `matches!(trigger, TriggerConfig::OnChange { .. })`. -/
def TriggerConfig.isOnChange : TriggerConfig → Bool
  | .interval _ => false
  | .onChange .. => true

/-! ## Libraries -/

/-- What the engine leaves to other libraries. -/
structure Libraries where
  arithmetic : F64.Arithmetic
  /-- `text.parse::<f64>()` -/
  parseF64 : String → Option F64
  /-- `number.as_f64()` -/
  asF64 : SerdeNumber → F64
  /-- `value.to_string()` -/
  valueText : Value → String
  /-- `eval_number_with_context` of `evalexpr`; an error is its rendered text -/
  evalNumber : String → HashMap F64 → Except String F64
  /-- the values of `serde_json::to_value` at `RuleFlow`, up to `==` -/
  FlowValue : Type
  [decEqFlowValue : DecidableEq FlowValue]
  flowValue : RuleFlow → FlowValue
  /-- `serde_json::from_str` at `TriggerConfig` -/
  parseTrigger : String → Option TriggerConfig

attribute [instance] Libraries.decEqFlowValue

/-- The libraries on the inputs of the examples: every number is `1`, a flow is known by its first
    node, and the only stored trigger watches measurement point 0 of instance 1. -/
def Libraries.sample : Libraries where
  arithmetic := ⟨fun _ _ => F64.zero, fun _ _ => F64.zero, fun _ _ => F64.zero⟩
  parseF64 _ := none
  asF64 _ := F64.one
  valueText _ := "1"
  evalNumber _ _ := .error "no expression"
  FlowValue := String
  flowValue := RuleFlow.startNode
  parseTrigger _ := some (.onChange [⟨1, .measurement, 0⟩] none none)

/-! ## Execution definitions -/

/-- `serde_json::to_value` of a threshold, up to `==`: a number without the sign of zero, or
    `null`. -/
def thresholdValue (threshold : F64) : Option F64 :=
  if threshold.isFinite then some (if threshold.magnitude = 0 then F64.zero else threshold)
  else none

/-- `serde_json::to_value` of a trigger, up to `==`. -/
inductive TriggerValue where
  | interval (intervalMs : ℕ)
  | onChange (pointRefs : List PointRef) (timeDeadbandMs : Option ℕ)
      (valueDeadband : Option (String × Option F64))
  deriving DecidableEq

/-- As it is compared. -/
def ValueDeadband.value : ValueDeadband → String × Option F64
  | .absolute threshold => ("absolute", thresholdValue threshold)
  | .percent threshold => ("percent", thresholdValue threshold)

/-- As it is compared. -/
def TriggerConfig.value : TriggerConfig → TriggerValue
  | .interval intervalMs => .interval intervalMs
  | .onChange refs time deadband => .onChange refs time (deadband.map ValueDeadband.value)

/-- Its points. -/
def TriggerValue.pointRefs : TriggerValue → List PointRef
  | .interval _ => []
  | .onChange refs _ _ => refs

@[simp] theorem TriggerConfig.pointRefs_value (trigger : TriggerConfig) :
    trigger.value.pointRefs = trigger.pointRefs := by
  cases trigger <;> rfl

/-- What `same_execution_definition` compares. -/
structure Definition (libs : Libraries) where
  id : ℤ
  enabled : Bool
  trigger : TriggerValue
  flow : libs.FlowValue
  deriving DecidableEq

/-- The definition that is compared. -/
def definition (libs : Libraries) (rule : Rule) (trigger : TriggerConfig) : Definition libs :=
  ⟨rule.id, rule.enabled, trigger.value, libs.flowValue rule.flow⟩

/-- `same_execution_definition` (`scheduler.rs:268-280`). -/
def sameExecutionDefinition (libs : Libraries) (left : Rule) (leftTrigger : TriggerConfig)
    (right : Rule) (rightTrigger : TriggerConfig) : Bool :=
  decide (definition libs left leftTrigger = definition libs right rightTrigger)

end AetherEdge.Rules
