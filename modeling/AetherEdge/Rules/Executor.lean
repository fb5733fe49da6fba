import AetherEdge.Rules.Types

/-!
# The rule executor

Model of `RuleExecutor::execute` (`libs/aether-rules/src/executor.rs`): the walk over the nodes
of a flow, with everything it reads, evaluates and dispatches on the way. Live values may change
between any two reads and a command may be accepted or refused, so the surroundings
(`Environment`) answer each access separately: the `n`-th access of an execution is made at
moment `n`.

* `readRuleVariables`: the variables of a node;
* `evaluateFlowConditions`, `evaluateRuleSwitch`: the branches of a switch;
* `executeRuleChange`, `writeToPoint`: the actions;
* `runNode`, `execute`: the walk. An execution also keeps the list of its readings (`reads`),
  which nothing looks at but statements about it.
-/

namespace AetherEdge.Rules

/-! ## Results -/

/-- The codes of `point_type_to_static`. -/
inductive PointCode where
  | m
  | a
  | t
  | s
  | c
  deriving DecidableEq, Repr

/-- `point_type_to_static` (lines 25-34). -/
def pointTypeToStatic (pointType : Option String) (default : PointCode) : PointCode :=
  match pointType with
  | some "M" | some "measurement" => .m
  | some "A" | some "action" => .a
  | some "T" | some "telemetry" => .t
  | some "S" | some "status" => .s
  | some "C" | some "control" => .c
  | _ => default

/-- `ActionResult`; its target type is always `"instance"`. -/
structure ActionResult where
  targetId : ℕ
  pointType : PointCode
  pointId : ℕ
  value : F64
  success : Bool

/-- Lines 255-262. -/
structure ConditionResult where
  expression : String
  result : Bool
  port : String

/-- Lines 237-251. -/
structure NodeExecutionDetail where
  nodeType : String
  inputValues : HashMap F64
  conditionResults : Option (List ConditionResult)
  matchedPort : Option String
  actions : Option (List ActionResult)

/-- Lines 196-214. -/
structure RuleExecutionResult where
  ruleId : ℤ
  success : Bool
  actionsExecuted : List ActionResult
  error : Option String
  executionPath : List String
  matchedCondition : Option String
  variableValues : HashMap F64
  pointValues : HashMap F64
  nodeDetails : HashMap NodeExecutionDetail

/-! ## The surroundings -/

/-- `RuleActionCommand`; its target is an action point. -/
structure RuleActionCommand where
  instanceId : ℕ
  point : ℕ
  value : F64
  topologyFence : Option ℕ

/-- What the rest of the system answers to an execution. The first argument of an answer is the
    moment of the access. -/
structure Environment where
  /-- the fence of `begin_execution` -/
  fence : Option ℕ
  /-- whether a command facade is installed -/
  hasCommands : Bool
  /-- `get_instance_for_execution`; no timestamp is used -/
  reading : ℕ → PointKind → ℕ → ℕ → Option F64
  /-- whether `write_action` returns a receipt -/
  accepts : ℕ → RuleActionCommand → Bool
  /-- `CalcEngine::evaluate` in the given context, with the state it has then -/
  evaluate : ℕ → String → String → HashMap F64 → Except String F64
  /-- `period_delta` in the given context, under the given key -/
  periodDelta : ℕ → String → String → F64 → String → Except String F64

/-- One reading of a point, and the moment at which it was made. -/
structure Reading where
  key : String
  value : Option F64
  moment : ℕ
  deriving DecidableEq

/-! ## Reading variables -/

/-- The mutable state of `read_rule_variables_for_execution`: the values of the execution, the
    outcome of this pass, and the readings so far. -/
structure ReadState where
  values : HashMap F64
  valuesChanged : Bool
  missing : List String
  pointValues : HashMap F64
  moment : ℕ
  reads : List Reading

section Reading

variable (libs : Libraries) (env : Environment)

/-- One reading of a variable's point. -/
def ReadState.readPoint (st : ReadState) (name : String) (kind : PointKind)
    (instanceId point : ℕ) : ReadState :=
  let value := env.reading st.moment kind instanceId point
  let key := pointKey kind instanceId point
  let st := { st with moment := st.moment + 1, reads := st.reads ++ [⟨key, value, st.moment⟩] }
  match value.filter F64.isFinite with
  | some value =>
    { st with
      pointValues := st.pointValues.insert key value
      valuesChanged := st.valuesChanged ||
        (st.values.get name).all fun previous => previous.totalCmp value != .eq
      values := st.values.insert name value }
  | none =>
    -- an action point that has no value yet stays unset
    match kind with
    | .action => st
    | .measurement => { st with missing := st.missing ++ [name] }

/-- `point_type.unwrap_or("measurement") == "action"`. -/
def RuleVariable.kind (v : RuleVariable) : PointKind :=
  if v.pointType = some "action" then .action else .measurement

/-- The first phase: the variables without a formula. An error leaves what has been read so far in
    the state. -/
def readBase : List RuleVariable → ReadState → Option String × ReadState
  | [], st => (none, st)
  | v :: vars, st =>
    if v.formula ≠ [] then readBase vars st
    else
      match v.instanceId with
      | none => (some s!"Rule execution error: Variable '{v.name}' is missing instance_id", st)
      | some instanceId =>
        match v.point with
        | none => (some s!"Rule execution error: Variable '{v.name}' is missing point_id", st)
        | some point => readBase vars (st.readPoint env v.name v.kind instanceId point)

/-- A token in `evaluate_token_formula` (lines 129-151). -/
def tokenText : Value → String
  | .string text => text
  | other => libs.valueText other

/-- `evaluate_token_formula` (lines 129-151). -/
def evaluateTokenFormula (tokens : List Value) (values : HashMap F64) : Option F64 :=
  match libs.evalNumber (" ".intercalate (tokens.map (tokenText libs))) values with
  | .ok value => some value
  | .error _ => none

/-- The second phase: one variable with a formula. -/
def ReadState.readFormula (st : ReadState) (v : RuleVariable) : ReadState :=
  if v.formula = [] then st
  else
    match evaluateTokenFormula libs v.formula st.values with
    | some value =>
      { st with
        valuesChanged := st.valuesChanged ||
          (st.values.get v.name).all fun previous => !previous.eq value
        values := st.values.insert v.name value }
    | none => { st with missing := st.missing ++ [v.name] }

/-- `outcome.missing.join(", ")`. -/
def ReadState.missingText (st : ReadState) : String := ", ".intercalate st.missing

/-- `read_rule_variables_for_execution` (lines 804-913). -/
def readRuleVariables (vars : List RuleVariable) (values : HashMap F64) (moment : ℕ)
    (reads : List Reading) : Option String × ReadState :=
  match readBase env vars ⟨values, false, [], HashMap.empty, moment, reads⟩ with
  | (some error, st) => (some error, st)
  | (none, st) => (none, vars.foldl (ReadState.readFormula libs) st)

end Reading

/-! ## Conditions -/

section Conditions

variable (libs : Libraries)

/-- `as_str`. -/
def Value.asStr : Value → Option String
  | .string text => some text
  | _ => none

/-- The right-hand side of a condition. -/
def conditionOperand (values : HashMap F64) : Option Value → Option F64
  | some (.number n) => some (libs.asF64 n)
  | some (.string text) =>
    match values.get text with
    | some value => some value
    | none => libs.parseF64 text
  | _ => some F64.zero

/-- The tolerant equality of conditions. -/
def nearlyEqual (left right : F64) : Bool :=
  left.eq right ||
    (left.isFinite && right.isFinite &&
      (libs.arithmetic.sub left right).abs.le
        (libs.arithmetic.mul F64.epsilon ((left.abs.max right.abs).max F64.one)))

/-- `evaluate_flow_condition` (lines 1003-1062). -/
def evaluateFlowCondition (cond : FlowCondition) (values : HashMap F64) : Bool :=
  match cond.variableName.bind values.get with
  | none => false
  | some left =>
    match conditionOperand libs values cond.value with
    | none => false
    | some right =>
      match cond.operator.getD "==" with
      | "==" | "eq" => nearlyEqual libs left right
      | "!=" | "ne" => !nearlyEqual libs left right
      | ">" | "gt" => right.lt left
      | "<" | "lt" => left.lt right
      | ">=" | "gte" => right.le left
      | "<=" | "lte" => left.le right
      | _ => false

/-- The relations that mean "or". -/
def isOr (relation : Option String) : Bool :=
  relation = some "||" || relation = some "or" || relation = some "OR"

/-- The loop of `evaluate_flow_conditions` (lines 964-1000). -/
def foldConditions (values : HashMap F64) : List FlowCondition → Option String → Bool → Bool
  | [], _, result => result
  | cond :: conds, relation, result =>
    if cond.condType = "relation" then
      foldConditions values conds (cond.value.bind Value.asStr) result
    else
      let condResult := evaluateFlowCondition libs cond values
      foldConditions values conds none
        (if isOr relation then result || condResult else result && condResult)

/-- `evaluate_flow_conditions` (lines 964-1000). -/
def evaluateFlowConditions (conds : List FlowCondition) (values : HashMap F64) : Bool :=
  if conds.isEmpty then true else foldConditions libs values conds none true

/-- `text.trim_matches('"')`. -/
def trimQuotes (text : String) : String :=
  String.ofList
    ((text.toList.dropWhile (· = '"')).reverse.dropWhile (· = '"')).reverse

/-- The loop of `format_conditions` (`logger.rs:150-192`). -/
def formatParts : List FlowCondition → Option String → List String
  | [], _ => []
  | cond :: conds, relation =>
    if cond.condType = "relation" then formatParts conds (cond.value.bind Value.asStr)
    else
      match cond.variableName with
      | none => formatParts conds relation
      | some name =>
        let value := (cond.value.map fun v => trimQuotes (libs.valueText v)).getD ""
        let expr := name ++ cond.operator.getD "==" ++ value
        match relation with
        | some _ => (if isOr relation then " || " else " && ") :: expr :: formatParts conds none
        | none => expr :: formatParts conds none

/-- `format_conditions` (`logger.rs:150-192`). -/
def formatConditions (conds : List FlowCondition) : String :=
  String.join (formatParts libs conds none)

/-- `evaluate_all_conditions` (lines 944-961). -/
def evaluateAllConditions (rules : List RuleSwitchBranch) (values : HashMap F64) :
    List ConditionResult :=
  rules.map fun rule =>
    ⟨formatConditions libs rule.rule, evaluateFlowConditions libs rule.rule values, rule.name⟩

/-- `evaluate_rule_switch_with_details` (lines 918-939): the next node, the matched port and the
    matched condition. -/
def evaluateRuleSwitch (rules : List RuleSwitchBranch) (wires : HashMap (List String))
    (values : HashMap F64) : Option String × Option String × Option String :=
  match rules.find? fun rule => evaluateFlowConditions libs rule.rule values with
  | some rule =>
    ((wires.get rule.name).bind List.head?, some rule.name, some (formatConditions libs rule.rule))
  | none => (none, none, none)

end Conditions

/-! ## Actions -/

/-- `validate_write_target` (lines 41-108). -/
def validateWriteTarget (v : RuleVariable) (rawValue : F64) (default : PointCode) :
    Except ActionResult (ℕ × ℕ × F64 × PointCode) :=
  let code := pointTypeToStatic v.pointType default
  if !rawValue.isFinite then
    .error ⟨v.instanceId.getD 0, code, v.point.getD 0, F64.nan, false⟩
  else
    match v.instanceId with
    | none => .error ⟨0, code, 0, rawValue, false⟩
    | some instanceId =>
      match v.point with
      | none => .error ⟨instanceId, code, 0, rawValue, false⟩
      | some point => .ok (instanceId, point, rawValue, code)

/-- `action_skipped` (lines 156-172). -/
def actionSkipped (v : RuleVariable) : ActionResult :=
  ⟨v.instanceId.getD 0, pointTypeToStatic v.pointType .a, v.point.getD 0, F64.nan, false⟩

section Actions

variable (libs : Libraries) (env : Environment)

/-- `write_to_point` (lines 1127-1159) with `write_action_point`; a measurement write is always
    refused. Returns the result and the moment after it. -/
def writeToPoint (moment instanceId point : ℕ) (value : F64) (code : PointCode) :
    ActionResult × ℕ :=
  match code with
  | .a =>
    if env.hasCommands then
      (⟨instanceId, .a, point, value, env.accepts moment ⟨instanceId, point, value, env.fence⟩⟩,
        moment + 1)
    else (⟨instanceId, .a, point, value, false⟩, moment)
  | code => (⟨instanceId, code, point, value, false⟩, moment)

/-- In `execute_rule_change_for_execution` (lines 1081-1124). -/
def assignmentOperand (values : HashMap F64) : Value → Option F64
  | .number n => some (libs.asF64 n)
  | .string text =>
    match libs.parseF64 text with
    | some value => some value
    | none => values.get text
  | _ => none

/-- `execute_rule_change_for_execution` (lines 1081-1124). -/
def executeRuleChange (v : RuleVariable) (assignment : RuleValueAssignment) (values : HashMap F64)
    (moment : ℕ) : ActionResult × ℕ :=
  match assignmentOperand libs values assignment.value with
  | none => (actionSkipped v, moment)
  | some rawValue =>
    match validateWriteTarget v rawValue .a with
    | .error action => (action, moment)
    | .ok (instanceId, point, value, code) => writeToPoint env moment instanceId point value code

/-- `write_calculation_result` (lines 1199-1224). -/
def writeCalculationResult (v : RuleVariable) (rawValue : F64) (moment : ℕ) : ActionResult × ℕ :=
  match validateWriteTarget v rawValue .m with
  | .error action => (action, moment)
  | .ok (instanceId, point, value, code) => writeToPoint env moment instanceId point value code

/-- `write_period_delta_result` (lines 1227-1259). -/
def writePeriodDeltaResult (v : RuleVariable) (rawValue : F64) (moment : ℕ) : ActionResult × ℕ :=
  match validateWriteTarget v rawValue .m with
  | .error action => (action, moment)
  | .ok (instanceId, point, value, _) => writeToPoint env moment instanceId point value .m

end Actions

/-! ## Nodes -/

/-- The mutable state of `execute` and the readings so far. -/
structure ExecState where
  values : HashMap F64
  pointValues : HashMap F64
  valuesSnapshot : Option (HashMap F64)
  result : RuleExecutionResult
  moment : ℕ
  reads : List Reading

namespace ExecState

/-- `result.error = Some(error)`. -/
def withError (st : ExecState) (error : String) : ExecState :=
  { st with result := { st.result with error := some error } }

/-- What a pass over the variables of a node leaves when it fails. -/
def afterFailedRead (st : ExecState) (r : ReadState) : ExecState :=
  { st with values := r.values, moment := r.moment, reads := r.reads }

/-- What it leaves otherwise: `point_values.extend(outcome.point_values)`. -/
def afterRead (st : ExecState) (r : ReadState) : ExecState :=
  { st.afterFailedRead r with pointValues := st.pointValues.extend r.pointValues }

/-- `result.variable_values = take(values); result.point_values = take(point_values)`. -/
def report (st : ExecState) : ExecState :=
  { st with
    result := { st.result with variableValues := st.values, pointValues := st.pointValues } }

/-- `snapshot_or_reuse` (lines 113-124) and the copy of it in the result. -/
def takeSnapshot (st : ExecState) (valuesChanged : Bool) : HashMap F64 × ExecState :=
  let snapshot :=
    match valuesChanged, st.valuesSnapshot with
    | false, some snapshot => snapshot
    | _, _ => st.values
  (snapshot,
    { st with
      valuesSnapshot := some snapshot
      result := { st.result with variableValues := snapshot } })

/-- `result.node_details.insert(node_id, detail)`. -/
def withDetail (st : ExecState) (nodeId : String) (detail : NodeExecutionDetail) : ExecState :=
  { st with result := { st.result with nodeDetails := st.result.nodeDetails.insert nodeId detail } }

/-- `result.actions_executed.push(action)`, at the moment after the action. -/
def withAction (st : ExecState) (action : ActionResult × ℕ) : ExecState :=
  { st with
    moment := action.2
    result := { st.result with actionsExecuted := st.result.actionsExecuted ++ [action.1] } }

end ExecState

/-- A node passes on to the next one, or ends the execution. -/
inductive NodeStep where
  | next (nodeId : String) (st : ExecState)
  | stop (st : ExecState)

/-- The state after a node. -/
def NodeStep.state : NodeStep → ExecState
  | .next _ st | .stop st => st

/-- `match wires.default.first()`. -/
def followWires (wires : RuleWires) (st : ExecState) (error : String) : NodeStep :=
  match wires.default.head? with
  | some nodeId => .next nodeId st
  | none => .stop (st.withError error)

section Nodes

variable (libs : Libraries) (env : Environment) (ruleId : ℤ)

/-- The arm of `RuleNode::End`. -/
def runEnd (st : ExecState) : ExecState :=
  let st := st.report
  let failed := (st.result.actionsExecuted.filter fun action => !action.success).length
  if failed = 0 then { st with result := { st.result with success := true } }
  else
    { st with result := { st.result with success := false } }.withError
      s!"{failed} of {st.result.actionsExecuted.length} attempted rule actions failed"

/-- The arm of `RuleNode::Switch`. -/
def runSwitch (nodeId : String) (vars : List RuleVariable) (rules : List RuleSwitchBranch)
    (wires : HashMap (List String)) (st : ExecState) : NodeStep :=
  match readRuleVariables libs env vars st.values st.moment st.reads with
  | (some error, r) =>
    .stop ((st.afterFailedRead r).report.withError s!"Failed to read variables: {error}")
  | (none, r) =>
    let st := st.afterRead r
    if r.missing ≠ [] then
      .stop (st.report.withError
        s!"Rule cycle skipped: variables unavailable: {r.missingText}")
    else
      let (snapshot, st) := st.takeSnapshot r.valuesChanged
      let conditionResults := evaluateAllConditions libs rules st.values
      let (nextNode, matchedPort, matchedCondition) := evaluateRuleSwitch libs rules wires st.values
      let st := { st with result := { st.result with matchedCondition := matchedCondition } }
      let st := st.withDetail nodeId
        ⟨"switch", snapshot, some conditionResults, matchedPort, none⟩
      match nextNode with
      | some nodeId => .next nodeId st
      | none =>
        .stop (st.withError
          (match matchedPort with
          | some port => s!"Matched switch output has no wire: {port}"
          | none => "No matching switch rule"))

/-- The assignments of a `ChangeValue` node, in order. Returns the actions of the node. -/
def runAssignments (vars : List RuleVariable) :
    List RuleValueAssignment → ExecState → List ActionResult × ExecState
  | [], st => ([], st)
  | assignment :: assignments, st =>
    match vars.find? fun v => v.name = assignment.variableName with
    | none => runAssignments vars assignments st
    | some v =>
      let action := executeRuleChange libs env v assignment st.values st.moment
      let (actions, st) := runAssignments vars assignments (st.withAction action)
      (action.1 :: actions, st)

/-- The arm of `RuleNode::ChangeValue`. -/
def runChangeValue (nodeId : String) (vars : List RuleVariable)
    (assignments : List RuleValueAssignment) (wires : RuleWires) (st : ExecState) : NodeStep :=
  match assignments.find? fun assignment =>
      !vars.any fun v => decide (v.name = assignment.variableName) with
  | some assignment =>
    .stop (st.withError s!"ChangeValue target variable not found: {assignment.variableName}")
  | none =>
    match readRuleVariables libs env vars st.values st.moment st.reads with
    | (some error, r) =>
      .stop ((st.afterFailedRead r).withError s!"Failed to read variables: {error}")
    | (none, r) =>
      let st := st.afterRead r
      if r.missing ≠ [] then
        .stop (st.withError
          s!"Rule cycle skipped: variables unavailable: {r.missingText}")
      else
        let (snapshot, st) := st.takeSnapshot r.valuesChanged
        let (actions, st) := runAssignments libs env vars assignments st
        followWires wires (st.withDetail nodeId ⟨"change", snapshot, none, none, some actions⟩)
          "ChangeValue node has no output wire"

/-- The context of the rule's stateful functions. -/
def calcContext : String := s!"rule_{ruleId}"

/-- What follows the evaluation of one formula: the write to the output variable, if the node has
    it, and the new value. -/
def writeCalculation (vars : List RuleVariable) (calculation : CalculationRule) (value : F64)
    (st : ExecState) : List ActionResult × ExecState :=
  let (actions, st) :=
    match vars.find? fun v => v.name = calculation.output with
    | none => ([], st)
    | some v =>
      let action := writeCalculationResult env v value st.moment
      ([action.1], st.withAction action)
  (actions, { st with values := st.values.insert calculation.output value })

/-- The formulas of a `Calculation` node, in order: the actions of the node, or the error that ends
    the execution. -/
def runCalculations (vars : List RuleVariable) :
    List CalculationRule → ExecState → Except String (List ActionResult) × ExecState
  | [], st => (.ok [], st)
  | calculation :: calcs, st =>
    let value := env.evaluate st.moment (calcContext ruleId) calculation.formula st.values
    let st := { st with moment := st.moment + 1 }
    match value with
    | .error e => (.error s!"Calc '{calculation.formula}' error: {e}", st)
    | .ok value =>
      let (actions, st) := writeCalculation env vars calculation value st
      let (rest, st) := runCalculations vars calcs st
      (rest.map (actions ++ ·), st)

/-- `handle_calculation_node` (lines 602-681). -/
def runCalculation (nodeId : String) (vars : List RuleVariable) (calcs : List CalculationRule)
    (wires : RuleWires) (st : ExecState) : NodeStep :=
  match readRuleVariables libs env vars st.values st.moment st.reads with
  | (some error, r) =>
    .stop ((st.afterFailedRead r).withError s!"Failed to read variables: {error}")
  | (none, r) =>
    let st := st.afterRead r
    if r.missing ≠ [] then
      .stop (st.withError
        s!"Calculation skipped: variables unavailable: {r.missingText}")
    else
      let (snapshot, st) := st.takeSnapshot r.valuesChanged
      match runCalculations env ruleId vars calcs st with
      | (.error error, st) => .stop (st.withError error)
      | (.ok actions, st) =>
        followWires wires
          ({ st with valuesSnapshot := none }.withDetail nodeId
            ⟨"calculation", snapshot, none, none, some actions⟩)
          "Calculation node has no output wire"

/-- The `{}` rendering of a value that is not finite. -/
def nonFiniteText (value : F64) : String :=
  if value.isNan then "NaN" else if value.lt F64.zero then "-inf" else "inf"

/-- `handle_period_delta_node` (lines 685-787). -/
def runPeriodDelta (nodeId : String) (input output : RuleVariable) (period : String)
    (wires : RuleWires) (st : ExecState) : NodeStep :=
  match readRuleVariables libs env [input] st.values st.moment st.reads with
  | (some error, r) =>
    .stop ((st.afterFailedRead r).withError s!"Failed to read input variable: {error}")
  | (none, r) =>
    let st := st.afterRead r
    if r.missing ≠ [] then
      .stop (st.withError
        s!"PeriodDelta skipped: input variable unavailable: {r.missingText}")
    else
      let (snapshot, st) := st.takeSnapshot r.valuesChanged
      match st.values.get input.name with
      | none =>
        .stop (st.withError
          s!"PeriodDelta skipped: input variable '{input.name}' unavailable after read")
      | some value =>
        if !value.isFinite then
          let text := nonFiniteText value
          .stop (st.withError
            s!"PeriodDelta skipped: input variable '{input.name}' is non-finite ({text})")
        else
          let instanceId := input.instanceId.getD 0
          let point := input.point.getD 0
          match env.periodDelta st.moment (calcContext ruleId) s!"{ruleId}:{instanceId}:{point}"
              value period with
          | .error e =>
            .stop ({ st with moment := st.moment + 1 }.withError s!"period_delta error: {e}")
          | .ok delta =>
            let action := writePeriodDeltaResult env output delta (st.moment + 1)
            let st := st.withAction action
            let st := { st with values := st.values.insert output.name delta, valuesSnapshot := none }
            followWires wires
              (st.withDetail nodeId ⟨"periodDelta", snapshot, none, none, some [action.1]⟩)
              "PeriodDelta node has no output wire"

/-- The match of `execute` (lines 312-598) over the node. -/
def runNode (nodeId : String) (st : ExecState) : RuleNode → NodeStep
  | .finish => .stop (runEnd st)
  | .start wires => followWires wires st "Start node has no output wire"
  | .switch vars rules wires => runSwitch libs env nodeId vars rules wires st
  | .changeValue vars assignments wires => runChangeValue libs env nodeId vars assignments wires st
  | .calculation vars calcs wires => runCalculation libs env ruleId nodeId vars calcs wires st
  | .periodDelta input output period wires =>
    runPeriodDelta libs env ruleId nodeId input output period wires st

end Nodes

/-! ## Executions -/

/-- The bound in `execute` (lines 312-598). -/
def maxIterations : ℕ := 100

/-- `result.execution_path.push(node_id)`. -/
def ExecState.visit (st : ExecState) (nodeId : String) : ExecState :=
  { st with result := { st.result with executionPath := st.result.executionPath ++ [nodeId] } }

/-- The loop of `execute` (lines 312-598), with the number of iterations left. -/
def runFlow (libs : Libraries) (env : Environment) (rule : Rule) :
    ℕ → String → ExecState → ExecState
  | 0, _, st => st.withError "Execution exceeded maximum iterations"
  | iterations + 1, nodeId, st =>
    let st := st.visit nodeId
    match rule.flow.nodes.get nodeId with
    | none => st.withError s!"Node not found: {nodeId}"
    | some node =>
      match runNode libs env rule.id nodeId st node with
      | .next nodeId st => runFlow libs env rule iterations nodeId st
      | .stop st => st

/-- The state an execution starts in. -/
def ExecState.initial (rule : Rule) : ExecState where
  values := HashMap.empty
  pointValues := HashMap.empty
  valuesSnapshot := none
  result := ⟨rule.id, false, [], none, [], none, HashMap.empty, HashMap.empty, HashMap.empty⟩
  moment := 0
  reads := []

/-- `RuleExecutor::execute` (lines 312-598): the state it ends in. It never returns an error. -/
def execute (libs : Libraries) (env : Environment) (rule : Rule) : ExecState :=
  runFlow libs env rule maxIterations rule.flow.startNode (ExecState.initial rule)

end AetherEdge.Rules
