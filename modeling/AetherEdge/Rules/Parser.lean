import AetherEdge.Rules.Types

/-!
# Parsing a flow

`extract_rule_flow` (`libs/aether-rules/src/parser.rs`) turns the document of the flow editor into
the nodes that the engine walks. It rejects a node it cannot read, but files the nodes in a map by
id, where a later node replaces an earlier one.

* `extracted_compactNode`: what a node that is read consists of;
* `entries_of_extractRuleFlow`: the flow of an accepted document, from its nodes in order.

An error is the text of its `RuleError::ParseError`.
-/

namespace AetherEdge.Rules

open List

/-! ## Reading a document -/

/-- `found.ok_or(..)`. -/
def orError {α : Type} (message : String) : Option α → Except String α
  | some value => .ok value
  | none => .error message

theorem orError_eq_ok {α : Type} {message : String} {found : Option α} {value : α} :
    orError message found = .ok value ↔ found = some value := by
  cases found <;> simp [orError]

/-- `as_array`. -/
def asArray : Value → Option (List Value)
  | .array items => some items
  | _ => none

/-- `value.as_u64()` and `u32::try_from`. -/
def asU32 : Value → Option ℕ
  | .number (.posInt n) => if n.toNat < 2 ^ 32 then some n.toNat else none
  | _ => none

/-- `value.get(key).and_then(|v| v.as_str())`. -/
def textAt (key : String) (value : Value) : Option String := (value.get? key).bind Json.asStr

/-- `value.get(key).and_then(|v| v.as_array())`. -/
def arrayAt (key : String) (value : Value) : Option (List Value) := (value.get? key).bind asArray

/-- The texts of an array. -/
def targets (value : Value) : List String := ((asArray value).getD []).filterMap Json.asStr

/-- `parse_rule_variable` (lines 259-298). -/
def parseRuleVariable (missingName : String) (var : Value) : Except String RuleVariable := do
  let name ← orError missingName (textAt "name" var)
  return {
    name
    instanceId := ((var.get? "instance").or (var.get? "instance_id")).bind asU32
    pointType := textAt "pointType" var
    point := ((var.get? "point_id").or (var.get? "point")).bind asU32
    formula := (arrayAt "formula" var).getD [] }

/-- `extract_rule_wires_default` (lines 111-128). -/
def extractRuleWiresDefault (data : Option Value) : RuleWires :=
  let config := (data.bind (·.get? "config")).or data
  ⟨(((config.bind (·.get? "wires")).bind (·.get? "default")).map targets).getD []⟩

/-- `extract_rule_wires_map` (lines 445-465). -/
def extractRuleWiresMap (config : Value) : HashMap (List String) :=
  match config.get? "wires" with
  | some (.object fields) => HashMap.empty.fill fields Prod.fst fun field => some (targets field.2)
  | _ => .empty

/-- `extract_single_rule_variable` (lines 301-307). -/
def extractSingleRuleVariable (config : Value) (fieldName : String) : Except String RuleVariable :=
  do
    let var ← orError s!"PeriodDelta node missing '{fieldName}'" (config.get? fieldName)
    parseRuleVariable s!"{fieldName} variable missing 'name'" var

/-- The loop over an array of a configuration; without the array there is nothing to extract. -/
def extractEach {α : Type} (key : String) (extract : Value → Except String α) (config : Value) :
    Except String (List α) :=
  ((arrayAt key config).getD []).mapM extract

/-- `extract_rule_variables` (lines 310-320). -/
def extractRuleVariables : Value → Except String (List RuleVariable) :=
  extractEach "variables" (parseRuleVariable "Variable missing 'name'")

/-- `extract_flow_conditions` (lines 356-389). -/
def extractFlowConditions : Value → Except String (List FlowCondition) :=
  extractEach "rule" fun item => .ok {
    condType := (textAt "type" item).getD "variable"
    variableName := textAt "variables" item
    operator := textAt "operator" item
    value := item.get? "value" }

/-- `extract_rule_switch_branches` (lines 323-353). -/
def extractRuleSwitchBranches : Value → Except String (List RuleSwitchBranch) :=
  extractEach "rule" fun rule => do
    let name ← orError "Rule missing 'name'" (textAt "name" rule)
    return ⟨name, ← extractFlowConditions rule⟩

/-- `extract_rule_value_assignments` (lines 392-415). -/
def extractRuleValueAssignments : Value → Except String (List RuleValueAssignment) :=
  extractEach "rule" fun rule => do
    let variableName ← orError "Assignment missing 'Variables'" (textAt "Variables" rule)
    return ⟨variableName, ← orError "Assignment missing 'value'" (rule.get? "value")⟩

/-- `extract_calculation_rules` (lines 418-442). -/
def extractCalculationRules : Value → Except String (List CalculationRule) :=
  extractEach "rule" fun rule => do
    let output ← orError "Calculation rule missing 'output'" (textAt "output" rule)
    return ⟨output, ← orError "Calculation rule missing 'formula'" (textAt "formula" rule)⟩

/-! ## Nodes -/

/-- `extract_switch_rule_node` (lines 131-150). -/
def extractSwitchRuleNode (data : Option Value) : Except String RuleNode := do
  let config ← orError "Switch node missing 'config'" (data.bind (·.get? "config"))
  return .switch (← extractRuleVariables config) (← extractRuleSwitchBranches config)
    (extractRuleWiresMap config)

/-- What a change-value and a calculation node share: without a configuration they have no
    variables and no rules. -/
def extractActionNode {α : Type} (extractRules : Value → Except String (List α))
    (node : List RuleVariable → List α → RuleWires → RuleNode) (data : Option Value) :
    Except String RuleNode := do
  let config := data.bind (·.get? "config")
  return node (← config.elim (.ok []) extractRuleVariables) (← config.elim (.ok []) extractRules)
    (extractRuleWiresDefault config)

/-- `extract_change_value_rule_node` (lines 153-176). -/
def extractChangeValueRuleNode : Option Value → Except String RuleNode :=
  extractActionNode extractRuleValueAssignments .changeValue

/-- `extract_calculation_rule_node` (lines 179-202). -/
def extractCalculationRuleNode : Option Value → Except String RuleNode :=
  extractActionNode extractCalculationRules .calculation

/-- `extract_period_delta_rule_node` (lines 218-253). -/
def extractPeriodDeltaRuleNode (data : Option Value) : Except String RuleNode := do
  let config ← orError "PeriodDelta node missing 'config'" (data.bind (·.get? "config"))
  let input ← extractSingleRuleVariable config "input"
  let output ← extractSingleRuleVariable config "output"
  let period ← orError "PeriodDelta node missing 'period'" (textAt "period" config)
  unless ["daily", "weekly", "monthly", "quarterly"].contains period do
    throw s!"Invalid period type: '{period}'. Must be one of: daily, weekly, monthly, quarterly"
  return .periodDelta input output period (extractRuleWiresDefault (some config))

/-- `data.get("config")` of a node. -/
def configOf (node : Value) : Option Value := (node.get? "data").bind (·.get? "config")

/-- The kind of a node that is neither a start nor an end node. -/
def customKind (node : Value) : Option String :=
  if textAt "type" node = some "start" ∨ textAt "type" node = some "end" then none
  else (node.get? "data").bind (textAt "type")

/-- The `compact_node` of a node. -/
def compactNode (nodeId : String) (node : Value) : Except String RuleNode :=
  let data := node.get? "data"
  match (textAt "type" node).getD "custom" with
  | "start" => .ok (.start (extractRuleWiresDefault data))
  | "end" => .ok .finish
  | "custom" =>
    match (data.bind (textAt "type")).getD "" with
    | "function-switch" => extractSwitchRuleNode data
    | "action-changeValue" => extractChangeValueRuleNode data
    | "action-calculation" => extractCalculationRuleNode data
    | "action-periodDelta" => extractPeriodDeltaRuleNode data
    | innerType => .error (s!"node '{nodeId}' has unrecognised data.type '{innerType}'; " ++
        "expected one of: function-switch, action-changeValue, action-calculation, action-periodDelta")
  | nodeType => .error (s!"node '{nodeId}' has unrecognised type '{nodeType}'; expected one of: " ++
      "start, end, custom (with the node kind in data.type)")

/-- A node of the array with its id. -/
def extractNode (node : Value) : Except String (String × RuleNode) := do
  let nodeId ← orError "Node missing 'id'" (textAt "id" node)
  return (nodeId, ← compactNode nodeId node)

/-- One iteration of the loop, on the map of nodes and the id of the start node. -/
def insertNode (found : HashMap RuleNode × String) (node : Value) :
    Except String (HashMap RuleNode × String) := do
  let (nodeId, own) ← extractNode node
  return (found.1.insert nodeId own,
    if textAt "type" node = some "start" then nodeId else found.2)

/-- `extract_rule_flow` (lines 40-108). -/
def extractRuleFlow (fullJson : Value) : Except String RuleFlow := do
  let nodesArray ← orError "Missing 'nodes' array" (arrayAt "nodes" fullJson)
  let (nodes, startNode) ← nodesArray.foldlM insertNode (.empty, "")
  if startNode = "" then .error "No start node found in flow" else .ok ⟨startNode, nodes⟩

/-! ## What is read -/

/-- What a node that is read consists of. -/
inductive Extracted (node : Value) : RuleNode → Prop
  | start (htype : textAt "type" node = some "start") :
    Extracted node (.start (extractRuleWiresDefault (node.get? "data")))
  | finish (htype : textAt "type" node = some "end") : Extracted node .finish
  | switch {config : Value} {vars : List RuleVariable} {rule : List RuleSwitchBranch}
      (hkind : customKind node = some "function-switch") (hconfig : configOf node = some config)
      (hvars : extractRuleVariables config = .ok vars) :
    Extracted node (.switch vars rule (extractRuleWiresMap config))
  | changeValue {vars : List RuleVariable} {rule : List RuleValueAssignment}
      (hkind : customKind node = some "action-changeValue")
      (hvars : (configOf node).elim (.ok []) extractRuleVariables = .ok vars) :
    Extracted node (.changeValue vars rule (extractRuleWiresDefault (configOf node)))
  | calculation {vars : List RuleVariable} {rule : List CalculationRule}
      (hkind : customKind node = some "action-calculation")
      (hvars : (configOf node).elim (.ok []) extractRuleVariables = .ok vars) :
    Extracted node (.calculation vars rule (extractRuleWiresDefault (configOf node)))
  | periodDelta {config : Value} {input output : RuleVariable} {period : String}
      (hkind : customKind node = some "action-periodDelta") (hconfig : configOf node = some config)
      (hinput : extractSingleRuleVariable config "input" = .ok input)
      (houtput : extractSingleRuleVariable config "output" = .ok output) :
    Extracted node (.periodDelta input output period (extractRuleWiresDefault (some config)))

theorem type_of_getD {found : Option String} {default text : String}
    (h : found.getD default = text) (hne : text ≠ default) : found = some text := by
  cases found with
  | none => exact absurd h.symm hne
  | some found => exact congrArg some h

theorem customKind_of_getD {node : Value} {kind : String}
    (htype : (textAt "type" node).getD "custom" = "custom")
    (hinner : ((node.get? "data").bind (textAt "type")).getD "" = kind) (hne : kind ≠ "") :
    customKind node = some kind := by
  have hcustom : ¬(textAt "type" node = some "start" ∨ textAt "type" node = some "end") := by
    rintro (h | h) <;> rw [h] at htype <;> exact absurd htype (by decide)
  rw [customKind, if_neg hcustom]
  exact type_of_getD hinner hne

theorem extracted_actionNode {α : Type} {extractRules : Value → Except String (List α)}
    {make : List RuleVariable → List α → RuleWires → RuleNode} {node : Value} {own : RuleNode}
    (h : extractActionNode extractRules make (node.get? "data") = .ok own) :
    ∃ vars rule, (configOf node).elim (.ok []) extractRuleVariables = .ok vars ∧
      own = make vars rule (extractRuleWiresDefault (configOf node)) := by
  obtain ⟨vars, hvars, hrest⟩ := bind_eq_ok.1 h
  obtain ⟨rule, -, hown⟩ := bind_eq_ok.1 hrest
  cases hown
  exact ⟨vars, rule, hvars, rfl⟩

theorem extracted_switch {node : Value} {own : RuleNode}
    (hkind : customKind node = some "function-switch")
    (h : extractSwitchRuleNode (node.get? "data") = .ok own) : Extracted node own := by
  obtain ⟨config, hconfig, h⟩ := bind_eq_ok.1 h
  obtain ⟨vars, hvars, h⟩ := bind_eq_ok.1 h
  obtain ⟨rule, -, h⟩ := bind_eq_ok.1 h
  cases h
  exact .switch hkind (orError_eq_ok.1 hconfig) hvars

theorem extracted_periodDelta {node : Value} {own : RuleNode}
    (hkind : customKind node = some "action-periodDelta")
    (h : extractPeriodDeltaRuleNode (node.get? "data") = .ok own) : Extracted node own := by
  obtain ⟨config, hconfig, h⟩ := bind_eq_ok.1 h
  obtain ⟨input, hinput, h⟩ := bind_eq_ok.1 h
  obtain ⟨output, houtput, h⟩ := bind_eq_ok.1 h
  obtain ⟨period, -, h⟩ := bind_eq_ok.1 h
  split_ifs at h
  · cases h
    exact .periodDelta hkind (orError_eq_ok.1 hconfig) hinput houtput
  · cases h

theorem extracted_compactNode {nodeId : String} {node : Value} {own : RuleNode}
    (h : compactNode nodeId node = .ok own) : Extracted node own := by
  unfold compactNode at h
  dsimp only at h
  split at h
  · next htype =>
    cases h
    exact .start (type_of_getD htype (by decide))
  · next htype =>
    cases h
    exact .finish (type_of_getD htype (by decide))
  · next htype =>
    split at h
    · next hinner => exact extracted_switch (customKind_of_getD htype hinner (by decide)) h
    · next hinner =>
      obtain ⟨vars, rule, hvars, rfl⟩ := extracted_actionNode h
      exact .changeValue (customKind_of_getD htype hinner (by decide)) hvars
    · next hinner =>
      obtain ⟨vars, rule, hvars, rfl⟩ := extracted_actionNode h
      exact .calculation (customKind_of_getD htype hinner (by decide)) hvars
    · next hinner => exact extracted_periodDelta (customKind_of_getD htype hinner (by decide)) h
    · cases h
  · cases h

/-- `full_json.get("nodes")`, as an array. -/
def nodesOf (fullJson : Value) : List Value := (arrayAt "nodes" fullJson).getD []

theorem extracted_extractNode {node : Value} {entry : String × RuleNode}
    (h : extractNode node = .ok entry) :
    textAt "id" node = some entry.1 ∧ Extracted node entry.2 := by
  obtain ⟨nodeId, hid, hrest⟩ := bind_eq_ok.1 h
  obtain ⟨own, hown, hent⟩ := bind_eq_ok.1 hrest
  cases hent
  exact ⟨orError_eq_ok.1 hid, extracted_compactNode hown⟩

/-- A loop that ends has read every node, and has filed them in order. -/
theorem entries_of_foldlM {nodesArray : List Value} {found found' : HashMap RuleNode × String}
    (h : nodesArray.foldlM insertNode found = .ok found') :
    ∃ entries, Forall₂ (fun node entry => textAt "id" node = some entry.1 ∧
        Extracted node entry.2) nodesArray entries ∧
      found'.1 = found.1.fill entries Prod.fst fun entry => some entry.2 := by
  induction nodesArray generalizing found with
  | nil => cases h; exact ⟨[], .nil, rfl⟩
  | cons node nodesArray ih =>
    rw [foldlM_cons] at h
    obtain ⟨next, hnext, hrest⟩ := bind_eq_ok.1 h
    obtain ⟨entry, hent, hinsert⟩ := bind_eq_ok.1 hnext
    cases hinsert
    obtain ⟨entries, hread, hfiled⟩ := ih hrest
    exact ⟨entry :: entries, .cons (extracted_extractNode hent) hread, hfiled⟩

theorem entries_of_extractRuleFlow {fullJson : Value} {flow : RuleFlow}
    (h : extractRuleFlow fullJson = .ok flow) :
    ∃ entries, Forall₂ (fun node entry => textAt "id" node = some entry.1 ∧
        Extracted node entry.2) (nodesOf fullJson) entries ∧
      flow.nodes = HashMap.empty.fill entries Prod.fst fun entry => some entry.2 := by
  obtain ⟨nodesArray, harray, hloop⟩ := bind_eq_ok.1 h
  obtain ⟨⟨nodes, startNode⟩, hfold, hflow⟩ := bind_eq_ok.1 hloop
  have hnodes : nodesOf fullJson = nodesArray := by rw [nodesOf, orError_eq_ok.1 harray]; rfl
  have hmap : flow.nodes = nodes := by
    by_cases hstart : startNode = ""
    · cases (if_pos hstart).symm.trans hflow
    · cases (if_neg hstart).symm.trans hflow; rfl
  rw [hnodes, hmap]
  exact entries_of_foldlM hfold

end AetherEdge.Rules
