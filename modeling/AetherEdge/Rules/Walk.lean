import AetherEdge.Rules.NodeVariables
import AetherEdge.Rules.Readings

/-!
# The walk over a flow

What `execute` (`libs/aether-rules/src/executor.rs`) does, whatever the graph, the
readings and the outcomes of the actions are.

* `followsWires_runNode`: a node passes on along its wire, a switch along the wire of the first
  branch it has recorded as true;
* `noDispatch_runNode`: a node with an unavailable variable or an undeclared target dispatches
  nothing;
* `walked_visitAt`: the path and the actions of the visits so far;
* `execute_walk`: an execution is the walk from the start node, cut off after a hundred visits,
  and succeeds exactly if it comes to an `End` node and none of its actions has failed.
-/

namespace AetherEdge.Rules

open List

/-- The node it goes on to. -/
def NodeStep.next? : NodeStep → Option String
  | .next nodeId _ => some nodeId
  | .stop _ => none

/-- Some assignment of the node has a target that is not one of its variables. -/
def RuleNode.Undeclared : RuleNode → Prop
  | .changeValue vars assignments _ =>
    ∃ assignment ∈ assignments, ∀ v ∈ vars, v.name ≠ assignment.variableName
  | _ => False

/-- A switch entered in `st` ends the walk without a record if one of its variables is
    unavailable. Otherwise it records one result for each of its branches and passes on along the
    wire of the first true one. -/
def FollowsFirst (libs : Libraries) (env : Environment) (nodeId : String) (vars : List RuleVariable)
    (rules : List RuleSwitchBranch) (wires : HashMap (List String)) (st : ExecState)
    (step : NodeStep) : Prop :=
  (Unavailable libs env vars st ∧ step.next? = none ∧
    step.state.result.nodeDetails = st.result.nodeDetails) ∨
  (¬Unavailable libs env vars st ∧ ∃ detail results,
    step.state.result.nodeDetails.get nodeId = some detail ∧
    detail.conditionResults = some results ∧
    results.map ConditionResult.port = rules.map RuleSwitchBranch.name ∧
    step.next? = (results.find? ConditionResult.result).bind fun first =>
      (wires.get first.port).bind List.head?)

/-- A node entered in `st` passes on along its wires, if it passes on. -/
def FollowsWires (libs : Libraries) (env : Environment) (nodeId : String) (st : ExecState)
    (step : NodeStep) : RuleNode → Prop
  | .finish => step.next? = none
  | .switch vars rules wires => FollowsFirst libs env nodeId vars rules wires st step
  | .start wires | .changeValue _ _ wires | .calculation _ _ wires | .periodDelta _ _ _ wires =>
    ∀ next ∈ step.next?, wires.default.head? = some next

/-- A node entered in `st` sends no command: whatever the answers to commands would be, it does the
    same. -/
def NoDispatch (libs : Libraries) (env : Environment) (ruleId : ℤ) (nodeId : String)
    (st : ExecState) (node : RuleNode) : Prop :=
  ∀ accepts, runNode libs { env with accepts } ruleId nodeId st node =
    runNode libs env ruleId nodeId st node

variable {libs : Libraries} {env : Environment} {rule : Rule} {st : ExecState}

/-! ## One node -/

theorem followsFirst_runSwitch (nodeId : String) (vars : List RuleVariable)
    (rules : List RuleSwitchBranch) (wires : HashMap (List String)) :
    FollowsFirst libs env nodeId vars rules wires st
      (runSwitch libs env nodeId vars rules wires st) := by
  have havailable := unavailable_iff libs env vars st
  unfold runSwitch
  split
  · next heq =>
    refine .inl ⟨not_not.1 fun h => ?_, rfl, rfl⟩
    obtain ⟨r, hr, -⟩ := havailable.1 h
    rw [heq] at hr
    cases hr
  next r heq =>
  split_ifs with hmissing
  · refine .inl ⟨not_not.1 fun h => ?_, rfl, rfl⟩
    obtain ⟨r', hr, hnil⟩ := havailable.1 h
    rw [heq] at hr
    cases hr
    exact hmissing hnil
  refine .inr ⟨havailable.2 ⟨r, heq, not_not.1 hmissing⟩, ?_⟩
  -- the results and the decision are made from the same values
  have hports : (evaluateAllConditions libs rules r.values).map ConditionResult.port =
      rules.map RuleSwitchBranch.name := by simp [evaluateAllConditions]
  have hfst : (evaluateAllConditions libs rules r.values).find? ConditionResult.result =
      (rules.find? fun rule => evaluateFlowConditions libs rule.rule r.values).map fun rule =>
        ⟨formatConditions libs rule.rule, evaluateFlowConditions libs rule.rule r.values,
          rule.name⟩ := by
    rw [evaluateAllConditions, find?_map]
    rfl
  have hvals : ((st.afterRead r).takeSnapshot r.valuesChanged).2.values = r.values := rfl
  dsimp only
  rw [hvals]
  unfold evaluateRuleSwitch
  cases hfind : rules.find? fun rule => evaluateFlowConditions libs rule.rule r.values with
  | none =>
    refine ⟨_, _, if_pos rfl, rfl, hports, ?_⟩
    rw [hfst, hfind]
    rfl
  | some branch =>
    dsimp only
    cases hwire : (wires.get branch.name).bind head? with
    | none | some =>
      refine ⟨_, _, if_pos rfl, rfl, hports, ?_⟩
      rw [hfst, hfind]
      exact hwire.symm

theorem next?_followWires {wires : RuleWires} {error : String} :
    ∀ next ∈ (followWires wires st error).next?, wires.default.head? = some next := by
  unfold followWires
  split
  · next hwire =>
    intro next hnext
    cases hnext
    exact hwire
  · exact nofun

theorem followsWires_runNode (ruleId : ℤ) (nodeId : String) (node : RuleNode) :
    FollowsWires libs env nodeId st (runNode libs env ruleId nodeId st node) node := by
  cases node with
  | finish => rfl
  | start wires => exact next?_followWires
  | switch vars rules wires => exact followsFirst_runSwitch nodeId vars rules wires
  | changeValue vars assignments wires =>
    simp only [FollowsWires, runNode, runChangeValue]
    split
    · exact nofun
    split
    · exact nofun
    split_ifs
    · exact nofun
    · exact next?_followWires
  | calculation vars calcs wires =>
    simp only [FollowsWires, runNode, runCalculation]
    split
    · exact nofun
    split_ifs
    · exact nofun
    split
    · exact nofun
    · exact next?_followWires
  | periodDelta input output period wires =>
    simp only [FollowsWires, runNode, runPeriodDelta]
    split
    · exact nofun
    split_ifs
    · exact nofun
    split
    · exact nofun
    split
    · exact nofun
    split
    · exact nofun
    · exact next?_followWires

theorem readRuleVariables_accepts (accepts : ℕ → RuleActionCommand → Bool)
    (vars : List RuleVariable) (values : HashMap F64) (moment : ℕ) (reads : List Reading) :
    readRuleVariables libs { env with accepts } vars values moment reads =
      readRuleVariables libs env vars values moment reads := by
  have hbase : ∀ r, readBase { env with accepts } vars r = readBase env vars r := by
    induction vars with
    | nil => exact fun _ => rfl
    | cons v vars ih =>
      intro r
      unfold readBase
      simp only [ih]
      rfl
  unfold readRuleVariables
  rw [hbase]

theorem noDispatch_runNode {node : RuleNode} (ruleId : ℤ) (nodeId : String)
    (h : Unavailable libs env node.vars st ∨ node.Undeclared) :
    NoDispatch libs env ruleId nodeId st node := by
  intro accepts
  cases node with
  | start | finish => rfl
  | switch vars rules wires =>
    simp only [runNode]
    unfold runSwitch
    rw [readRuleVariables_accepts]
  | changeValue vars assignments wires =>
    simp only [runNode]
    unfold runChangeValue
    rw [readRuleVariables_accepts]
    split
    · rfl
    next hdecl =>
    split
    · rfl
    next r hread =>
    have hmiss : r.missing ≠ [] := by
      refine missing_of_unavailable (h.resolve_right ?_) hread
      rintro ⟨assignment, hmem, hnone⟩
      have hany : ∃ v ∈ vars, v.name = assignment.variableName := by
        simpa using find?_eq_none.1 hdecl assignment hmem
      obtain ⟨v, hv, hname⟩ := hany
      exact hnone v hv hname
    rw [if_pos hmiss, if_pos hmiss]
  | calculation vars calcs wires =>
    simp only [runNode]
    unfold runCalculation
    rw [readRuleVariables_accepts]
    split
    · rfl
    · next r hread =>
      rw [if_pos (missing_of_unavailable (h.resolve_right id) hread),
        if_pos (missing_of_unavailable (h.resolve_right id) hread)]
  | periodDelta input output period wires =>
    simp only [runNode]
    unfold runPeriodDelta
    rw [readRuleVariables_accepts]
    rfl

/-! ## The whole walk -/

variable (libs env rule) in
/-- The results of the actions that a visit attempts. -/
def Visit.attempts (v : Visit) : List ActionResult :=
  (v.step libs env rule).state.result.actionsExecuted.drop v.entered.result.actionsExecuted.length

variable (libs env rule) in
theorem Visit.actionsExecuted_step (v : Visit) :
    (v.step libs env rule).state.result.actionsExecuted =
      v.entered.result.actionsExecuted ++ v.attempts libs env rule := by
  have hgrows : v.entered.result.actionsExecuted <+:
      (v.step libs env rule).state.result.actionsExecuted := by
    rcases v.step_cases libs env rule with ⟨-, hstop⟩ | ⟨-, hreads⟩
    · rw [hstop]
      show _ <+: (runEnd v.entered).result.actionsExecuted
      rw [runEnd_actionsExecuted]
    · exact hreads.actions
  exact (prefix_iff_eq_append.1 hgrows).symm

variable (libs env rule) in
theorem Visit.executionPath_step (v : Visit) :
    (v.step libs env rule).state.result.executionPath = v.entered.result.executionPath := by
  rcases v.step_cases libs env rule with ⟨-, hstop⟩ | ⟨-, hreads⟩
  · rw [hstop]
    exact runEnd_executionPath _
  · exact hreads.path

theorem filterMap_visitAt {k : ℕ} {v : Visit} (hv : visitAt libs env rule k = some v) :
    (range (k + 1)).filterMap (visitAt libs env rule) =
      (range k).filterMap (visitAt libs env rule) ++ [v] := by
  simp [range_succ, hv]

/-- The path and the actions before a visit, from those of all the visits before it. -/
theorem walked_visitAt {k : ℕ} {v : Visit} (hv : visitAt libs env rule k = some v) :
    v.entered.result.executionPath =
        ((range (k + 1)).filterMap (visitAt libs env rule)).map Visit.nodeId ∧
      v.entered.result.actionsExecuted =
        ((range k).filterMap (visitAt libs env rule)).flatMap (Visit.attempts libs env rule) := by
  induction k generalizing v with
  | zero =>
    rw [filterMap_visitAt hv]
    cases hv
    exact ⟨rfl, rfl⟩
  | succ k ih =>
    obtain ⟨before, st, hbefore, hnext, hentered⟩ := visitAt_succ_eq_some hv
    obtain ⟨hpath, hactions⟩ := ih hbefore
    have hpath' : st.result.executionPath = before.entered.result.executionPath := by
      rw [← before.executionPath_step libs env rule, hnext]
      rfl
    have hactions' := before.actionsExecuted_step libs env rule
    rw [hnext] at hactions'
    constructor
    · rw [filterMap_visitAt hv, map_append, ← hpath, hentered]
      exact congrArg (· ++ [v.nodeId]) hpath'
    · rw [filterMap_visitAt hbefore, flatMap_append, ← hactions, hentered, flatMap_singleton]
      exact hactions'

theorem visitAt_eq_none_of_le {j k : ℕ} (h : visitAt libs env rule k = none) (hjk : k ≤ j) :
    visitAt libs env rule j = none := by
  induction j, hjk using Nat.le_induction with
  | base => exact h
  | succ j _ ih => rw [visitAt, ih]; rfl

/-- The visits of an execution are those up to the last one. -/
theorem visits_of_ends {k : ℕ} {v : Visit} {final : ExecState} (hk : k < maxIterations)
    (hv : visitAt libs env rule k = some v) (h : Ends libs env rule k v final) :
    visits libs env rule = (range (k + 1)).filterMap (visitAt libs env rule) := by
  cases h with
  | exceeded _ _ hk => rw [visits, hk]
  | stop hstop =>
    have hnone : visitAt libs env rule (k + 1) = none := by
      rw [visitAt, hv, Option.bind_some, hstop]
      rfl
    obtain ⟨more, hmore⟩ := Nat.exists_eq_add_of_le (show k + 1 ≤ maxIterations from hk)
    rw [visits, hmore, range_add, filterMap_append, filterMap_map]
    refine append_right_eq_self.2 (filterMap_eq_nil_iff.2 fun j _ => ?_)
    exact visitAt_eq_none_of_le hnone (Nat.le_add_right _ j)

variable (libs env rule) in
theorem execute_visits :
    (execute libs env rule).result.executionPath = (visits libs env rule).map Visit.nodeId ∧
      (execute libs env rule).result.actionsExecuted =
        (visits libs env rule).flatMap (Visit.attempts libs env rule) := by
  obtain ⟨k, v, hk, hv, hend⟩ := execute_ends libs env rule
  obtain ⟨hpath, hactions⟩ := walked_visitAt hv
  have hresult : (execute libs env rule).result.executionPath =
        (v.step libs env rule).state.result.executionPath ∧
      (execute libs env rule).result.actionsExecuted =
        (v.step libs env rule).state.result.actionsExecuted := by
    cases hend with
    | stop hstop => rw [hstop]; exact ⟨rfl, rfl⟩
    | exceeded _ _ _ hnext hfinal => rw [hnext, hfinal]; exact ⟨rfl, rfl⟩
  rw [hresult.1, hresult.2, v.executionPath_step, v.actionsExecuted_step, hpath, hactions,
    visits_of_ends hk hv hend]
  refine ⟨rfl, ?_⟩
  rw [filterMap_visitAt hv, flatMap_append, flatMap_singleton]

theorem runEnd_success_iff :
    (runEnd st).result.success = true ↔
      ∀ action ∈ st.result.actionsExecuted, action.success = true := by
  have hfailed : (st.report.result.actionsExecuted.filter fun action => !action.success).length = 0 ↔
      ∀ action ∈ st.result.actionsExecuted, action.success = true := by
    rw [length_eq_zero_iff, filter_eq_nil_iff]
    simp [ExecState.report]
  rw [← hfailed]
  unfold runEnd
  dsimp only
  split_ifs with h
  · exact iff_of_true rfl h
  · exact iff_of_false nofun h

variable (libs env rule) in
theorem execute_success_iff :
    (execute libs env rule).result.success = true ↔ ReachesEnd libs env rule ∧
      ∀ action ∈ (execute libs env rule).result.actionsExecuted, action.success = true := by
  have hfinish : ReachesEnd libs env rule → ((execute libs env rule).result.success = true ↔
      ∀ action ∈ (execute libs env rule).result.actionsExecuted, action.success = true) := by
    rintro ⟨v, hv, hnode⟩
    rw [execute_of_finish hv hnode, runEnd_actionsExecuted]
    exact runEnd_success_iff
  constructor
  · intro h
    have hend := reachesEnd_of_success h
    exact ⟨hend, (hfinish hend).1 h⟩
  · rintro ⟨hend, hall⟩
    exact (hfinish hend).2 hall

variable (libs env rule) in
/-- Every execution is the walk from the start node along the wires, cut off after 100 visits: its
    path are the nodes visited and its actions those that they attempt, and it succeeds exactly if
    an `End` node is among them and all these actions are successful. Each switch it visits follows
    the first branch it has recorded as true, and no visited node with an unavailable variable or
    an undeclared target dispatches anything. -/
theorem execute_walk :
    (execute libs env rule).result.executionPath = (visits libs env rule).map Visit.nodeId ∧
      (execute libs env rule).result.executionPath.length ≤ 100 ∧
      (execute libs env rule).result.actionsExecuted =
        (visits libs env rule).flatMap (Visit.attempts libs env rule) ∧
      ((execute libs env rule).result.success = true ↔
        (∃ v ∈ visits libs env rule, rule.flow.nodes.get v.nodeId = some .finish) ∧
          ∀ v ∈ visits libs env rule, ∀ action ∈ v.attempts libs env rule,
            action.success = true) ∧
      ∀ v ∈ visits libs env rule, ∀ node, rule.flow.nodes.get v.nodeId = some node →
        FollowsWires libs env v.nodeId v.entered (v.step libs env rule) node ∧
        (Unavailable libs env node.vars v.entered ∨ node.Undeclared →
          NoDispatch libs env rule.id v.nodeId v.entered node) := by
  obtain ⟨hpath, hactions⟩ := execute_visits libs env rule
  refine ⟨hpath, ?_, hactions, ?_, ?_⟩
  · rw [hpath, length_map]
    exact (length_filterMap_le _ _).trans (length_range).le
  · rw [execute_success_iff, hactions, ReachesEnd]
    simp only [mem_flatMap]
    exact and_congr_right fun _ =>
      ⟨fun h v hv action ha => h action ⟨v, hv, ha⟩, fun h action ⟨v, hv, ha⟩ => h v hv action ha⟩
  · intro v _ node hnode
    refine ⟨?_, noDispatch_runNode rule.id v.nodeId⟩
    rw [Visit.step, hnode]
    exact followsWires_runNode rule.id v.nodeId node

end AetherEdge.Rules
