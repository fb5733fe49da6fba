import AetherEdge.Rules.Executor

/-!
# What an execution has read

The scheduler works with the values an execution reports (`point_values`); this file relates
them to the readings the execution really made.

* `visitAt`: the walk as a sequence of visits, each of which leads to the next;
  `execute_eq_step` and `execute_ends` say that an execution is the first hundred of them;
* `execute_reads`: every reading is an answer of the surroundings;
* `execute_reported_sound`: every reported value is one of the readings;
* `execute_reported_last`: an execution that came to an `End` node reports for each point its
  last finite reading. The other ways to end lose some of them or all.
-/

namespace AetherEdge.Rules

open List Option

/-- The last finite value read. -/
def lastFinite (key : String) (reads : List Reading) : Option F64 :=
  reads.foldl (fun last r => if r.key = key then (r.value.filter F64.isFinite).or last else last)
    none

theorem lastFinite_append_singleton (key : String) (reads : List Reading) (r : Reading) :
    lastFinite key (reads ++ [r]) =
      if r.key = key then (r.value.filter F64.isFinite).or (lastFinite key reads)
      else lastFinite key reads := by
  rw [lastFinite, foldl_append]
  rfl

theorem lastFinite_append (key : String) (reads more : List Reading) :
    lastFinite key (reads ++ more) = (lastFinite key more).or (lastFinite key reads) := by
  induction more using reverseRecOn with
  | nil => simp [lastFinite]
  | append_singleton more r ih =>
    rw [← append_assoc, lastFinite_append_singleton, lastFinite_append_singleton, ih]
    split_ifs
    · exact Option.or_assoc.symm
    · rfl

variable {reads : List Reading}

theorem mem_of_lastFinite {key : String} {value : F64} (h : lastFinite key reads = some value) :
    value.isFinite = true ∧ ∃ r ∈ reads, r.key = key ∧ r.value = some value := by
  induction reads using reverseRecOn with
  | nil => cases h
  | append_singleton reads r ih =>
    rw [lastFinite_append_singleton] at h
    have hbefore (h : lastFinite key reads = some value) :
        value.isFinite = true ∧ ∃ r' ∈ reads ++ [r], r'.key = key ∧ r'.value = some value := by
      obtain ⟨hfin, r', hr', hread⟩ := ih h
      exact ⟨hfin, r', mem_append_left _ hr', hread⟩
    split_ifs at h with hkey
    · obtain h | ⟨-, h⟩ := or_eq_some_iff.1 h
      · rw [filter_eq_some_iff] at h
        exact ⟨h.2, r, mem_append_right _ (mem_singleton_self r), hkey, h.1⟩
      · exact hbefore h
    · exact hbefore h

/-- A point that is read at all, always with the same value. -/
theorem lastFinite_of_forall {key : String} {value : F64} (hfin : value.isFinite = true)
    (hread : ∃ r ∈ reads, r.key = key) (h : ∀ r ∈ reads, r.key = key → r.value = some value) :
    lastFinite key reads = some value := by
  induction reads using reverseRecOn with
  | nil => obtain ⟨r, hr, -⟩ := hread; cases hr
  | append_singleton reads r ih =>
    rw [lastFinite_append_singleton]
    by_cases hkey : r.key = key
    · rw [if_pos hkey, h r (by simp) hkey, filter_some_pos hfin, some_or]
    rw [if_neg hkey]
    refine ih ?_ fun r' hr' => h r' (mem_append_left _ hr')
    obtain ⟨r', hr', hkey'⟩ := hread
    rcases mem_append.1 hr' with hr' | hr'
    · exact ⟨r', hr', hkey'⟩
    · rw [mem_singleton.1 hr'] at hkey'
      exact absurd hkey' hkey

/-- The last reading of a point, finite or not. -/
def lastReading (key : String) (reads : List Reading) : Option (Option F64) :=
  (reads.filter fun r => r.key = key).getLast?.map Reading.value

theorem lastReading_append_singleton (key : String) (reads : List Reading) (r : Reading) :
    lastReading key (reads ++ [r]) = if r.key = key then some r.value else lastReading key reads := by
  unfold lastReading
  by_cases hkey : r.key = key
  · simp [hkey]
  · simp [hkey]

theorem mem_of_lastReading {key : String} {value : Option F64}
    (h : lastReading key reads = some value) : ∃ r ∈ reads, r.key = key ∧ r.value = value := by
  obtain ⟨r, hr, rfl⟩ := map_eq_some_iff.1 h
  obtain ⟨hr, hkey⟩ := mem_filter.1 (mem_of_getLast? hr)
  exact ⟨r, hr, by simpa using hkey, rfl⟩

theorem lastFinite_of_lastReading {key : String} {value : F64}
    (h : lastReading key reads = some (some value)) (hfin : value.isFinite = true) :
    lastFinite key reads = some value := by
  induction reads using reverseRecOn with
  | nil => cases h
  | append_singleton reads r ih =>
    rw [lastReading_append_singleton] at h
    rw [lastFinite_append_singleton]
    split_ifs at h ⊢ with hkey
    · rw [Option.some.inj h, filter_some_pos hfin, some_or]
    · exact ih h

theorem lastFinite_of_lastReading_none {key : String} (h : lastReading key reads = none) :
    lastFinite key reads = none := by
  induction reads using reverseRecOn with
  | nil => rfl
  | append_singleton reads r ih =>
    rw [lastReading_append_singleton] at h
    rw [lastFinite_append_singleton]
    split_ifs at h ⊢ with hkey
    exact ih h

/-- `r` is an answer of the surroundings. -/
def Reading.From (env : Environment) (r : Reading) : Prop :=
  ∃ kind instanceId point,
    r.key = pointKey kind instanceId point ∧ r.value = env.reading r.moment kind instanceId point

/-- What a reading of a subscribed point has returned. -/
theorem Reading.From.value_eq {env : Environment} {r : Reading} (h : r.From env) {ref : PointRef}
    (hkey : r.key = ref.cacheKey) :
    r.value = env.reading r.moment ref.pointType ref.instanceId ref.point := by
  obtain ⟨kind, instanceId, point, hpt, hvl⟩ := h
  obtain ⟨hkind, hinst, hpt⟩ := pointKey_inj (hkey.symm.trans hpt)
  rw [hvl, ← hkind, ← hinst, ← hpt]

/-! ## One pass over the variables of a node -/

section Pass

variable {libs : Libraries} {env : Environment}

/-- The pass that started with the readings `before` has made some more, and its point values are
    the last finite ones among them. -/
def ReadState.Tracks (env : Environment) (before : List Reading) (st : ReadState) : Prop :=
  ∃ new, st.reads = before ++ new ∧ (∀ r ∈ new, r.From env) ∧
    ∀ key, st.pointValues.get key = lastFinite key new

variable {before : List Reading} {st : ReadState}

theorem ReadState.Tracks.readPoint (h : st.Tracks env before) (name : String) (kind : PointKind)
    (instanceId point : ℕ) : (st.readPoint env name kind instanceId point).Tracks env before := by
  obtain ⟨new, hreads, hfrom, hvals⟩ := h
  have hnew : ∀ r ∈ new ++ [⟨pointKey kind instanceId point,
      env.reading st.moment kind instanceId point, st.moment⟩], r.From env := by
    intro r hr
    rcases mem_append.1 hr with hr | hr
    · exact hfrom r hr
    · rw [mem_singleton.1 hr]
      exact ⟨kind, instanceId, point, rfl, rfl⟩
  refine ⟨_, ?_, hnew, ?_⟩
  · unfold ReadState.readPoint
    dsimp only
    split
    · rw [hreads, append_assoc]
    · split <;> rw [hreads, append_assoc]
  · intro key
    rw [lastFinite_append_singleton]
    unfold ReadState.readPoint
    dsimp only
    split
    · next value hvl =>
      rw [HashMap.get_insert, hvals, hvl]
      by_cases hkey : key = pointKey kind instanceId point
      · rw [if_pos hkey, if_pos hkey.symm]
        rfl
      · rw [if_neg hkey, if_neg (Ne.symm hkey)]
    · next hvl =>
      rw [hvl]
      split <;> simp [hvals]

theorem ReadState.Tracks.readBase (h : st.Tracks env before) (vars : List RuleVariable) :
    (Rules.readBase env vars st).2.Tracks env before := by
  induction vars generalizing st with
  | nil => exact h
  | cons v vars ih =>
    unfold Rules.readBase
    split_ifs
    · exact ih h
    split
    · exact h
    · split
      · exact h
      · exact ih (h.readPoint _ _ _ _)

theorem ReadState.Tracks.readFormula (h : st.Tracks env before) (v : RuleVariable) :
    (st.readFormula libs v).Tracks env before := by
  unfold ReadState.readFormula
  split_ifs
  · exact h
  · split <;> exact h

theorem ReadState.Tracks.readFormulas (h : st.Tracks env before) (vars : List RuleVariable) :
    (vars.foldl (ReadState.readFormula libs) st).Tracks env before := by
  induction vars generalizing st with
  | nil => exact h
  | cons v vars ih => exact ih (h.readFormula v)

variable (libs env) in
theorem readRuleVariables_tracks (vars : List RuleVariable) (values : HashMap F64) (moment : ℕ)
    (reads : List Reading) :
    (readRuleVariables libs env vars values moment reads).2.Tracks env reads := by
  have hstart : (⟨values, false, [], HashMap.empty, moment, reads⟩ : ReadState).Tracks env reads :=
    ⟨[], by simp, by simp, fun _ => rfl⟩
  have hbase := hstart.readBase vars
  unfold readRuleVariables
  split
  · next heq => rw [heq] at hbase; exact hbase
  · next heq => rw [heq] at hbase; exact hbase.readFormulas vars

end Pass

/-! ## One node -/

/-- What the rest of the walk leaves alone when it does not read: the readings, the point values
    of the execution and of its result, the path, the verdict, and the actions so far. -/
structure SameReads (st st' : ExecState) : Prop where
  reads : st'.reads = st.reads
  pointValues : st'.pointValues = st.pointValues
  reported : st'.result.pointValues = st.result.pointValues
  path : st'.result.executionPath = st.result.executionPath
  success : st'.result.success = st.result.success
  actions : st.result.actionsExecuted <+: st'.result.actionsExecuted

namespace SameReads

variable {libs : Libraries} {env : Environment} {st st' st'' : ExecState}

theorem refl (st : ExecState) : SameReads st st := ⟨rfl, rfl, rfl, rfl, rfl, prefix_rfl⟩

theorem trans (h : SameReads st st') (h' : SameReads st' st'') : SameReads st st'' :=
  ⟨h'.reads.trans h.reads, h'.pointValues.trans h.pointValues, h'.reported.trans h.reported,
    h'.path.trans h.path, h'.success.trans h.success, h.actions.trans h'.actions⟩

theorem withError (st : ExecState) (error : String) : SameReads st (st.withError error) :=
  ⟨rfl, rfl, rfl, rfl, rfl, prefix_rfl⟩

theorem withAction (st : ExecState) (action : ActionResult × ℕ) :
    SameReads st (st.withAction action) := ⟨rfl, rfl, rfl, rfl, rfl, prefix_append _ _⟩

theorem withDetail (st : ExecState) (nodeId : String) (detail : NodeExecutionDetail) :
    SameReads st (st.withDetail nodeId detail) := ⟨rfl, rfl, rfl, rfl, rfl, prefix_rfl⟩

theorem takeSnapshot (st : ExecState) (changed : Bool) : SameReads st (st.takeSnapshot changed).2 :=
  ⟨rfl, rfl, rfl, rfl, rfl, prefix_rfl⟩

theorem runAssignments (vars : List RuleVariable) (assignments : List RuleValueAssignment)
    (st : ExecState) : SameReads st (Rules.runAssignments libs env vars assignments st).2 := by
  induction assignments generalizing st with
  | nil => exact .refl st
  | cons assignment assignments ih =>
    unfold Rules.runAssignments
    split
    · exact ih st
    · exact (withAction st _).trans (ih _)

theorem writeCalculation (vars : List RuleVariable) (calculation : CalculationRule) (value : F64)
    (st : ExecState) : SameReads st (Rules.writeCalculation env vars calculation value st).2 := by
  unfold Rules.writeCalculation
  cases vars.find? fun v => v.name = calculation.output with
  | none => exact ⟨rfl, rfl, rfl, rfl, rfl, prefix_rfl⟩
  | some => exact ⟨rfl, rfl, rfl, rfl, rfl, prefix_append _ _⟩

theorem runCalculations (ruleId : ℤ) (vars : List RuleVariable) (calcs : List CalculationRule)
    (st : ExecState) : SameReads st (Rules.runCalculations env ruleId vars calcs st).2 := by
  induction calcs generalizing st with
  | nil => exact .refl st
  | cons calculation calcs ih =>
    have hmoment : SameReads st { st with moment := st.moment + 1 } := ⟨rfl, rfl, rfl, rfl, rfl, prefix_rfl⟩
    unfold Rules.runCalculations
    dsimp only
    split
    · exact hmoment
    · exact hmoment.trans ((writeCalculation vars calculation _ _).trans (ih _))

theorem followWires {wires : RuleWires} {error : String} {step : NodeStep}
    (h : Rules.followWires wires st error = step) : SameReads st step.state := by
  unfold Rules.followWires at h
  split at h
  · rw [← h]; exact .refl st
  · rw [← h]; exact withError st error

end SameReads

/-- The point values of the execution are the last finite readings. -/
def ExecState.Tracked (st : ExecState) : Prop :=
  ∀ key, st.pointValues.get key = lastFinite key st.reads

/-- Every value is one of the readings. -/
def SoundFor (values : HashMap F64) (reads : List Reading) : Prop :=
  ∀ key value, values.get key = some value →
    value.isFinite = true ∧ ∃ r ∈ reads, r.key = key ∧ r.value = some value

theorem ExecState.Tracked.sound {st : ExecState} (h : st.Tracked) :
    SoundFor st.pointValues st.reads := by
  intro key value hget
  rw [h] at hget
  exact mem_of_lastFinite hget

theorem SoundFor.mono {values : HashMap F64} {more : List Reading} (h : SoundFor values reads) :
    SoundFor values (reads ++ more) := by
  intro key value hget
  obtain ⟨hfin, r, hr, hread⟩ := h key value hget
  exact ⟨hfin, r, mem_append_left _ hr, hread⟩

/-- What a node other than `End` does, as far as readings go. -/
structure NodeReads (env : Environment) (st : ExecState) (step : NodeStep) : Prop where
  path : step.state.result.executionPath = st.result.executionPath
  success : step.state.result.success = st.result.success
  actions : st.result.actionsExecuted <+: step.state.result.actionsExecuted
  reads : ∃ new, step.state.reads = st.reads ++ new ∧ ∀ r ∈ new, r.From env
  /-- a node that passes on leaves the point values up to date -/
  tracked : ∀ nodeId st', step = .next nodeId st' → st.Tracked →
    st'.Tracked ∧ st'.result.pointValues = st.result.pointValues
  /-- a node that ends the execution reports nothing it has not read -/
  sound : st.Tracked → SoundFor st.result.pointValues st.reads →
    SoundFor step.state.result.pointValues step.state.reads

section Nodes

variable {libs : Libraries} {env : Environment} {st : ExecState}

theorem NodeReads.of_sameReads {step : NodeStep} (h : SameReads st step.state) :
    NodeReads env st step where
  path := h.path
  success := h.success
  actions := h.actions
  reads := ⟨[], by simp [h.reads], by simp⟩
  tracked nodeId st' hstep htr := by
    subst hstep
    refine ⟨fun key => ?_, h.reported⟩
    have hkey := htr key
    rwa [← h.pointValues, ← h.reads] at hkey
  sound _ hsd := by rw [h.reported, h.reads]; exact hsd

theorem NodeReads.of_read {r : ReadState} {step : NodeStep} (hr : r.Tracks env st.reads)
    (h : SameReads (st.afterRead r) step.state) : NodeReads env st step := by
  obtain ⟨new, hreads, hfrom, hvals⟩ := hr
  have hstep : step.state.reads = st.reads ++ new := h.reads.trans hreads
  refine ⟨h.path, h.success, h.actions, ⟨new, hstep, hfrom⟩, ?_, ?_⟩
  · rintro nodeId st' rfl htr
    refine ⟨fun key => ?_, h.reported⟩
    have hpt : st'.pointValues = st.pointValues.extend r.pointValues := h.pointValues
    have hst' : st'.reads = st.reads ++ new := hstep
    rw [hpt, HashMap.get_extend, hvals, htr key, hst', lastFinite_append]
  · intro _ hsd
    have hrep : step.state.result.pointValues = st.result.pointValues := h.reported
    rw [hrep, hstep]
    exact hsd.mono

theorem NodeReads.of_failedRead {r : ReadState} {st' : ExecState} (hr : r.Tracks env st.reads)
    (h : SameReads (st.afterFailedRead r) st') : NodeReads env st (.stop st') := by
  obtain ⟨new, hreads, hfrom, -⟩ := hr
  have hstep : st'.reads = st.reads ++ new := h.reads.trans hreads
  refine ⟨h.path, h.success, h.actions, ⟨new, hstep, hfrom⟩, fun _ _ hnext => (by cases hnext), ?_⟩
  intro _ hsd
  have hrep : st'.result.pointValues = st.result.pointValues := h.reported
  show SoundFor st'.result.pointValues st'.reads
  rw [hrep, hstep]
  exact hsd.mono

theorem nodeReads_switch (nodeId : String) (vars : List RuleVariable)
    (rules : List RuleSwitchBranch) (wires : HashMap (List String)) (st : ExecState) :
    NodeReads env st (runSwitch libs env nodeId vars rules wires st) := by
  have hr := readRuleVariables_tracks libs env vars st.values st.moment st.reads
  unfold runSwitch
  split
  · next error r heq =>
    rw [heq] at hr
    obtain ⟨new, hreads, hfrom, -⟩ := hr
    refine ⟨rfl, rfl, prefix_rfl, ⟨new, hreads, hfrom⟩, fun _ _ hnext => (by cases hnext), ?_⟩
    -- what the failed pass has read is not reported
    intro htr _
    show SoundFor st.pointValues r.reads
    rw [hreads]
    exact htr.sound.mono
  · next r heq =>
    rw [heq] at hr
    split_ifs
    · obtain ⟨new, hreads, hfrom, hvals⟩ := hr
      refine ⟨rfl, rfl, prefix_rfl, ⟨new, hreads, hfrom⟩, fun _ _ hnext => (by cases hnext), ?_⟩
      intro htr _
      have haft : (st.afterRead r).Tracked := fun key => by
        show (st.pointValues.extend r.pointValues).get key = lastFinite key r.reads
        rw [HashMap.get_extend, hvals, htr key, hreads, lastFinite_append]
      exact haft.sound
    · dsimp only
      split
      · exact .of_read hr ⟨rfl, rfl, rfl, rfl, rfl, prefix_rfl⟩
      · exact .of_read hr ⟨rfl, rfl, rfl, rfl, rfl, prefix_rfl⟩

theorem nodeReads_changeValue (nodeId : String) (vars : List RuleVariable)
    (assignments : List RuleValueAssignment) (wires : RuleWires) (st : ExecState) :
    NodeReads env st (runChangeValue libs env nodeId vars assignments wires st) := by
  have hr := readRuleVariables_tracks libs env vars st.values st.moment st.reads
  unfold runChangeValue
  split
  · exact .of_sameReads (.withError st _)
  split
  · next heq =>
    rw [heq] at hr
    exact .of_failedRead hr (.withError _ _)
  next r heq =>
  rw [heq] at hr
  split_ifs
  · exact .of_read hr (.withError _ _)
  dsimp only
  refine .of_read hr ?_
  exact (SameReads.takeSnapshot _ r.valuesChanged).trans
    ((SameReads.runAssignments vars assignments _).trans
      ((SameReads.withDetail _ _ _).trans (SameReads.followWires rfl)))

theorem nodeReads_calculation (ruleId : ℤ) (nodeId : String) (vars : List RuleVariable)
    (calcs : List CalculationRule) (wires : RuleWires) (st : ExecState) :
    NodeReads env st (runCalculation libs env ruleId nodeId vars calcs wires st) := by
  have hr := readRuleVariables_tracks libs env vars st.values st.moment st.reads
  unfold runCalculation
  split
  · next heq =>
    rw [heq] at hr
    exact .of_failedRead hr (.withError _ _)
  next r heq =>
  rw [heq] at hr
  split_ifs
  · exact .of_read hr (.withError _ _)
  dsimp only
  have hcalcs : SameReads (st.afterRead r) (runCalculations env ruleId vars calcs
      ((st.afterRead r).takeSnapshot r.valuesChanged).2).2 :=
    (SameReads.takeSnapshot _ r.valuesChanged).trans (.runCalculations ruleId vars calcs _)
  split
  · next hrun =>
    rw [hrun] at hcalcs
    exact .of_read hr (hcalcs.trans (.withError _ _))
  next st' hrun =>
  rw [hrun] at hcalcs
  have hcache : SameReads st' { st' with valuesSnapshot := none } := ⟨rfl, rfl, rfl, rfl, rfl, prefix_rfl⟩
  exact .of_read hr (hcalcs.trans (hcache.trans
    ((SameReads.withDetail _ _ _).trans (SameReads.followWires rfl))))

theorem nodeReads_periodDelta (ruleId : ℤ) (nodeId : String) (input output : RuleVariable)
    (period : String) (wires : RuleWires) (st : ExecState) :
    NodeReads env st (runPeriodDelta libs env ruleId nodeId input output period wires st) := by
  have hr := readRuleVariables_tracks libs env [input] st.values st.moment st.reads
  unfold runPeriodDelta
  split
  · next heq =>
    rw [heq] at hr
    exact .of_failedRead hr (.withError _ _)
  next r heq =>
  rw [heq] at hr
  have hsnap := SameReads.takeSnapshot (st.afterRead r) r.valuesChanged
  split_ifs
  · exact .of_read hr (.withError _ _)
  dsimp only
  split
  · exact .of_read hr (hsnap.trans (.withError _ _))
  split_ifs
  · exact .of_read hr (hsnap.trans (.withError _ _))
  split
  · exact .of_read hr ⟨rfl, rfl, rfl, rfl, rfl, prefix_rfl⟩
  · refine .of_read hr (SameReads.trans ?_ (SameReads.followWires rfl))
    exact ⟨rfl, rfl, rfl, rfl, rfl, prefix_append _ _⟩

theorem nodeReads_runNode {node : RuleNode} (hnode : node ≠ .finish) (ruleId : ℤ)
    (nodeId : String) (st : ExecState) :
    NodeReads env st (runNode libs env ruleId nodeId st node) := by
  cases node with
  | finish => exact absurd rfl hnode
  | start wires => exact .of_sameReads (.followWires rfl)
  | switch vars rules wires => exact nodeReads_switch nodeId vars rules wires st
  | changeValue vars assignments wires =>
    exact nodeReads_changeValue nodeId vars assignments wires st
  | calculation vars calcs wires => exact nodeReads_calculation ruleId nodeId vars calcs wires st
  | periodDelta input output period wires =>
    exact nodeReads_periodDelta ruleId nodeId input output period wires st

end Nodes

/-! ## The whole walk -/

/-- The visit of a node: its id, and the state in which the node is entered. -/
structure Visit where
  nodeId : String
  entered : ExecState

/-- The visit a step leads to. -/
def NodeStep.visit? : NodeStep → Option Visit
  | .next nodeId st => some ⟨nodeId, st.visit nodeId⟩
  | .stop _ => none

theorem NodeStep.visit?_eq_some {step : NodeStep} {v : Visit} (h : step.visit? = some v) :
    ∃ st, step = .next v.nodeId st ∧ v.entered = st.visit v.nodeId := by
  cases step with
  | next nodeId st => cases h; exact ⟨st, rfl, rfl⟩
  | stop => cases h

section Walk

variable (libs : Libraries) (env : Environment) (rule : Rule)

/-- What a visit does: the step of the node, or the end of the walk where there is no node. -/
def Visit.step (v : Visit) : NodeStep :=
  match rule.flow.nodes.get v.nodeId with
  | none => .stop (v.entered.withError s!"Node not found: {v.nodeId}")
  | some node => runNode libs env rule.id v.nodeId v.entered node

/-- The visits of a walk that nothing cuts short: the first one is that of the start node, and
    each one leads to the next. -/
def visitAt : ℕ → Option Visit
  | 0 => some ⟨rule.flow.startNode, (ExecState.initial rule).visit rule.flow.startNode⟩
  | k + 1 => (visitAt k).bind fun v => (v.step libs env rule).visit?

/-- The visits an execution makes: those of the walk, up to the bound on the iterations. -/
def visits : List Visit := (range maxIterations).filterMap (visitAt libs env rule)

/-- One of the visits an execution makes is that of an `End` node. -/
def ReachesEnd : Prop :=
  ∃ v ∈ visits libs env rule, rule.flow.nodes.get v.nodeId = some .finish

variable {libs env rule}

theorem mem_visits {v : Visit} :
    v ∈ visits libs env rule ↔ ∃ k < maxIterations, visitAt libs env rule k = some v := by
  simp [visits]

theorem visitAt_succ_eq_some {k : ℕ} {v : Visit} (h : visitAt libs env rule (k + 1) = some v) :
    ∃ before st, visitAt libs env rule k = some before ∧
      before.step libs env rule = .next v.nodeId st ∧ v.entered = st.visit v.nodeId := by
  obtain ⟨before, hbefore, hstep⟩ := Option.bind_eq_some_iff.1 h
  obtain ⟨st, hnext, hentered⟩ := NodeStep.visit?_eq_some hstep
  exact ⟨before, st, hbefore, hnext, hentered⟩

/-- The last steps of an execution, from a visit on. -/
def NodeStep.runOn (libs : Libraries) (env : Environment) (rule : Rule) (iterations : ℕ) :
    NodeStep → ExecState
  | .next nodeId st => runFlow libs env rule iterations nodeId st
  | .stop st => st

theorem runFlow_eq_runOn (iterations : ℕ) (nodeId : String) (st : ExecState) :
    runFlow libs env rule (iterations + 1) nodeId st =
      (Visit.step libs env rule ⟨nodeId, st.visit nodeId⟩).runOn libs env rule iterations := by
  simp only [runFlow, Visit.step]
  cases rule.flow.nodes.get nodeId with
  | none => rfl
  | some node => rfl

/-- An execution goes on from each of its visits. -/
theorem execute_eq_step {k : ℕ} {v : Visit} (hv : visitAt libs env rule k = some v)
    (iterations : ℕ) (hk : k + iterations + 1 = maxIterations) :
    execute libs env rule = (v.step libs env rule).runOn libs env rule iterations := by
  induction k generalizing v iterations with
  | zero =>
    cases hv
    rw [execute, ← hk, Nat.zero_add]
    exact runFlow_eq_runOn _ _ _
  | succ k ih =>
    obtain ⟨before, st, hbefore, hnext, hentered⟩ := visitAt_succ_eq_some hv
    rw [ih hbefore (iterations + 1) (by omega), hnext]
    show runFlow libs env rule (iterations + 1) v.nodeId st = _
    rw [runFlow_eq_runOn, ← hentered]

theorem execute_of_stop {v : Visit} (hv : v ∈ visits libs env rule) {st : ExecState}
    (hstop : v.step libs env rule = .stop st) : execute libs env rule = st := by
  obtain ⟨k, hk, hv⟩ := mem_visits.1 hv
  rw [execute_eq_step hv (maxIterations - 1 - k) (by omega), hstop]
  rfl

/-- `v` is the last visit of an execution, the one with number `k`, and `final` the state it has
    ended in. -/
inductive Ends (libs : Libraries) (env : Environment) (rule : Rule) (k : ℕ) (v : Visit)
    (final : ExecState) : Prop
  | stop (h : v.step libs env rule = .stop final)
  | exceeded (nodeId : String) (st : ExecState) (hk : k + 1 = maxIterations)
      (h : v.step libs env rule = .next nodeId st)
      (hfinal : final = st.withError "Execution exceeded maximum iterations")

variable (libs env rule) in
/-- Every execution has a last visit. -/
theorem execute_ends : ∃ k v, k < maxIterations ∧ visitAt libs env rule k = some v ∧
    Ends libs env rule k v (execute libs env rule) := by
  -- from every visit on there is one, by induction on the iterations left
  have hfrom : ∀ iterations k v, k + iterations + 1 = maxIterations →
      visitAt libs env rule k = some v →
      ∃ k v, k < maxIterations ∧ visitAt libs env rule k = some v ∧
        Ends libs env rule k v (execute libs env rule) := by
    intro iterations
    induction iterations with
    | zero =>
      intro k v hk hv
      refine ⟨k, v, by omega, hv, ?_⟩
      have hexec := execute_eq_step hv 0 hk
      cases hstep : v.step libs env rule with
      | next nodeId st => exact .exceeded nodeId st hk hstep (by rw [hexec, hstep]; rfl)
      | stop st => exact .stop (by rw [hexec, hstep]; rfl)
    | succ iterations ih =>
      intro k v hk hv
      cases hstep : v.step libs env rule with
      | next nodeId st =>
        refine ih (k + 1) ⟨nodeId, st.visit nodeId⟩ (by omega) ?_
        rw [visitAt, hv, Option.bind_some, hstep]
        rfl
      | stop st =>
        have hk : k < maxIterations := by omega
        exact ⟨k, v, hk, hv, .stop (by rw [hstep, execute_of_stop (mem_visits.2 ⟨k, hk, hv⟩) hstep])⟩
  exact hfrom (maxIterations - 1) 0 _ rfl rfl

variable (libs env rule) in
/-- A visit ends the walk at an `End` node, or takes the step of another node. -/
theorem Visit.step_cases (v : Visit) :
    (rule.flow.nodes.get v.nodeId = some .finish ∧
      v.step libs env rule = .stop (runEnd v.entered)) ∨
    (rule.flow.nodes.get v.nodeId ≠ some .finish ∧
      NodeReads env v.entered (v.step libs env rule)) := by
  unfold Visit.step
  cases hnode : rule.flow.nodes.get v.nodeId with
  | none => exact .inr ⟨nofun, .of_sameReads (.withError _ _)⟩
  | some node =>
    by_cases hfinish : node = .finish
    · subst hfinish
      exact .inl ⟨rfl, rfl⟩
    · exact .inr ⟨fun h => hfinish (Option.some.inj h), nodeReads_runNode hfinish _ _ _⟩

theorem Visit.nodeReads_of_next {v : Visit} {nodeId : String} {st : ExecState}
    (h : v.step libs env rule = .next nodeId st) : NodeReads env v.entered (.next nodeId st) := by
  rcases v.step_cases libs env rule with ⟨-, hstop⟩ | ⟨-, hreads⟩
  · rw [hstop] at h
    cases h
  · rwa [h] at hreads

/-- What holds of the state in which a node is entered. -/
structure Entered (env : Environment) (st : ExecState) : Prop where
  reads : ∀ r ∈ st.reads, r.From env
  tracked : st.Tracked
  sound : SoundFor st.result.pointValues st.reads
  success : st.result.success = false

theorem entered_visitAt {k : ℕ} {v : Visit} (hv : visitAt libs env rule k = some v) :
    Entered env v.entered := by
  induction k generalizing v with
  | zero => cases hv; exact ⟨nofun, fun _ => rfl, nofun, rfl⟩
  | succ k ih =>
    obtain ⟨before, st, hbefore, hnext, hentered⟩ := visitAt_succ_eq_some hv
    have h := ih hbefore
    have hstep := Visit.nodeReads_of_next hnext
    obtain ⟨new, hnew, hfrom⟩ := hstep.reads
    rw [hentered]
    refine ⟨?_, (hstep.tracked _ st rfl h.tracked).1, hstep.sound h.tracked h.sound,
      hstep.success.trans h.success⟩
    show ∀ r ∈ st.reads, r.From env
    rw [show st.reads = before.entered.reads ++ new from hnew]
    exact forall_mem_append.2 ⟨h.reads, hfrom⟩

theorem entered_of_mem {v : Visit} (hv : v ∈ visits libs env rule) : Entered env v.entered := by
  obtain ⟨k, -, hv⟩ := mem_visits.1 hv
  exact entered_visitAt hv

theorem execute_of_finish {v : Visit} (hv : v ∈ visits libs env rule)
    (hnode : rule.flow.nodes.get v.nodeId = some .finish) :
    execute libs env rule = runEnd v.entered := by
  refine execute_of_stop hv ?_
  rw [Visit.step, hnode]
  rfl

@[simp] theorem runEnd_reads (st : ExecState) : (runEnd st).reads = st.reads := by
  unfold runEnd
  dsimp only
  split_ifs <;> rfl

@[simp] theorem runEnd_pointValues (st : ExecState) :
    (runEnd st).result.pointValues = st.pointValues := by
  unfold runEnd
  dsimp only
  split_ifs <;> rfl

@[simp] theorem runEnd_executionPath (st : ExecState) :
    (runEnd st).result.executionPath = st.result.executionPath := by
  unfold runEnd
  dsimp only
  split_ifs <;> rfl

@[simp] theorem runEnd_actionsExecuted (st : ExecState) :
    (runEnd st).result.actionsExecuted = st.result.actionsExecuted := by
  unfold runEnd
  dsimp only
  split_ifs <;> rfl

variable (libs env rule) in
/-- An execution has ended at an `End` node, or without success at another one. -/
theorem execute_cases :
    (∃ v ∈ visits libs env rule, rule.flow.nodes.get v.nodeId = some .finish ∧
      execute libs env rule = runEnd v.entered) ∨
    ∃ v ∈ visits libs env rule, ∃ step, NodeReads env v.entered step ∧
      step.state = execute libs env rule := by
  obtain ⟨k, v, hk, hv, hend⟩ := execute_ends libs env rule
  have hmem : v ∈ visits libs env rule := mem_visits.2 ⟨k, hk, hv⟩
  cases hend with
  | stop hstop =>
    rcases v.step_cases libs env rule with ⟨hnode, hfin⟩ | ⟨-, hr⟩
    · rw [hstop] at hfin
      exact .inl ⟨v, hmem, hnode, NodeStep.stop.inj hfin⟩
    · exact .inr ⟨v, hmem, _, hr, by rw [hstop]; rfl⟩
  | exceeded nodeId st _ hnext hfinal =>
    rcases v.step_cases libs env rule with ⟨-, hfin⟩ | ⟨-, hr⟩
    · rw [hnext] at hfin
      cases hfin
    · rw [hnext] at hr
      refine .inr ⟨v, hmem, .next nodeId (execute libs env rule), ?_, rfl⟩
      -- the error text is all that is added
      rw [hfinal]
      exact ⟨hr.path, hr.success, hr.actions, hr.reads, fun id st' h htr => by
        cases h; exact hr.tracked _ st rfl htr, hr.sound⟩

/-- Every reading of an execution is an answer of the surroundings. -/
theorem execute_reads {r : Reading} (hr : r ∈ (execute libs env rule).reads) : r.From env := by
  rcases execute_cases libs env rule with
    ⟨v, hv, -, hexec⟩ | ⟨v, hv, step, hstep, hexec⟩
  · rw [hexec, runEnd_reads] at hr
    exact (entered_of_mem hv).reads r hr
  · obtain ⟨new, hnew, hfrom⟩ := hstep.reads
    rw [← hexec, hnew] at hr
    exact forall_mem_append.2 ⟨(entered_of_mem hv).reads, hfrom⟩ r hr

/-- Every value an execution reports is one of its readings. -/
theorem execute_reported_sound :
    SoundFor (execute libs env rule).result.pointValues (execute libs env rule).reads := by
  rcases execute_cases libs env rule with
    ⟨v, hv, -, hexec⟩ | ⟨v, hv, step, hstep, hexec⟩
  · rw [hexec, runEnd_reads, runEnd_pointValues]
    exact (entered_of_mem hv).tracked.sound
  · rw [← hexec]
    exact hstep.sound (entered_of_mem hv).tracked (entered_of_mem hv).sound

/-- An execution that came to an `End` node reports the last finite reading of every point. -/
theorem execute_reported_last (hend : ReachesEnd libs env rule) (key : String) :
    (execute libs env rule).result.pointValues.get key =
      lastFinite key (execute libs env rule).reads := by
  obtain ⟨v, hv, hnode⟩ := hend
  rw [execute_of_finish hv hnode, runEnd_reads, runEnd_pointValues]
  exact (entered_of_mem hv).tracked key

theorem reachesEnd_of_success (h : (execute libs env rule).result.success = true) :
    ReachesEnd libs env rule := by
  rcases execute_cases libs env rule with
    ⟨v, hv, hnode, -⟩ | ⟨v, hv, step, hstep, hexec⟩
  · exact ⟨v, hv, hnode⟩
  · rw [← hexec, hstep.success, (entered_of_mem hv).success] at h
    cases h

end Walk

end AetherEdge.Rules
