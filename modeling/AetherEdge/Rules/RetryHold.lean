import AetherEdge.Rules.Baseline
import AetherEdge.Rules.Fencing
import AetherEdge.Rules.NodeVariables

/-!
# Rules that are held

After an uncertain outcome (a command was accepted but the execution did not succeed, or it timed
out) the scheduler keeps the values the execution worked with, and does not select the rule again
while its points keep them.

* `Held`: the rule is held for the values `kept`. It is an invariant of every run in which the
  points keep these values, reloads keep the definition and no manual execution succeeds;
* `ExitsReporting`: the ways to end after which the values on record are the ones last read
  (`finite_retryInput_of_exitsReporting`);
* `not_selected_while_held`: after an uncertain outcome that came about in one of these ways the
  rule is held for the values the execution last read, provided that no tick is on its way with
  older ones;
* `held_for_older_value`: an execution that ended at a missing wire, and is selected again.
-/

namespace AetherEdge.Rules

open Transition List Option

/-! ## The values on record -/

section Reported

variable (libs : Libraries)

/-- The value a job last read for a point, if it was finite. A point that the flow did not read
    was read before the execution, and all of them again after a timeout. -/
def Job.lastValue (job : Job) (exec : Execution) (ref : PointRef) : Option F64 :=
  if exec.timedOut then (exec.resampled ref).filter F64.isFinite
  else
    match lastReading ref.cacheKey (execute libs exec.env job.rule).reads with
    | some value => value.filter F64.isFinite
    | none => (job.snapshot exec).finite ref.cacheKey

/-- The execution comes to a switch that reads all its variables and finds some of them
    unavailable. -/
def FindsUnavailable (env : Environment) (rule : Rule) : Prop :=
  ∃ v ∈ visits libs env rule, ∃ vars rules wires,
    rule.flow.nodes.get v.nodeId = some (.switch vars rules wires) ∧
    (∀ w ∈ vars, w.formula = [] → w.instanceId ≠ none ∧ w.point ≠ none) ∧
    Unavailable libs env vars v.entered

/-- How an execution can end with its readings on record: it times out and the points are sampled
    again; it comes to an `End` node, or to a switch that finds variables unavailable, and reports
    them; or it ends at another node, and every subscribed point has read all the time as it was
    sampled before. -/
inductive ExitsReporting (job : Job) (exec : Execution) : Prop
  | timedOut (h : exec.timedOut = true)
  | atEnd (h : ReachesEnd libs exec.env job.rule)
  | unavailable (h : FindsUnavailable libs exec.env job.rule)
  | unchanged (h : ∀ ref ∈ job.trigger.pointRefs, ∀ moment,
      (exec.env.reading moment ref.pointType ref.instanceId ref.point).filter F64.isFinite =
        (job.snapshot exec).finite ref.cacheKey)

variable {libs} {job : Job} {exec : Execution}

variable (hhold : (job.attempt libs exec).holdAutomaticRetry = true)

include hhold

theorem retryInput_of_timedOut (h : exec.timedOut = true) :
    job.retryInput libs exec = fetchPointSnapshot exec.resampled job.trigger.pointRefs := by
  have htime : (job.attempt libs exec).timedOut = true := executeWithTimeout_timedOut.trans h
  rw [Job.retryInput, retryInput, if_pos hhold, if_pos htime, getD_some]

/-- Without a timeout, a reported value takes the place of the sampled one. -/
theorem finite_retryInput (h : exec.timedOut = false) (key : String) :
    (job.retryInput libs exec).finite key =
      (((execute libs exec.env job.rule).result.pointValues.get key).filter F64.isFinite).or
        ((job.snapshot exec).finite key) := by
  have htime : ¬(job.attempt libs exec).timedOut = true := by
    rw [Job.attempt, executeWithTimeout_timedOut, h]
    decide
  rw [Job.retryInput, retryInput, if_pos hhold, if_neg htime, getD_some, Job.attempt,
    executeWithTimeout_pointValues h, Snapshot.finite, HashMap.get_extend, HashMap.get_filterMap]
  rcases (execute libs exec.env job.rule).result.pointValues.get key with _ | value
  · rfl
  by_cases hfin : value.isFinite = true
  · rw [filter_some_pos hfin]
    simp [hfin, filter_some_pos hfin]
  · rw [filter_some_neg (Bool.not_eq_true _ ▸ hfin)]
    simp [hfin, Snapshot.finite]

/-- If every reading of a point is `kept`, and so is the sampled value, then so is the value on
    record. -/
theorem finite_retryInput_of_steady (h : exec.timedOut = false) {key : String} {kept : Option F64}
    (hsnap : (job.snapshot exec).finite key = kept)
    (hreads : ∀ r ∈ (execute libs exec.env job.rule).reads, r.key = key → r.value.filter
      F64.isFinite = kept) :
    (job.retryInput libs exec).finite key = kept := by
  rw [finite_retryInput hhold h, hsnap]
  cases hget : (execute libs exec.env job.rule).result.pointValues.get key with
  | none => rfl
  | some value =>
    obtain ⟨hfin, r, hmem, hkey, hvl⟩ := execute_reported_sound key value hget
    rw [← hreads r hmem hkey, hvl, filter_some_pos hfin, some_or]

omit hhold in
/-- A switch that has read all its variables reports the last finite reading of every point. -/
theorem pointValues_of_findsUnavailable {env : Environment} {rule : Rule}
    (h : FindsUnavailable libs env rule) (key : String) :
    (execute libs env rule).result.pointValues.get key =
      lastFinite key (execute libs env rule).reads := by
  obtain ⟨v, hv, vars, rules, wires, hnode, hcomplete, hunavailable⟩ := h
  obtain ⟨base, hbase⟩ := readBase_of_complete env
    ⟨v.entered.values, false, [], .empty, v.entered.moment, v.entered.reads⟩ hcomplete
  obtain ⟨r, hread⟩ : ∃ r, readRuleVariables libs env vars v.entered.values v.entered.moment
      v.entered.reads = (none, r) := ⟨_, readRuleVariables_eq_none.2 ⟨base, hbase, rfl⟩⟩
  have hmissing := missing_of_unavailable hunavailable hread
  obtain ⟨new, hnew, -, hvals⟩ :=
    readRuleVariables_tracks libs env vars v.entered.values v.entered.moment v.entered.reads
  rw [hread] at hnew hvals
  have hstep : v.step libs env rule = .stop ((v.entered.afterRead r).report.withError
      s!"Rule cycle skipped: variables unavailable: {r.missingText}") := by
    rw [Visit.step, hnode]
    simp only [runNode, runSwitch, hread]
    rw [if_pos hmissing]
  rw [execute_of_stop hv hstep]
  show (v.entered.pointValues.extend r.pointValues).get key = lastFinite key r.reads
  rw [HashMap.get_extend, hvals, (entered_of_mem hv).tracked key, hnew, lastFinite_append]

/-- An execution that reports the last finite readings has the values last read on record. -/
theorem finite_retryInput_of_reported (h : exec.timedOut = false)
    (hreported : ∀ key, (execute libs exec.env job.rule).result.pointValues.get key =
      lastFinite key (execute libs exec.env job.rule).reads)
    {ref : PointRef} {value : F64} (hvl : job.lastValue libs exec ref = some value) :
    (job.retryInput libs exec).finite ref.cacheKey = some value := by
  rw [finite_retryInput hhold h, hreported]
  rw [Job.lastValue, if_neg (by simp [h])] at hvl
  cases hlast : lastReading ref.cacheKey (execute libs exec.env job.rule).reads with
  | none =>
    rw [hlast] at hvl
    rw [lastFinite_of_lastReading_none hlast, filter_none, none_or]
    exact hvl
  | some last =>
    rw [hlast] at hvl
    obtain ⟨rfl, hfin⟩ := filter_eq_some_iff.1 hvl
    rw [lastFinite_of_lastReading hlast hfin, filter_some_pos hfin, some_or]

/-- After one of these exits the values on record are the ones last read. -/
theorem finite_retryInput_of_exitsReporting (h : ExitsReporting libs job exec) {ref : PointRef}
    (href : ref ∈ job.trigger.pointRefs) {value : F64}
    (hvl : job.lastValue libs exec ref = some value) :
    (job.retryInput libs exec).finite ref.cacheKey = some value := by
  cases htime : exec.timedOut with
  | true =>
    rw [Job.lastValue, if_pos htime] at hvl
    rw [retryInput_of_timedOut hhold htime, finite_fetchPointSnapshot href, hvl]
  | false =>
    cases h with
    | timedOut h =>
      rw [htime] at h
      cases h
    | atEnd h => exact finite_retryInput_of_reported hhold htime (execute_reported_last h) hvl
    | unavailable h =>
      exact finite_retryInput_of_reported hhold htime (pointValues_of_findsUnavailable h) hvl
    | unchanged h =>
      have hread : ∀ r ∈ (execute libs exec.env job.rule).reads, r.key = ref.cacheKey →
          r.value.filter F64.isFinite = (job.snapshot exec).finite ref.cacheKey := by
        intro r hr hkey
        rw [(execute_reads hr).value_eq hkey]
        exact h ref href r.moment
      rw [finite_retryInput_of_steady hhold htime rfl hread]
      rw [Job.lastValue, if_neg (by simp [htime])] at hvl
      cases hlast : lastReading ref.cacheKey (execute libs exec.env job.rule).reads with
      | none => rwa [hlast] at hvl
      | some last =>
        rw [hlast] at hvl
        obtain ⟨r, hr, hkey, rfl⟩ := mem_of_lastReading hlast
        rw [← hread r hr hkey]
        exact hvl

end Reported

/-! ## Held rules -/

/-- Every point reads as it was kept. -/
def Live.Shows (live : Live) (refs : List PointRef) (kept : PointRef → Option F64) : Prop :=
  ∀ ref ∈ refs, (live ref).filter F64.isFinite = kept ref

/-- So it does at every reading of an execution. -/
structure Execution.Shows (exec : Execution) (refs : List PointRef)
    (kept : PointRef → Option F64) : Prop where
  sampled : exec.sampled.Shows refs kept
  resampled : exec.resampled.Shows refs kept
  env : ∀ ref ∈ refs, ∀ moment,
    (exec.env.reading moment ref.pointType ref.instanceId ref.point).filter F64.isFinite = kept ref

/-- The points it subscribes to. -/
def Definition.pointRefs {libs : Libraries} (d : Definition libs) : List PointRef :=
  d.trigger.pointRefs

/-- The hold is for the values `kept`, by an outcome that was recorded at `time` or later. -/
structure RetryHold.Protects (hold : RetryHold) (refs : List PointRef)
    (kept : PointRef → Option F64) (time : ℕ) : Prop where
  token : time ≤ hold.token
  input : ∀ ref ∈ refs, ∀ value, kept ref = some value →
    hold.input.get ref.cacheKey = some (some value)

/-- The rule with definition `d` is held for the values `kept`, by an outcome that was recorded
    at `time` or later. -/
structure Held {libs : Libraries} (d : Definition libs) (kept : PointRef → Option F64) (time : ℕ)
    (s : State) : Prop where
  consistent : Consistent libs s
  entry : ∃ scheduled hold, s.rules.find d.id = some scheduled ∧ scheduled.definition libs = d ∧
    scheduled.retryHold = some hold ∧ hold.Protects d.pointRefs kept time
  /-- what has been sampled and not been used yet are these values -/
  passes : ∀ pass ∈ s.passes, ∀ ref ∈ d.pointRefs, ∀ value,
    pass.snapshot.finite ref.cacheKey = some value → kept ref = some value
  /-- only manual executions have been selected since -/
  running : ∀ running ∈ s.running, running.job.definition libs = d → time < running.since →
    running.job.isAutomatic = false

/-- What the other steps may do meanwhile: a reload keeps the definition, the points keep their
    values, and a manual execution selected after `time` does not succeed. -/
def Undisturbed {libs : Libraries} (d : Definition libs) (kept : PointRef → Option F64)
    (time : ℕ) (s : State) : Op → Prop
  | .reload db => ∃ rule, db.getRuleForExecution d.id = some rule ∧
      definition libs rule (resolveTrigger libs rule.triggerConfig rule.cooldownMs) = d
  | .sample _ _ live => live.Shows d.pointRefs kept
  | .select _ => True
  | .begin _ _ => True
  | .complete i exec _ current =>
    current.Shows d.pointRefs kept ∧
      ∀ running, s.running[i]? = some running → running.job.definition libs = d →
        time < running.since →
        exec.Shows d.pointRefs kept ∧
          (running.job.isAutomatic = false →
            (running.job.attempt libs exec).result.success = false)

/-- A tick or a watch event selects the definition. -/
def Selects {libs : Libraries} (d : Definition libs) (s : State) (op : Op) : Prop :=
  ∃ i pass job, op = .select i ∧ s.passes[i]? = some pass ∧ job ∈ pass.jobs libs s.rules ∧
    job.definition libs = d

section Held

variable {libs : Libraries} {d : Definition libs} {kept : PointRef → Option F64} {time : ℕ}
  {s : State} {scheduled : ScheduledRule}

theorem ScheduledRule.pointRefs_of_definition (h : scheduled.definition libs = d) :
    scheduled.trigger.pointRefs = d.pointRefs := by
  rw [← h]
  exact (TriggerConfig.pointRefs_value _).symm

theorem Job.pointRefs_of_definition {job : Job} (h : job.definition libs = d) :
    job.trigger.pointRefs = d.pointRefs := by
  rw [← h]
  exact (TriggerConfig.pointRefs_value _).symm

variable {hold : RetryHold}

/-- A hold with the sampled values stops the rule. -/
theorem automaticRetryHeld_of_shows {snapshot : Snapshot} (hhold : scheduled.retryHold = some hold)
    (h : ∀ ref ∈ scheduled.trigger.pointRefs, ∀ value, snapshot.finite ref.cacheKey = some value →
      hold.input.get ref.cacheKey = some (some value)) :
    scheduled.automaticRetryHeld snapshot = true := by
  unfold ScheduledRule.automaticRetryHeld
  rw [hhold]
  dsimp only
  split
  · rfl
  next refs time deadband htrigger =>
  rw [Bool.not_eq_true', List.any_eq_false]
  intro ref href
  have hheld := h ref (by rw [htrigger]; exact href)
  cases hvl : snapshot.finite ref.cacheKey with
  | none => simp
  | some value =>
    have hsame : value.totalCmp value = .eq := F64.totalCmp_eq_iff.2 rfl
    simp [hheld value hvl, hsame]

section

variable (h : Held d kept time s)

include h

theorem Held.not_selected {pass : Pass} (hpass : pass ∈ s.passes) {job : Job}
    (hjob : job ∈ pass.jobs libs s.rules) : job.definition libs ≠ d := by
  rintro hdef
  obtain ⟨scheduled, hold, hfind, hload, hhold, hprot⟩ := h.entry
  obtain ⟨selected, hmem, rfl⟩ := List.mem_map.1 hjob
  obtain ⟨hent, hsel⟩ := mem_filter.1 hmem
  -- the selected entry is the one with this id
  have hid : selected.rule.id = d.id := congrArg Definition.id hdef
  have hsame : selected = scheduled := by
    have := RuleSet.find_of_mem hent
    rw [hid, hfind, Option.some.injEq] at this
    exact this.symm
  subst hsame
  have hheld : selected.automaticRetryHeld pass.snapshot = true := by
    refine automaticRetryHeld_of_shows hhold fun ref href value hvl => ?_
    rw [ScheduledRule.pointRefs_of_definition hload] at href
    exact hprot.input ref href value (h.passes pass hpass ref href value hvl)
  simp [ScheduledRule.selectedBy, hheld] at hsel

theorem Held.reload (db : Database) (hop : Undisturbed d kept time s (.reload db)) :
    Held d kept time (step libs s (.reload db)) := by
  refine ⟨h.consistent.reload db, ?_, h.passes, h.running⟩
  obtain ⟨prior, hold, hfind, hload, hhold, hprot⟩ := h.entry
  obtain ⟨rule, hrule, hdef⟩ := hop
  refine ⟨RuleSet.carry libs (some prior) rule, hold, ?_, ?_, ?_, hprot⟩
  · show (s.rules.load libs db).find d.id = _
    rw [RuleSet.find_load, hrule, hfind, map_some]
  · exact hdef
  · have hsame : sameExecutionDefinition libs rule
        (resolveTrigger libs rule.triggerConfig rule.cooldownMs) prior.rule prior.trigger = true :=
      decide_eq_true (hdef.trans hload.symm)
    simp only [RuleSet.carry, hsame, if_true]
    exact hhold

theorem Held.sample (cause : Cause) (now : ℕ) (live : Live)
    (hop : Undisturbed d kept time s (.sample cause now live)) :
    Held d kept time (step libs s (.sample cause now live)) := by
  have hcons := h.consistent.step (.sample cause now live)
  simp only [step] at hcons ⊢
  split
  · exact h
  refine ⟨⟨h.consistent.holds, h.consistent.outcomes, h.consistent.since,
    h.consistent.selections⟩, h.entry, ?_, h.running⟩
  intro pass hpass ref href value hvl
  rcases mem_append.1 hpass with hpass | hpass
  · exact h.passes pass hpass ref href value hvl
  · rw [mem_singleton.1 hpass] at hvl
    rw [← hop ref href]
    exact finite_fetchPointSnapshot_eq_some hvl

theorem Held.select (i : ℕ) : Held d kept time (step libs s (.select i)) := by
  have hcons := h.consistent.select i
  simp only [step] at hcons ⊢
  rcases hpass : s.passes[i]? with _ | pass
  · exact h
  rw [hpass] at hcons
  refine ⟨hcons, h.entry, fun other hoth => ?_, ?_⟩
  · exact h.passes other (mem_of_mem_eraseIdx hoth)
  · intro running hmem hdef hsince
    rcases mem_append.1 hmem with hmem | hmem
    · exact h.running running hmem hdef hsince
    · obtain ⟨job, hjob, rfl⟩ := List.mem_map.1 hmem
      exact absurd hdef (h.not_selected (List.mem_of_getElem? hpass) hjob)

theorem Held.begin (db : Database) (ruleId : ℤ) :
    Held d kept time (step libs s (.begin db ruleId)) := by
  have hcons := h.consistent.begin db ruleId
  simp only [step] at hcons ⊢
  rcases hrule : db.getRuleForExecution ruleId with _ | rule
  · exact h
  rw [hrule] at hcons
  refine ⟨hcons, h.entry, h.passes, ?_⟩
  intro running hmem hdef hsince
  rcases mem_append.1 hmem with hmem | hmem
  · exact h.running running hmem hdef hsince
  · rw [mem_singleton.1 hmem]
    rfl

end

variable {exec : Execution}

/-- An execution among points that keep their values leaves these on record. -/
theorem finite_retryInput_of_shows {rule : Rule} {trigger : TriggerConfig}
    {selection : Option ExecutionSelection}
    (hhold : ((Job.manual rule trigger selection).attempt libs exec).holdAutomaticRetry = true)
    (hshows : exec.Shows trigger.pointRefs kept) {ref : PointRef} (href : ref ∈ trigger.pointRefs) :
    ((Job.manual rule trigger selection).retryInput libs exec).finite ref.cacheKey = kept ref := by
  cases htime : exec.timedOut with
  | true =>
    rw [retryInput_of_timedOut hhold htime]
    show (fetchPointSnapshot exec.resampled trigger.pointRefs).finite _ = _
    rw [finite_fetchPointSnapshot href, hshows.resampled ref href]
  | false =>
    refine finite_retryInput_of_steady hhold htime ?_ ?_
    · show (fetchPointSnapshot exec.sampled trigger.pointRefs).finite _ = _
      rw [finite_fetchPointSnapshot href, hshows.sampled ref href]
    · intro r hr hkey
      rw [(execute_reads hr).value_eq hkey]
      exact hshows.env ref href r.moment

variable {fresh : ℕ}

theorem protects_heldInput {refs : List PointRef} {snapshot : Snapshot}
    (hrefs : scheduled.trigger.pointRefs = refs) (htime : time ≤ fresh)
    (h : ∀ ref ∈ refs, ∀ value, kept ref = some value → snapshot.finite ref.cacheKey = some value) :
    (RetryHold.mk fresh (scheduled.heldInput snapshot)).Protects refs kept time where
  token := htime
  input ref href value hvl := by
    show (scheduled.heldInput snapshot).get ref.cacheKey = _
    rw [get_heldInput (hrefs ▸ href), h ref href value hvl]

variable {current : Live} {selection : ExecutionSelection}

/-- A completion that is not accepted leaves the rule held. -/
theorem protects_holdCompletion {doubt : Bool} (hload : scheduled.definition libs = d)
    (hhold : scheduled.retryHold = some hold) (hprot : hold.Protects d.pointRefs kept time)
    (hfr : hold.token < fresh) (hcur : current.Shows d.pointRefs kept) :
    ∃ after, (scheduled.holdCompletion libs fresh current selection doubt).retryHold = some after ∧
      after.Protects d.pointRefs kept time := by
  have hrefs := ScheduledRule.pointRefs_of_definition hload
  have htime := hprot.token
  unfold ScheduledRule.holdCompletion
  split_ifs
  · refine ⟨_, rfl, protects_heldInput hrefs (by omega) fun ref href value hvl => ?_⟩
    rw [finite_fetchPointSnapshot (hrefs ▸ href), hcur ref href, hvl]
  · exact ⟨hold, hhold, hprot⟩

/-- A manual execution that does not succeed leaves the rule held. -/
theorem protects_manual {rule : Rule} {trigger : TriggerConfig} {now : ℕ}
    (hload : scheduled.definition libs = d) (hhold : scheduled.retryHold = some hold)
    (hprot : hold.Protects d.pointRefs kept time) (hfr : hold.token < fresh)
    (hacc : scheduled.acceptsCompletion libs selection = true)
    (hrefs : trigger.pointRefs = d.pointRefs) (hshows : exec.Shows d.pointRefs kept)
    (hfld : ((Job.manual rule trigger (some selection)).attempt libs exec).result.success =
      false) :
    ∃ after, (scheduled.complete libs fresh current (.manual rule trigger (some selection)) now
        exec).retryHold = some after ∧ after.Protects d.pointRefs kept time := by
  have htime := hprot.token
  by_cases hdoubt : ((Job.manual rule trigger (some selection)).attempt libs
      exec).holdAutomaticRetry = true
  · refine ⟨_, retryHold_complete_of_hold rfl hacc hdoubt,
      protects_heldInput (ScheduledRule.pointRefs_of_definition hload) (by omega) ?_⟩
    intro ref href value hvl
    rw [← hrefs] at hshows href
    rw [finite_retryInput_of_shows hdoubt hshows href, hvl]
  · rw [Bool.not_eq_true] at hdoubt
    rw [complete_manual_of_failed hdoubt hfld]
    exact ⟨hold, hhold, hprot⟩

/-- The completion of an execution of the held rule leaves it held. -/
theorem Held.protects_complete (h : Held d kept time s) {running : Running} (now : ℕ)
    (hmem : running ∈ s.running) (hload : scheduled.definition libs = d)
    (hhold : scheduled.retryHold = some hold) (hprot : hold.Protects d.pointRefs kept time)
    (hfr : hold.token < s.fresh) (hcur : current.Shows d.pointRefs kept)
    (hexec : running.job.definition libs = d → time < running.since → exec.Shows d.pointRefs kept ∧
      (running.job.isAutomatic = false → (running.job.attempt libs exec).result.success = false)) :
    ∃ after, (scheduled.complete libs s.fresh current running.job now exec).retryHold = some after ∧
      after.Protects d.pointRefs kept time := by
  rcases hsel : running.job.selection with _ | selection
  · rw [complete_of_selection_none hsel]
    exact ⟨hold, hhold, hprot⟩
  obtain ⟨hdef, hselected⟩ := h.consistent.selections running hmem selection hsel
  by_cases hacc : scheduled.acceptsCompletion libs selection = true
  · -- the execution was selected under this hold, so after `time`, and is a manual one
    have hjob : running.job.definition libs = d := by
      rw [← hdef, ← ScheduledRule.definition_of_accepts hacc, hload]
    have hsince : time < running.since := by
      have htoken := ScheduledRule.token_of_accepts hacc
      rw [hhold, map_some, eq_comm, map_eq_some_iff] at htoken
      obtain ⟨carried, hcarried, hsame⟩ := htoken
      have := hselected carried hcarried
      have := hprot.token
      omega
    obtain ⟨hshows, hfl⟩ := hexec hjob hsince
    have hmanual := h.running running hmem hjob hsince
    have hfld := hfl hmanual
    have hrefs := Job.pointRefs_of_definition hjob
    cases hkind : running.job with
    | automatic => rw [hkind] at hmanual; cases hmanual
    | manual rule trigger other =>
      rw [hkind] at hrefs hsel hfld
      change other = some selection at hsel
      subst hsel
      exact protects_manual hload hhold hprot hfr hacc hrefs hshows hfld
  · rw [Bool.not_eq_true] at hacc
    rw [complete_of_not_accepts hsel hacc]
    exact protects_holdCompletion hload hhold hprot hfr hcur

theorem Held.complete (h : Held d kept time s) (i : ℕ) (exec : Execution) (now : ℕ)
    (current : Live) (hop : Undisturbed d kept time s (.complete i exec now current)) :
    Held d kept time (step libs s (.complete i exec now current)) := by
  have hcons := h.consistent.complete i exec now current
  rcases hjob : s.running[i]? with _ | running
  · simp only [step, hjob]
    exact h
  refine ⟨hcons, ?_, ?_, ?_⟩
  · obtain ⟨scheduled, hold, hfind, hload, hhold, hprot⟩ := h.entry
    by_cases hid : d.id = running.job.rule.id
    · have hfr := (h.consistent.holds _ scheduled hold hfind hhold).1
      obtain ⟨after, haft, hprot'⟩ :=
        h.protects_complete now (List.mem_of_getElem? hjob) hload hhold hprot hfr hop.1
          (hop.2 running hjob)
      rw [hid] at hfind
      refine ⟨{ scheduled with
        toSchedule := scheduled.complete libs s.fresh current running.job now exec }, after, ?_,
        hload, haft, hprot'⟩
      rw [hid]
      exact find_step_complete hjob hfind exec now current
    · refine ⟨scheduled, hold, ?_, hload, hhold, hprot⟩
      rw [find_step_complete_of_ne hjob hid]
      exact hfind
  · intro pass hpass
    simp only [step, hjob] at hpass
    exact h.passes pass hpass
  · intro other hmem
    rw [running_step_complete hjob] at hmem
    exact h.running other (mem_of_mem_eraseIdx hmem)

theorem Held.step (h : Held d kept time s) (op : Op) (hop : Undisturbed d kept time s op) :
    Held d kept time (step libs s op) := by
  cases op with
  | reload db => exact h.reload db hop
  | sample cause now live => exact h.sample cause now live hop
  | select i => exact h.select i
  | begin db ruleId => exact h.begin db ruleId
  | complete i exec now current => exact h.complete i exec now current hop

variable (libs) in
/-- The states the scheduler can come to. -/
def Reachable (s : State) : Prop := ∃ ops, run (Rules.step libs) State.initial ops = s

theorem Reachable.consistent (h : Reachable libs s) : Consistent libs s := by
  obtain ⟨ops, rfl⟩ := h
  exact (consistent_run ops).last

/-- After an uncertain outcome, as long as the points keep the values the execution last read,
    no tick and no watch event selects the rule, until a manual execution succeeds. This takes
    that the execution was selected while its definition was loaded, that it ended in one of the
    ways that put its readings on record, and that no pass is on its way that has sampled other
    values. -/
theorem not_selected_while_held {i : ℕ} {exec : Execution} {now : ℕ} {current : Live}
    {running : Running} {scheduled : ScheduledRule} {later : List Op} (hreach : Reachable libs s)
    (hjob : s.running[i]? = some running) (hselection : running.job.selection.isSome = true)
    (hdoubt : (running.job.attempt libs exec).holdAutomaticRetry = true)
    (hfind : s.rules.find running.job.rule.id = some scheduled)
    (hloaded : scheduled.definition libs = running.job.definition libs)
    (hexits : ExitsReporting libs running.job exec)
    (hcurrent : current.Shows running.job.trigger.pointRefs (running.job.lastValue libs exec))
    (hstale : ∀ pass ∈ s.passes, ∀ ref ∈ running.job.trigger.pointRefs, ∀ value,
      pass.snapshot.finite ref.cacheKey = some value →
      running.job.lastValue libs exec ref = some value)
    (hlater : EveryStep (Rules.step libs)
      (Undisturbed (running.job.definition libs) (running.job.lastValue libs exec) s.fresh)
      (Rules.step libs s (.complete i exec now current)) later) :
    EveryStep (Rules.step libs) (fun s op => ¬Selects (running.job.definition libs) s op)
      (Rules.step libs s (.complete i exec now current)) later := by
  have hcons := hreach.consistent
  have hmem : running ∈ s.running := List.mem_of_getElem? hjob
  have hrefs : running.job.trigger.pointRefs = (running.job.definition libs).pointRefs :=
    Job.pointRefs_of_definition rfl
  have hsched := ScheduledRule.pointRefs_of_definition hloaded
  obtain ⟨selection, hsel⟩ := isSome_iff_exists.1 hselection
  have hhold : ∃ hold, (scheduled.complete libs s.fresh current running.job now exec).retryHold =
      some hold ∧ hold.Protects (running.job.definition libs).pointRefs
        (running.job.lastValue libs exec) s.fresh := by
    by_cases haccepts : scheduled.acceptsCompletion libs selection = true
    · refine ⟨_, retryHold_complete_of_hold hsel haccepts hdoubt,
        protects_heldInput hsched (Nat.le_refl _) ?_⟩
      rw [← hrefs]
      exact fun ref href value hvalue =>
        finite_retryInput_of_exitsReporting hdoubt hexits href hvalue
    · -- the rule is held all the same, for what its points show now
      rw [Bool.not_eq_true] at haccepts
      have hsame : scheduled.sameDefinition libs selection = true :=
        ScheduledRule.sameDefinition_iff.2
          (hloaded.trans (hcons.selections running hmem selection hsel).1.symm)
      rw [complete_of_not_accepts hsel haccepts, ScheduledRule.holdCompletion, hsame, hdoubt]
      refine ⟨_, rfl, protects_heldInput hsched (Nat.le_refl _) ?_⟩
      intro ref href value hvalue
      rw [finite_fetchPointSnapshot (hsched ▸ href), hcurrent ref (hrefs ▸ href), hvalue]
  obtain ⟨hold, hhold, hprotects⟩ := hhold
  have hheld : Held (running.job.definition libs) (running.job.lastValue libs exec) s.fresh
      (Rules.step libs s (.complete i exec now current)) := by
    refine ⟨hcons.complete i exec now current, ?_, ?_, ?_⟩
    · exact ⟨_, hold, find_step_complete hjob hfind exec now current, hloaded, hhold, hprotects⟩
    · intro pass hpass ref href
      simp only [Rules.step, hjob] at hpass
      exact hstale pass hpass ref (hrefs ▸ href)
    · intro other hother _ hsince
      rw [running_step_complete hjob] at hother
      have := hcons.since other (mem_of_mem_eraseIdx hother)
      omega
  have hinv := hlater.invariant (fun s op h hop => h.step op hop) hheld
  refine hinv.everyStep fun s op h => ?_
  rintro ⟨i, pass, job, rfl, hpass, hmem, hdefinition⟩
  exact h.not_selected (List.mem_of_getElem? hpass) hmem hdefinition

end Held

/-! ## Examples -/

/-- The job of the tick that finds the point at `1`. -/
def tickJob (rule : Rule) : Job :=
  .automatic ⟨rule, .onChange [⟨1, .measurement, 0⟩] none none, none⟩ true 0
    (fetchPointSnapshot (fun _ => some F64.one) [⟨1, .measurement, 0⟩])

/-- Its execution times out, with the point still at `1`. -/
def timedOutExecution : Execution :=
  ⟨pointEnvironment fun _ => F64.one, true, fun _ => some F64.one, fun _ => some F64.one⟩

/-- The tick after a timeout, with the point still at `1`, does not select the rule. -/
theorem not_selected_after_timeout :
    EveryStep (step .sample) (fun s op => ¬Selects ((tickJob copyingRule).definition .sample) s op)
      (step .sample copyingSelected (.complete 0 timedOutExecution 0 fun _ => some F64.one))
      [.sample .tick 40000000000 fun _ => some F64.one, .select 0] := by
  have hdoubt : ((tickJob copyingRule).attempt .sample timedOutExecution).holdAutomaticRetry =
      true := by decide +kernel
  have hentry : (copyingSelected.rules.find 1).map (ScheduledRule.definition .sample) =
      some ((tickJob copyingRule).definition .sample) := by decide +kernel
  obtain ⟨scheduled, hfind, hloaded⟩ := map_eq_some_iff.1 hentry
  have hshows : Live.Shows (fun _ => some F64.one) (tickJob copyingRule).trigger.pointRefs
      ((tickJob copyingRule).lastValue .sample timedOutExecution) := fun _ _ => rfl
  refine not_selected_while_held ⟨_, rfl⟩ running_copyingSelected rfl hdoubt hfind hloaded
    (.timedOut rfl) hshows (fun pass hpass => by cases hpass) ?_
  rw [everyStep_cons, everyStep_cons]
  exact ⟨hshows, trivial, everyStep_nil.2 trivial⟩

/-- A rule that writes the point to the action point and stops at a missing wire. -/
def unwiredRule : Rule where
  id := 1
  name := "unwired"
  enabled := true
  cooldownMs := 0
  triggerConfig := some "on_change"
  flow := ⟨"start", fun nodeId =>
    match nodeId with
    | "start" => some (.start ⟨["change"]⟩)
    | "change" => some (.changeValue [movingPoint, switchedPoint] [⟨"Y1", .string "X1"⟩] ⟨[]⟩)
    | _ => none⟩

/-- The rule is loaded, and a tick that finds `1` selects it. -/
def unwiredSelected : State :=
  run (step .sample) State.initial
    [.reload ⟨[unwiredRule], by simp⟩, .sample .tick 0 fun _ => some F64.one, .select 0]

/-- The point becomes `100` before the execution reads it. Its command is accepted, the missing
    wire ends the execution, and what goes on hold is the `1` of the tick: the next tick finds
    the same `100` and selects the rule again. -/
theorem held_for_older_value :
    let exec := pointExecution fun _ => F64.hundred
    let d := (tickJob unwiredRule).definition .sample
    let kept := (tickJob unwiredRule).lastValue .sample exec
    let later := [.sample .tick 100000000 fun _ => some F64.hundred, .select 0]
    let held := step .sample unwiredSelected (.complete 0 exec 0 fun _ => some F64.hundred)
    unwiredSelected.running[0]? = some ⟨tickJob unwiredRule, 0⟩ ∧
      ((tickJob unwiredRule).attempt .sample exec).result.success = false ∧
      ((tickJob unwiredRule).attempt .sample exec).result.actionsExecuted.any (·.success) = true ∧
      EveryStep (step .sample) (Undisturbed d kept 0) held later ∧
      ¬EveryStep (step .sample) (fun s op => ¬Selects d s op) held later := by
  refine ⟨rfl, by decide +kernel, by decide +kernel, ?_, ?_⟩
  · rw [everyStep_cons, everyStep_cons]
    refine ⟨fun ref href => ?_, trivial, everyStep_nil.2 trivial⟩
    rw [mem_singleton.1 href]
    decide +kernel
  · intro h
    exact h 1 (.select 0) rfl ⟨0, _, _, rfl, rfl, .head _, by decide +kernel⟩

end AetherEdge.Rules
