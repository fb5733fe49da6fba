import AetherEdge.Rules.Schedule

/-!
# What a baseline stands for

An automatic execution of an `OnChange` rule that succeeds moves the baseline of the subscribed
points to the values it reports (`advance_onchange`). The nodes of a flow read their points
again, and the report keeps the last finite reading, so the baseline is the value of every
reading of the point if the point does not move between the first access to it and the last
(`baseline_eq_every_reading`). If it moves between two nodes, the conditions saw one
value and the baseline is another (`change_absorbed_by_baseline`).
-/

namespace AetherEdge.Rules

open Transition

section Baseline

variable (libs : Libraries)

/-- The baseline value that the completion of job `i` records for a point. -/
def recordedBaseline (s : State) (i : ℕ) (exec : Execution) (key : String) : Option F64 :=
  match s.running[i]? with
  | some ⟨.automatic selection isOnchange _ snapshot, _⟩ =>
    match s.rules.find selection.rule.id with
    | some scheduled =>
      let result := (executeWithTimeout libs exec selection.rule).result
      if scheduled.acceptsCompletion libs selection && isOnchange && result.success &&
          scheduled.trigger.pointRefs.any fun ref => ref.cacheKey = key then
        baselineValue result.pointValues snapshot key
      else none
    | none => none
  | _ => none

/-- The live value of the point is `value` from the first access of an execution to it until the
    last one. What it is before and afterwards is left open. -/
def SteadyWhileRead (env : Environment) (rule : Rule) (ref : PointRef) (value : F64) : Prop :=
  ∀ first ∈ (execute libs env rule).reads, ∀ last ∈ (execute libs env rule).reads,
    first.key = ref.cacheKey → last.key = ref.cacheKey →
    ∀ moment, first.moment ≤ moment → moment ≤ last.moment →
      env.reading moment ref.pointType ref.instanceId ref.point = some value

variable {libs} {s : State} {i : ℕ} {exec : Execution} {key : String} {value : F64}
  {selection : ExecutionSelection} {isOnchange : Bool} {selectedAt : ℕ} {snapshot : Snapshot}
  {since : ℕ}

theorem recordedBaseline_eq_some
    (hjob : s.running[i]? = some ⟨.automatic selection isOnchange selectedAt snapshot, since⟩)
    (h : recordedBaseline libs s i exec key = some value) :
    ∃ scheduled, s.rules.find selection.rule.id = some scheduled ∧
      scheduled.acceptsCompletion libs selection = true ∧ isOnchange = true ∧
      (executeWithTimeout libs exec selection.rule).result.success = true ∧
      (∃ ref ∈ scheduled.trigger.pointRefs, ref.cacheKey = key) ∧
      baselineValue (executeWithTimeout libs exec selection.rule).result.pointValues snapshot key =
        some value := by
  unfold recordedBaseline at h
  rw [hjob] at h
  dsimp only at h
  rcases hfind : s.rules.find selection.rule.id with _ | scheduled
  · rw [hfind] at h; cases h
  rw [hfind] at h
  dsimp only at h
  split_ifs at h with hcond
  simp only [Bool.and_eq_true, List.any_eq_true, decide_eq_true_eq] at hcond
  obtain ⟨⟨⟨hacc, honchange⟩, hsucc⟩, href⟩ := hcond
  exact ⟨scheduled, rfl, hacc, honchange, hsucc, href, h⟩

theorem get_advanceOnchange {scheduled : ScheduledRule} {pointValues : HashMap F64} {now : ℕ}
    (href : ∃ ref ∈ scheduled.trigger.pointRefs, ref.cacheKey = key)
    (h : baselineValue pointValues snapshot key = some value) :
    (scheduled.advanceOnchange pointValues snapshot now).lastValue.get key = some value := by
  unfold ScheduledRule.advanceOnchange
  cases htrigger : scheduled.trigger with
  | interval ms =>
    rw [htrigger] at href
    obtain ⟨ref, hmem, -⟩ := href
    cases hmem
  | onChange refs time deadband =>
    rw [htrigger] at href
    refine HashMap.get_fill_of_mem _ href fun ref _ hkey => ?_
    rw [hkey]
    exact h

/-- The readings of a point that is steady while it is read. -/
theorem SteadyWhileRead.value_eq {env : Environment} {rule : Rule} {ref : PointRef}
    (h : SteadyWhileRead libs env rule ref value) {r : Reading}
    (hr : r ∈ (execute libs env rule).reads) (hkey : r.key = ref.cacheKey) :
    r.value = some value := by
  rw [(execute_reads hr).value_eq hkey]
  exact h r hr r hr hkey hkey r.moment le_rfl le_rfl

/-- The baseline an automatic execution records for a point is what every one of its readings
    of the point returned, if the live value of the point is one and the same finite value from the
    first of these readings to the last. -/
theorem baseline_eq_every_reading (now : ℕ) (current : Live) {ref : PointRef} {common : F64}
    (hjob : s.running[i]? = some ⟨.automatic selection isOnchange selectedAt snapshot, since⟩)
    (h : recordedBaseline libs s i exec ref.cacheKey = some value)
    (hcommon : common.isFinite = true)
    (hsteady : SteadyWhileRead libs exec.env selection.rule ref common) :
    (∃ scheduled, (step libs s (.complete i exec now current)).rules.find selection.rule.id =
        some scheduled ∧ scheduled.onchangeState.lastValue.get ref.cacheKey = some value) ∧
      ∀ r ∈ (execute libs exec.env selection.rule).reads, r.key = ref.cacheKey →
        r.value = some value := by
  obtain ⟨scheduled, hfind, haccepts, honchange, hsuccess, href, hvalue⟩ :=
    recordedBaseline_eq_some hjob h
  refine ⟨⟨_, find_step_complete hjob hfind exec now current, ?_⟩, ?_⟩
  · simp only [ScheduledRule.complete, ScheduledRule.completeAutomatic, haccepts, honchange,
      hsuccess, Bool.and_self, if_true]
    exact get_advanceOnchange href hvalue
  intro r hr hkey
  rw [executeWithTimeout_success, Bool.and_eq_true, Bool.not_eq_true'] at hsuccess
  obtain ⟨htime, hsuccess⟩ := hsuccess
  rw [baselineValue, executeWithTimeout_pointValues htime,
    execute_reported_last (reachesEnd_of_success hsuccess), Option.filter_eq_some_iff] at hvalue
  have hlast : lastFinite ref.cacheKey (execute libs exec.env selection.rule).reads =
      some common :=
    lastFinite_of_forall hcommon ⟨r, hr, hkey⟩ fun r' hr' hkey' => hsteady.value_eq hr' hkey'
  rw [hlast, Option.some_or] at hvalue
  rw [hsteady.value_eq hr hkey, hvalue.1]

end Baseline

/-! ## A point that moves between two nodes -/

/-- Measurement point 0 of instance 1. -/
def movingPoint : RuleVariable := ⟨"X1", some 1, some "measurement", some 0, []⟩

/-- Action point 0 of instance 1. -/
def switchedPoint : RuleVariable := ⟨"Y1", some 1, some "action", some 0, []⟩

/-- When the point is `1`, write it to the action point. -/
def copyingFlow : RuleFlow where
  startNode := "start"
  nodes := fun nodeId =>
    match nodeId with
    | "start" => some (.start ⟨["switch"]⟩)
    | "switch" => some (.switch [movingPoint]
        [⟨"out001", [⟨"variable", some "X1", some "==", some (.number (.posInt 1))⟩]⟩]
        (HashMap.empty.insert "out001" ["change"]))
    | "change" => some (.changeValue [movingPoint, switchedPoint]
        [⟨"Y1", .string "X1"⟩] ⟨["end"]⟩)
    | "end" => some .finish
    | _ => none

/-- The rule, triggered by the point. -/
def copyingRule : Rule := ⟨1, "copy", true, 0, some "on_change", copyingFlow⟩

/-- The measurement point reads as `values moment`; the action point has no value yet. -/
def pointEnvironment (values : ℕ → F64) : Environment where
  fence := none
  hasCommands := true
  reading moment kind _ _ :=
    match kind with
    | .measurement => some (values moment)
    | .action => none
  accepts _ _ := true
  evaluate _ _ _ _ := .error "no engine"
  periodDelta _ _ _ _ _ := .error "no engine"

/-- An execution among these readings. -/
def pointExecution (values : ℕ → F64) : Execution :=
  ⟨pointEnvironment values, false, fun _ => none, fun _ => none⟩

/-- The rule is loaded, and a tick that finds `1` selects it. -/
def copyingSelected : State :=
  run (step .sample) State.initial
    [.reload ⟨[copyingRule], by simp⟩, .sample .tick 0 fun _ => some F64.one, .select 0]

theorem running_copyingSelected :
    copyingSelected.running[0]? =
      some ⟨.automatic ⟨copyingRule, .onChange [⟨1, .measurement, 0⟩] none none, none⟩ true 0
        (fetchPointSnapshot (fun _ => some F64.one) [⟨1, .measurement, 0⟩]), 0⟩ := by
  rfl

/-- A point that is `1` for both nodes, at the moments 0 and 1, and becomes `100` before the
    execution has ended. -/
theorem baseline_of_steady_point :
    let moving := pointExecution fun moment => if moment ≤ 1 then F64.one else F64.hundred
    recordedBaseline .sample copyingSelected 0 moving "M:1:0" = some F64.one ∧
      moving.env.reading 2 .measurement 1 0 = some F64.hundred ∧
      (∃ r ∈ (execute .sample moving.env copyingRule).reads,
        r.key = "M:1:0" ∧ r.moment = 1) ∧
      ∀ r ∈ (execute .sample moving.env copyingRule).reads, r.key = "M:1:0" →
        r.value = some F64.one := by
  intro moving
  have hrecorded : recordedBaseline .sample copyingSelected 0 moving "M:1:0" = some F64.one := by
    decide +kernel
  refine ⟨hrecorded, rfl, by decide +kernel, ?_⟩
  have hbefore : ∀ r ∈ (execute .sample moving.env copyingRule).reads, r.key = "M:1:0" →
      r.moment ≤ 1 := by decide +kernel
  have hsteady : SteadyWhileRead .sample moving.env copyingRule ⟨1, .measurement, 0⟩ F64.one := by
    intro first _ last hlast _ hkey moment _ hmoment
    have hle := hmoment.trans (hbefore last hlast hkey)
    show some (if moment ≤ 1 then F64.one else F64.hundred) = _
    rw [if_pos hle]
  exact (baseline_eq_every_reading 0 (fun _ => none) running_copyingSelected hrecorded
    (by decide) hsteady).2

/-- The point is `1` at the first access of the execution and `100` from then on: the condition
    is evaluated on `1`, and the baseline becomes `100`. -/
theorem change_absorbed_by_baseline :
    let moving := pointExecution fun moment => if moment = 0 then F64.one else F64.hundred
    recordedBaseline .sample copyingSelected 0 moving "M:1:0" = some F64.hundred ∧
      ((step .sample copyingSelected (.complete 0 moving 0 fun _ => none)).rules.find 1).bind
        (fun scheduled => scheduled.onchangeState.lastValue.get "M:1:0") = some F64.hundred ∧
      ⟨"M:1:0", some F64.one, 0⟩ ∈ (execute .sample moving.env copyingRule).reads := by
  decide +kernel

end AetherEdge.Rules
