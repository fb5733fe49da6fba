import AetherEdge.Rules.Executor

/-!
# Operands of conditions and assignments

Three places of `libs/aether-rules/src/executor.rs` where the engine decides twice what a piece of a
flow means.

* `not_taken_iff`: which branches are taken although none of their conditions holds;
* `operands_agree_iff`: when a condition and an assignment resolve a text to the same number;
* `planes_agree_iff`: for which point types a variable is read from the plane it is written to.
-/

namespace AetherEdge.Rules

open List

/-! ## Lists of conditions -/

section Conditions

variable {libs : Libraries} {values : HashMap F64}

/-- A relation in `evaluate_flow_conditions` (lines 964-1000). -/
def FlowCondition.IsRelation (cond : FlowCondition) : Prop := cond.condType = "relation"

/-- No condition but relations holds. -/
def NoneHolds (libs : Libraries) (values : HashMap F64) (conds : List FlowCondition) : Prop :=
  ∀ cond ∈ conds, ¬cond.IsRelation → evaluateFlowCondition libs cond values = false

/-- `pending_relation` behind a list: the relation it ends with. -/
def pendingRelation (conds : List FlowCondition) : Option String :=
  match conds.getLast? with
  | some cond => if cond.condType = "relation" then cond.value.bind Value.asStr else none
  | none => none

/-- Some variable condition of the list is not joined to what precedes it by an "or". -/
def SomeNotJoinedByOr (conds : List FlowCondition) : Prop :=
  ∃ before cond after, conds = before ++ cond :: after ∧ ¬cond.IsRelation ∧
    isOr (pendingRelation before) = false

/-- The loop in the middle of a list, after `before`. -/
theorem foldConditions_noneHolds (before conds : List FlowCondition) (result : Bool)
    (hnone : NoneHolds libs values conds) :
    foldConditions libs values conds (pendingRelation before) result = true ↔
      result = true ∧ ∀ middle cond after, conds = middle ++ cond :: after → ¬cond.IsRelation →
        isOr (pendingRelation (before ++ middle)) = true := by
  induction conds generalizing before result with
  | nil => simp [foldConditions]
  | cons cond conds ih =>
    have hlast : pendingRelation (before ++ [cond]) =
        if cond.condType = "relation" then cond.value.bind Value.asStr else none := by
      simp [pendingRelation]
    have hrest := ih (before ++ [cond])
    rw [hlast] at hrest
    have hconds : NoneHolds libs values conds := fun c hc => hnone c (mem_cons_of_mem _ hc)
    unfold foldConditions
    by_cases hrel : cond.condType = "relation"
    · rw [if_pos hrel] at hrest ⊢
      rw [hrest result hconds]
      refine and_congr_right fun _ => ⟨fun h => ?_, fun h middle c after heq => ?_⟩
      · rintro (_ | ⟨first, middle⟩) c after heq hc
        · obtain ⟨rfl, -⟩ := List.cons.inj heq
          exact absurd hrel hc
        · obtain ⟨rfl, htail⟩ := List.cons.inj heq
          have hor := h middle c after htail hc
          rwa [append_assoc] at hor
      · have hor := h (cond :: middle) c after (by rw [heq]; rfl)
        rwa [append_assoc]
    · rw [if_neg hrel] at hrest ⊢
      dsimp only
      rw [hrest _ hconds, hnone cond mem_cons_self hrel]
      constructor
      · rintro ⟨hres, h⟩
        have hor : isOr (pendingRelation before) = true ∧ result = true := by
          split_ifs at hres with hor
          · exact ⟨hor, by simpa using hres⟩
          · simp at hres
        refine ⟨hor.2, ?_⟩
        rintro (_ | ⟨first, middle⟩) c after heq hc
        · rw [append_nil]
          exact hor.1
        · obtain ⟨rfl, htail⟩ := List.cons.inj heq
          have hlat := h middle c after htail hc
          rwa [append_assoc] at hlat
      · rintro ⟨hres, h⟩
        have hor := h [] cond conds rfl hrel
        rw [append_nil] at hor
        refine ⟨by rw [if_pos hor, hres]; rfl, fun middle c after heq hc => ?_⟩
        have hlat := h (cond :: middle) c after (by rw [heq]; rfl) hc
        rwa [append_assoc]

/-- A branch none of whose conditions holds is not taken exactly when one of its conditions is not
    joined by an "or". -/
theorem not_taken_iff (conds : List FlowCondition) (hnone : NoneHolds libs values conds) :
    evaluateFlowConditions libs conds values = false ↔ SomeNotJoinedByOr conds := by
  have hempty : evaluateFlowConditions libs conds values =
      foldConditions libs values conds none true := by
    unfold evaluateFlowConditions
    cases conds with
    | nil => rfl
    | cons cond conds => rfl
  have hfold := foldConditions_noneHolds [] conds true hnone
  rw [hempty, ← Bool.not_eq_true]
  show ¬foldConditions libs values conds (pendingRelation []) true = true ↔ _
  rw [hfold, SomeNotJoinedByOr]
  simp only [true_and, not_forall, nil_append, Bool.not_eq_true, exists_prop]

end Conditions

/-- A condition on a variable that no node has read. -/
def unreadCondition : FlowCondition := ⟨"variable", some "X1", some ">", some (.string "X2")⟩

/-- The relation `||`. -/
def orRelation : FlowCondition := ⟨"relation", none, none, some (.string "||")⟩

theorem noneHolds_unread (conds : List FlowCondition)
    (hconds : ∀ cond ∈ conds, cond = unreadCondition ∨ cond = orRelation) :
    NoneHolds .sample .empty conds := by
  intro cond hcond hvar
  rcases hconds cond hcond with rfl | rfl
  · rfl
  · exact absurd rfl hvar

/-- A list that starts with an "or" is taken on a variable that was never read, and so is one that
    only has relations. -/
theorem leading_or_is_taken :
    NoneHolds .sample .empty [orRelation, unreadCondition] ∧
      evaluateFlowConditions .sample [orRelation, unreadCondition] .empty = true ∧
      NoneHolds .sample .empty [orRelation] ∧
      evaluateFlowConditions .sample [orRelation] .empty = true :=
  ⟨noneHolds_unread _ (by simp), by decide +kernel, noneHolds_unread _ (by simp), by decide +kernel⟩

theorem two_unread_not_taken :
    evaluateFlowConditions .sample [unreadCondition, orRelation, unreadCondition] .empty = false :=
  (not_taken_iff _ (noneHolds_unread _ (by simp))).2 ⟨[], unreadCondition, _, rfl, by
    simp [FlowCondition.IsRelation, unreadCondition], rfl⟩

/-! ## Texts -/

section Texts

variable (libs : Libraries) (values : HashMap F64) (text : String)

/-- A text that is a number and a variable means the variable to a condition and the number to an
    assignment. -/
theorem operands_agree_iff :
    conditionOperand libs values (some (.string text)) =
        assignmentOperand libs values (.string text) ↔
      ∀ number value, libs.parseF64 text = some number → values.get text = some value →
        value = number := by
  unfold conditionOperand assignmentOperand
  cases hparse : libs.parseF64 text with
  | none | some => cases hget : values.get text <;> simp [hparse, hget]

end Texts

/-- A variable with the name `1` that reads `0`. -/
theorem numeric_name_differs :
    let libs : Libraries := { Libraries.sample with
      parseF64 := fun text => if text = "1" then some F64.one else none }
    let values : HashMap F64 := HashMap.empty.insert "1" F64.zero
    conditionOperand libs values (some (.string "1")) = some F64.zero ∧
      assignmentOperand libs values (.string "1") = some F64.one :=
  ⟨by decide +kernel, by decide +kernel⟩

/-! ## Planes -/

/-- The plane of a code; the other codes have none on an instance. -/
def PointCode.plane : PointCode → Option PointKind
  | .m => some .measurement
  | .a => some .action
  | .t | .s | .c => none

/-- The code in the answer of `validate_write_target`. -/
def selectedCode : Except ActionResult (ℕ × ℕ × F64 × PointCode) → PointCode
  | .ok (_, _, _, code) => code
  | .error action => action.pointType

/-- The point types that `point_type_to_static` (lines 25-34) knows. -/
def acceptedSpellings : List String :=
  ["M", "measurement", "A", "action", "T", "telemetry", "S", "status", "C", "control"]

theorem selectedCode_validateWriteTarget (v : RuleVariable) (rawValue : F64) (default : PointCode) :
    selectedCode (validateWriteTarget v rawValue default) =
      pointTypeToStatic v.pointType default := by
  unfold validateWriteTarget
  dsimp only
  split_ifs
  · rfl
  · split
    · rfl
    · split <;> rfl

/-- A variable is written to the plane that it is read from for three of the spellings. -/
theorem planes_agree_iff (v : RuleVariable) (rawValue : F64) (default : PointCode) (text : String)
    (htype : v.pointType = some text) (haccepted : text ∈ acceptedSpellings) :
    (selectedCode (validateWriteTarget v rawValue default)).plane = some v.kind ↔
      text ∈ ["M", "measurement", "action"] := by
  rw [selectedCode_validateWriteTarget, RuleVariable.kind, htype]
  simp only [acceptedSpellings, mem_cons, not_mem_nil, or_false] at haccepted
  rcases haccepted with rfl | rfl | rfl | rfl | rfl | rfl | rfl | rfl | rfl | rfl <;>
    simp [pointTypeToStatic, PointCode.plane]

/-- A variable of type `A` is written to the action point and read from the measurement point. -/
theorem short_action_differs :
    let v : RuleVariable := ⟨"Y1", some 1, some "A", some 0, []⟩
    v.kind = .measurement ∧
      validateWriteTarget v F64.one .a = .ok (1, 0, F64.one, .a) ∧ "A" ∈ acceptedSpellings :=
  ⟨by decide +kernel, rfl, by decide +kernel⟩

theorem long_action_agrees :
    (selectedCode (validateWriteTarget ⟨"Y1", some 1, some "action", some 0, []⟩ F64.one .a)).plane =
      some .action :=
  (planes_agree_iff ⟨"Y1", some 1, some "action", some 0, []⟩ F64.one .a "action" rfl
    (by decide +kernel)).2 (by decide +kernel)

end AetherEdge.Rules
