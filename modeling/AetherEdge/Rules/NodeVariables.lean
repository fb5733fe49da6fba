import AetherEdge.Rules.Executor

/-!
# The variables of a node

What `read_rule_variables_for_execution` (`libs/aether-rules/src/executor.rs`) leaves in
the values that all nodes of a path share.

* `readBase_spec`: what the pass over the variables without a formula does, name by name;
* `unavailable_iff`: a pass comes through with nothing missing exactly when no variable is
  unavailable;
* `own_readings_iff`: when every variable ends up with the reading of its own point.
-/

namespace AetherEdge.Rules

open List

variable {libs : Libraries} {env : Environment}

/-- The variables without a formula, each with what is finite of the reading of its point, for a pass
    that makes its first reading at the given moment. -/
def passReadings (env : Environment) : List RuleVariable → ℕ → List (RuleVariable × Option F64)
  | [], _ => []
  | v :: vars, moment =>
    if v.formula ≠ [] then passReadings env vars moment
    else
      (v, (env.reading moment v.kind (v.instanceId.getD 0) (v.point.getD 0)).filter F64.isFinite) ::
        passReadings env vars (moment + 1)

variable {vars : List RuleVariable}

theorem mem_of_mem_passReadings {moment : ℕ} {p : RuleVariable × Option F64}
    (hp : p ∈ passReadings env vars moment) : p.1 ∈ vars ∧ p.1.formula = [] := by
  induction vars generalizing moment with
  | nil => cases hp
  | cons v vars ih =>
    unfold passReadings at hp
    split_ifs at hp with hform
    · exact ⟨mem_cons_of_mem _ (ih hp).1, (ih hp).2⟩
    · rcases mem_cons.1 hp with rfl | hp
      · exact ⟨mem_cons_self, not_not.1 hform⟩
      · exact ⟨mem_cons_of_mem _ (ih hp).1, (ih hp).2⟩

variable (env) in
/-- One reading: the value, the report of a measurement without one, and the moment after it. -/
theorem readPoint_spec (st : ReadState) (name : String) (kind : PointKind) (instanceId point : ℕ) :
    let reading := (env.reading st.moment kind instanceId point).filter F64.isFinite
    let st' := st.readPoint env name kind instanceId point
    (∀ other, st'.values.get other =
        if other = name then reading.or (st.values.get other) else st.values.get other) ∧
      st'.missing = st.missing ++ (if kind = .measurement ∧ reading = none then [name] else []) ∧
      st'.moment = st.moment + 1 := by
  dsimp only
  unfold ReadState.readPoint
  dsimp only
  split
  · next value hvl => simp [hvl, HashMap.get_insert]
  · next hvl => cases kind <;> simp [hvl]

/-- The measurements that could not be read. -/
def absent (readings : List (RuleVariable × Option F64)) : List String :=
  (readings.filter fun p => p.1.kind = .measurement ∧ p.2 = none).map fun p => p.1.name

theorem mem_absent {readings : List (RuleVariable × Option F64)} {p : RuleVariable × Option F64}
    (hp : p ∈ readings) (hkind : p.1.kind = .measurement) (hnone : p.2 = none) :
    p.1.name ∈ absent readings :=
  mem_map.2 ⟨p, mem_filter.2 ⟨hp, by simp [hkind, hnone]⟩, rfl⟩

/-- What a pass over the variables without a formula has done when it comes through. -/
structure PassedOver (env : Environment) (vars : List RuleVariable) (st st' : ReadState) : Prop where
  complete : ∀ v ∈ vars, v.formula = [] → v.instanceId ≠ none ∧ v.point ≠ none
  others : ∀ name, (∀ v ∈ vars, v.formula = [] → v.name ≠ name) →
    st'.values.get name = st.values.get name
  own : (vars.map RuleVariable.name).Nodup → ∀ p ∈ passReadings env vars st.moment,
    st'.values.get p.1.name = p.2.or (st.values.get p.1.name)
  missing : st'.missing = st.missing ++ absent (passReadings env vars st.moment)

theorem readBase_spec {st st' : ReadState} (h : readBase env vars st = (none, st')) :
    PassedOver env vars st st' := by
  induction vars generalizing st with
  | nil =>
    cases h
    exact ⟨nofun, fun _ _ => rfl, nofun, (append_nil _).symm⟩
  | cons v vars ih =>
    unfold readBase at h
    split_ifs at h with hform
    · have hrest := ih h
      refine ⟨forall_mem_cons.2 ⟨fun h => absurd h hform, hrest.complete⟩,
        fun name hname => hrest.others name fun w hw => hname w (mem_cons_of_mem _ hw),
        fun hdist => ?_, ?_⟩
      · rw [passReadings, if_pos hform]
        exact hrest.own (nodup_cons.1 hdist).2
      · rw [passReadings, if_pos hform]
        exact hrest.missing
    · split at h
      · cases h
      next instanceId hinst =>
      split at h
      · cases h
      next point hpt =>
      obtain ⟨hvals, hmiss, hmoment⟩ :=
        readPoint_spec env st v.name v.kind instanceId point
      have hrest := ih h
      refine ⟨forall_mem_cons.2 ⟨fun _ => by simp [hinst, hpt], hrest.complete⟩,
        ?_, ?_, ?_⟩
      · intro name hname
        rw [hrest.others name fun w hw => hname w (mem_cons_of_mem _ hw), hvals,
          if_neg (hname v mem_cons_self (not_not.1 hform)).symm]
      · intro hdist
        obtain ⟨hfr, hdist⟩ := nodup_cons.1 hdist
        have hlat : ∀ w ∈ vars, w.name ≠ v.name := fun w hw heq =>
          hfr (mem_map.2 ⟨w, hw, heq⟩)
        rw [passReadings, if_neg hform, forall_mem_cons]
        dsimp only
        rw [hrest.others v.name fun w hw _ => hlat w hw, hvals, if_pos rfl, hinst, hpt]
        refine ⟨rfl, fun p hp => ?_⟩
        rw [hrest.own hdist p (hmoment ▸ hp), hvals,
          if_neg (hlat _ (mem_of_mem_passReadings hp).1)]
      · rw [hrest.missing, hmiss, hmoment, passReadings, if_neg hform, hinst, hpt, append_assoc]
        unfold absent
        split_ifs with habsent
        · rw [filter_cons_of_pos (by simpa using habsent)]
          rfl
        · rw [filter_cons_of_neg (by simpa using habsent)]
          rfl

variable (libs) in
/-- The formulas leave the other names alone, and what is missing stays missing. -/
theorem readFormulas_spec (vars : List RuleVariable) (st : ReadState) :
    (∀ name, (∀ v ∈ vars, v.formula ≠ [] → v.name ≠ name) →
        (vars.foldl (ReadState.readFormula libs) st).values.get name = st.values.get name) ∧
      st.missing ⊆ (vars.foldl (ReadState.readFormula libs) st).missing := by
  induction vars generalizing st with
  | nil => exact ⟨fun _ _ => rfl, fun _ h => h⟩
  | cons v vars ih =>
    obtain ⟨hvals, hmiss⟩ := ih (st.readFormula libs v)
    have hone : (∀ name, (v.formula ≠ [] → v.name ≠ name) →
        (st.readFormula libs v).values.get name = st.values.get name) ∧
        st.missing ⊆ (st.readFormula libs v).missing := by
      unfold ReadState.readFormula
      split_ifs with hform
      · exact ⟨fun _ _ => rfl, fun _ h => h⟩
      · split
        · exact ⟨fun name hname => if_neg (hname hform).symm, fun _ h => h⟩
        · exact ⟨fun _ _ => rfl, subset_append_left _ _⟩
    refine ⟨fun name hname => ?_, fun name hname => hmiss (hone.2 hname)⟩
    rw [foldl_cons, hvals name fun w hw => hname w (mem_cons_of_mem _ hw)]
    exact hone.1 name (hname v mem_cons_self)

/-- A pass that came through, and its two halves. -/
theorem readRuleVariables_eq_none {values : HashMap F64} {moment : ℕ} {reads : List Reading}
    {r : ReadState} :
    readRuleVariables libs env vars values moment reads = (none, r) ↔
      ∃ base, readBase env vars ⟨values, false, [], .empty, moment, reads⟩ = (none, base) ∧
        vars.foldl (ReadState.readFormula libs) base = r := by
  unfold readRuleVariables
  split
  · next heq => simp [heq]
  · next heq => simp [heq]

variable (libs env) in
/-- After a pass with nothing missing every variable without a formula is bound to the reading of its
    own point, or unbound if that is an action point without a finite one, exactly when no action
    variable of the latter kind was bound before. -/
theorem own_readings_iff {vars : List RuleVariable} {values : HashMap F64} {moment : ℕ}
    {reads : List Reading} {r : ReadState} (hdistinct : (vars.map RuleVariable.name).Nodup)
    (h : readRuleVariables libs env vars values moment reads = (none, r))
    (hmissing : r.missing = []) :
    (∀ p ∈ passReadings env vars moment,
        r.values.get p.1.name = p.2 ∧ (p.2 = none → p.1.kind = .action)) ↔
      ∀ p ∈ passReadings env vars moment, p.1.kind = .action → p.2 = none →
        values.get p.1.name = none := by
  obtain ⟨base, hbase, rfl⟩ := readRuleVariables_eq_none.1 h
  have hpass := readBase_spec hbase
  obtain ⟨hformulas, hkept⟩ := readFormulas_spec libs vars base
  have hbound : ∀ p ∈ passReadings env vars moment,
      (vars.foldl (ReadState.readFormula libs) base).values.get p.1.name =
        p.2.or (values.get p.1.name) := by
    intro p hp
    obtain ⟨hmem, hplain⟩ := mem_of_mem_passReadings hp
    rw [hformulas p.1.name, hpass.own hdistinct p hp]
    -- a variable with a formula has another name
    intro v hv hformula heq
    have hsame := inj_on_of_nodup_map hdistinct hv hmem heq
    exact hformula (hsame ▸ hplain)
  have haction : ∀ p ∈ passReadings env vars moment, p.2 = none → p.1.kind = .action := by
    intro p hp hnone
    cases hkind : p.1.kind with
    | action => rfl
    | measurement =>
      have hmem := hkept (hpass.missing ▸ mem_append_right _ (mem_absent hp hkind hnone))
      rw [hmissing] at hmem
      cases hmem
  constructor
  · intro hall p hp _ hnone
    have hget := (hall p hp).1
    rwa [hbound p hp, hnone, Option.none_or] at hget
  · intro hunbound p hp
    refine ⟨?_, haction p hp⟩
    rw [hbound p hp]
    cases hreading : p.2 with
    | some value => rfl
    | none => rw [hunbound p hp (haction p hp hreading) hreading, Option.none_or]

/-- Surroundings where measurement points read `1` and action points have no value. -/
def measurementsOnly : Environment where
  fence := none
  hasCommands := false
  reading _ kind _ _ := if kind = .measurement then some F64.one else none
  accepts _ _ := false
  evaluate _ _ _ _ := .error "no engine"
  periodDelta _ _ _ _ _ := .error "no engine"

/-- An action variable keeps what an earlier node read from another point under its name. -/
theorem stale_binding :
    let vars : List RuleVariable := [⟨"Y1", some 2, some "action", some 0, []⟩]
    let pass := readRuleVariables .sample measurementsOnly vars (HashMap.empty.insert "Y1" F64.one) 0 []
    pass.1 = none ∧ pass.2.missing = [] ∧ pass.2.values.get "Y1" = some F64.one ∧
      ∀ p ∈ passReadings measurementsOnly vars 0, p.2 = none := by
  refine ⟨rfl, rfl, by decide +kernel, by decide +kernel⟩

/-- A measurement that an earlier node has read as well, and an action point without a value. -/
theorem fresh_binding :
    let vars : List RuleVariable :=
      [⟨"X1", some 1, none, some 0, []⟩, ⟨"Y1", some 2, some "action", some 0, []⟩]
    let values := (HashMap.empty.insert "X1" F64.hundred).insert "Z1" F64.one
    ∀ p ∈ passReadings measurementsOnly vars 0,
      (readRuleVariables .sample measurementsOnly vars values 0 []).2.values.get p.1.name = p.2 ∧
        (p.2 = none → p.1.kind = .action) :=
  (own_readings_iff .sample measurementsOnly (by decide) rfl rfl).2 (by decide +kernel)

/-! ## Unavailable variables -/

/-- Some variable of the node has no point, is a measurement without a finite reading, or has a formula
    that cannot be evaluated with the values it finds. -/
def Unavailable (libs : Libraries) (env : Environment) (vars : List RuleVariable) (st : ExecState) :
    Prop :=
  (∃ v ∈ vars, v.formula = [] ∧ (v.instanceId = none ∨ v.point = none)) ∨
    (∃ p ∈ passReadings env vars st.moment, p.1.kind = .measurement ∧ p.2 = none) ∨
      ∃ before v after base, vars = before ++ v :: after ∧ v.formula ≠ [] ∧
        readBase env vars ⟨st.values, false, [], .empty, st.moment, st.reads⟩ = (none, base) ∧
        evaluateTokenFormula libs v.formula
          (before.foldl (ReadState.readFormula libs) base).values = none

variable (env) in
theorem readBase_of_complete (st : ReadState)
    (h : ∀ v ∈ vars, v.formula = [] → v.instanceId ≠ none ∧ v.point ≠ none) :
    ∃ st', readBase env vars st = (none, st') := by
  induction vars generalizing st with
  | nil => exact ⟨st, rfl⟩
  | cons v vars ih =>
    obtain ⟨hv, hvars⟩ := forall_mem_cons.1 h
    unfold readBase
    split_ifs with hform
    · exact ih _ hvars
    obtain ⟨hinst, hpt⟩ := hv (not_not.1 hform)
    obtain ⟨instanceId, hinst⟩ := Option.ne_none_iff_exists'.1 hinst
    obtain ⟨point, hpt⟩ := Option.ne_none_iff_exists'.1 hpt
    rw [hinst, hpt]
    exact ih _ hvars

/-- Formulas that can all be evaluated leave nothing missing. -/
theorem readFormulas_missing {st : ReadState}
    (h : ∀ before v after, vars = before ++ v :: after → v.formula ≠ [] →
      evaluateTokenFormula libs v.formula
        (before.foldl (ReadState.readFormula libs) st).values ≠ none) :
    (vars.foldl (ReadState.readFormula libs) st).missing = st.missing := by
  induction vars generalizing st with
  | nil => rfl
  | cons v vars ih =>
    rw [foldl_cons, ih fun before w after hvars => h (v :: before) w after (by rw [hvars]; rfl)]
    unfold ReadState.readFormula
    split_ifs with hform
    · rfl
    · obtain ⟨value, hvl⟩ := Option.ne_none_iff_exists'.1 (h [] v vars rfl hform)
      rw [foldl_nil] at hvl
      rw [hvl]

variable {st : ExecState}

theorem missing_of_unavailable {r : ReadState}
    (hunavailable : Unavailable libs env vars st)
    (h : readRuleVariables libs env vars st.values st.moment st.reads = (none, r)) :
    r.missing ≠ [] := by
  obtain ⟨base, hbase, rfl⟩ := readRuleVariables_eq_none.1 h
  have hpass := readBase_spec hbase
  rcases hunavailable with ⟨v, hv, hplain, hnone⟩ | ⟨p, hp, hkind, hnone⟩ |
    ⟨before, v, after, base', rfl, hform, hbase', hnone⟩
  · obtain ⟨hinst, hpt⟩ := hpass.complete v hv hplain
    exact absurd hnone (not_or.2 ⟨hinst, hpt⟩)
  · exact ne_nil_of_mem ((readFormulas_spec libs vars base).2 (hpass.missing ▸ mem_append_right _ (mem_absent hp hkind hnone)))
  · obtain rfl : base' = base := (Prod.mk.inj (hbase'.symm.trans hbase)).2
    rw [foldl_append, foldl_cons]
    apply ne_nil_of_mem ((readFormulas_spec libs after _).2 _)
    · exact v.name
    rw [ReadState.readFormula, if_neg hform, hnone]
    exact mem_append_right _ (mem_singleton_self _)

variable (libs env vars st) in
/-- A pass comes through with nothing missing exactly when no variable is unavailable. -/
theorem unavailable_iff : ¬Unavailable libs env vars st ↔
    ∃ r, readRuleVariables libs env vars st.values st.moment st.reads = (none, r) ∧
      r.missing = [] := by
  constructor
  · intro h
    obtain ⟨hcomplete, hread, hformula⟩ := by simpa only [Unavailable, not_or] using h
    obtain ⟨base, hbase⟩ := readBase_of_complete env
      ⟨st.values, false, [], .empty, st.moment, st.reads⟩ fun v hv hplain =>
        not_or.1 fun hnone => hcomplete ⟨v, hv, hplain, hnone⟩
    refine ⟨_, readRuleVariables_eq_none.2 ⟨base, hbase, rfl⟩, ?_⟩
    rw [readFormulas_missing, (readBase_spec hbase).missing]
    · refine map_eq_nil_iff.2 (filter_eq_nil_iff.2 fun p hp habsent => hread ⟨p, hp, ?_⟩)
      simpa using habsent
    · exact fun before v after hvars hform hnone =>
        hformula ⟨before, v, after, base, hvars, hform, hbase, hnone⟩
  · rintro ⟨r, hread, hmissing⟩ h
    exact missing_of_unavailable h hread hmissing

end AetherEdge.Rules
