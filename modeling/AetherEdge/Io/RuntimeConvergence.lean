import AetherEdge.Io.FailClosed
import AetherEdge.Io.RuntimeProjection

/-!
# Whether the automatic reconciler comes to rest

The desired state is stable, every operation succeeds, and only the activation of some channels `F`
always fails. A cycle that reconciles single targets fences the failing channel only, but it forgets
the applied snapshot, and the full pass of the next cycle then fences every runtime as long as one
enabled channel cannot be activated. `converges_iff` says when the enabled channels outside `F` come
to run: when nothing enabled is in `F`, when everything enabled is, or when the failing channels
already run and are no targets.

* `leads_reconcileOne`, `leads_reconcileAll_calm`: what the two kinds of reconciliation report and leave;
* `cycle_forced`, `cycle_targets`: one cycle without and with an applied snapshot;
* `AtRest`, `Down`: the two states in which the reconciler stays.
-/

namespace AetherEdge.Io

open Std (ExtTreeMap)
open OrderedMap Program Std.ExtTreeMap

/-! ## A stable configuration -/

/-- The channel has an enabled row. -/
def Database.Enabled (db : Database) (channelId : ℕ) : Prop :=
  ∃ row, db.channels[channelId]? = some row ∧ row.enabled = true

/-- A moment at which everything succeeds on the tables `db` but the activation of the channels of
    `F`: they may be created, but do not connect. -/
structure Moment.Calm (db : Database) (F : ℕ → Prop) (moment : Moment) : Prop where
  db_eq : moment.db = db
  sql : ∀ op, (moment.choice op).sql = none
  topology : (moment.choice .project).topology = .ok true
  busy : ∀ op, (moment.choice op).busy = false
  created : ∀ snapshot, ¬F snapshot.base.id →
    (moment.choice (.createChannel snapshot)).created = true
  connects : ∀ c, ¬F c → (moment.choice (.connect c)).connects = true
  refused : ∀ c, F c → (moment.choice (.isConnected c)).connected = false ∧
    (moment.choice (.connect c)).connects = false

/-- Tables whose rows can all be loaded, and whose enabled rows outside `F` are valid. -/
structure StableConfiguration (library : ChannelLibrary) (db : Database) (F : ℕ → Prop) : Prop where
  loads : ∃ desired, desiredRuntimeSnapshot db = .ok desired
  identity : ∀ c row, db.channels[c]? = some row → validateChannelId c = .ok ()
  parses : ∀ c row, db.channels[c]? = some row → parseChannelRow library c row ≠ none
  validates : ∀ c row parsed, db.channels[c]? = some row →
    parseChannelRow library c row = some parsed → ¬F c →
      validateRuntimeConfig library parsed.1 = .ok ()
  tombstone : ∀ (c revision : ℕ), db.tombstones[c]? = some revision → 1 ≤ revision

/-- A cycle under a stable configuration. -/
structure CycleEnvironment.Steady (library : ChannelLibrary) (db : Database) (F : ℕ → Prop)
    (env : CycleEnvironment) : Prop where
  library_eq : env.library = library
  desired : ∀ n, env.desired n = .ok db
  projection : env.projection = .ok true
  reconcile : ∀ scope n, (env.reconcile scope n).Calm db F
  fence : env.FencesSucceed

/-- What a row that can be loaded is read as, by the mutator and by the loader. -/
theorem parseChannelRow_fields {library : ChannelLibrary} {c : ℕ} {row : ChannelRow}
    {parsed : ChannelConfig × ℕ} (h : parseChannelRow library c row = some parsed) :
    parsed.1.id = c ∧ parsed.1.enabled = row.enabled ∧ parsed.2 = row.revision ∧
      row.revision ≠ 0 ∧
      ∃ stored, storedChannel c (some row) = .ok stored ∧ stored.channelId = c ∧
        stored.enabled = row.enabled ∧ stored.revision = row.revision ∧
        stored.toConfig library = .ok parsed.1 := by
  unfold parseChannelRow at h
  split at h
  · rename_i protocol payload hproto hpay
    split_ifs at h with hrev
    cases h
    refine ⟨rfl, rfl, rfl, hrev, ⟨c, row.name, protocol, row.enabled, row.config, row.revision⟩,
      ?_, rfl, rfl, rfl, ?_⟩
    · simp only [storedChannel, hproto, storedRevision, Nat.one_le_iff_ne_zero.2 hrev,
        if_true]
    · simp only [StoredChannel.toConfig, hpay]
  · cases h

/-! ## Operations at calm moments -/

/-- What a reconciliation reports of a channel and leaves: only an enabled channel of `F` asks for
    another one, and the others run if they are enabled. -/
structure Settled (db : Database) (F : ℕ → Prop) (c : ℕ) (projection : ChannelRuntimeProjection)
    (runtimes : ExtTreeMap ℕ RuntimeSnapshot) : Prop where
  required : projection.reconciliationRequired = true ↔ db.Enabled c ∧ F c
  present : runtimes[c]? ≠ none ↔ db.Enabled c ∧ ¬F c

section Calm

variable {library : ChannelLibrary} {db : Database} {F : ℕ → Prop} {moments : ℕ → Moment} {c : ℕ}
  {runtimes : ExtTreeMap ℕ RuntimeSnapshot}

theorem unblocked_of_calm (hcalm : ∀ n, (moments n).Calm db F) : Unblocked moments :=
  fun n op => (hcalm n).busy op

theorem settled_degraded (henab : db.Enabled c) (hF : F c) (hnone : runtimes[c]? = none) :
    Settled db F c .degraded runtimes where
  required := iff_of_true rfl ⟨henab, hF⟩
  present := iff_of_false (fun h => h hnone) fun h => h.2 hF

variable {projection : ChannelRuntimeProjection}

theorem settled_of_not_enabled (henab : ¬db.Enabled c)
    (hproj : projection.reconciliationRequired = false) (hnone : runtimes[c]? = none) :
    Settled db F c projection runtimes where
  required := iff_of_false (by simp [hproj]) fun h => henab h.1
  present := iff_of_false (fun h => h hnone) fun h => henab h.1

theorem settled_active (henab : db.Enabled c) (hF : ¬F c) (hsome : runtimes[c]? ≠ none) :
    Settled db F c .active runtimes where
  required := iff_of_false nofun fun h => hF h.2
  present := iff_of_true hsome ⟨henab, hF⟩

theorem Settled.congr {runtimes' : ExtTreeMap ℕ RuntimeSnapshot}
    (h : Settled db F c projection runtimes) (heq : runtimes'[c]? = runtimes[c]?) :
    Settled db F c projection runtimes' :=
  ⟨h.required, heq ▸ h.present⟩

/-- An activation succeeded outside `F`, or failed in `F`. -/
def Activated (F : ℕ → Prop) (c : ℕ) (result : PortResult Unit)
    (runtimes : ExtTreeMap ℕ RuntimeSnapshot) : Prop :=
  (result = .ok () ∧ ¬F c ∧ runtimes[c]? ≠ none) ∨
    ((∃ error, result = .error error) ∧ F c ∧ runtimes[c]? = none)

theorem Activated.settled (h : Activated F c (.ok ()) runtimes) (henab : db.Enabled c) :
    Settled db F c .active runtimes := by
  rcases h with ⟨-, hF, hsome⟩ | ⟨⟨error, herr⟩, -⟩
  · exact settled_active henab hF hsome
  · cases herr

theorem Activated.failed {error : PortError} (h : Activated F c (.error error) runtimes) :
    F c := by
  rcases h with ⟨hok, -⟩ | ⟨-, hF, -⟩
  · cases hok
  · exact hF

/-! ## One channel -/

theorem StableConfiguration.row (hstable : StableConfiguration library db F) {row : ChannelRow}
    (hrow : db.channels[c]? = some row) :
    ∃ parsed stored, parseChannelRow library c row = some parsed ∧ parsed.1.id = c ∧
      parsed.1.enabled = row.enabled ∧ parsed.2 = row.revision ∧ row.revision ≠ 0 ∧
      storedChannel c (some row) = .ok stored ∧ stored.channelId = c ∧
      stored.enabled = row.enabled ∧ stored.revision = row.revision ∧
      stored.toConfig library = .ok parsed.1 := by
  obtain ⟨parsed, hpars⟩ := Option.ne_none_iff_exists'.1 (hstable.parses c row hrow)
  obtain ⟨hid, henab, hrev, hne, stored, hsto⟩ := parseChannelRow_fields hpars
  exact ⟨parsed, stored, hpars, hid, henab, hrev, hne, hsto⟩

theorem enabled_iff {row : ChannelRow} (hrow : db.channels[c]? = some row) :
    db.Enabled c ↔ row.enabled = true := by
  refine ⟨?_, fun h => ⟨row, hrow, h⟩⟩
  rintro ⟨other, hoth, henab⟩
  cases hrow.symm.trans hoth
  exact henab

theorem not_enabled_of_none (h : db.channels[c]? = none) : ¬db.Enabled c := by
  rintro ⟨row, hrow, -⟩
  rw [h] at hrow
  cases hrow

/-- Run alone at the moments, the program leads from runtimes that meet `P` to a value and runtimes
    that meet `Q`. -/
abbrev Takes {α : Type} (moments : ℕ → Moment) (P : ExtTreeMap ℕ RuntimeSnapshot → Prop)
    (p : ChannelProgram α) (Q : α → ExtTreeMap ℕ RuntimeSnapshot → Prop) : Prop :=
  Leads (callHandle moments) (fun s => P s.world.runtimes) p
    fun value s => Q value s.world.runtimes

section Channel

variable (hstable : StableConfiguration library db F) (hcalm : ∀ n, (moments n).Calm db F)

include hcalm

theorem leads_fence (P : CallState → Prop) (c : ℕ) :
    Leads (callHandle moments) P (fence c) fun result s =>
      result = .ok () ∧ s.world.runtimes[c]? = none := by
  intro s _
  obtain ⟨hok, hruns⟩ := eval_fence (unblocked_of_calm hcalm) c s
  refine ⟨hok, ?_⟩
  rw [hruns, getElem?_erase_nat, if_pos rfl]

theorem leads_fencePresent (P : CallState → Prop) (c : ℕ) :
    Leads (callHandle moments) P (fencePresent c) fun result s =>
      result = .ok () ∧ s.world.runtimes[c]? = none := by
  have hget : Leads (callHandle moments) P (channelOp (.getChannel c)) fun present s =>
      present = s.world.runtimes.contains c := fun s _ => rfl
  refine hget.bind fun present => ?_
  cases present with
  | true => exact leads_fence hcalm _ c
  | false =>
    refine leads_done fun s hs => ⟨rfl, ?_⟩
    exact getElem?_eq_none_of_contains_eq_false hs.symm

/-- The entry of a channel that has none: it may be missing for the channels of `F` only. -/
theorem leads_installed (snapshot : RuntimeSnapshot) :
    Takes moments (·[snapshot.base.id]? = none) (installed snapshot) fun present runtimes =>
      (present = true → runtimes[snapshot.base.id]? ≠ none) ∧
      (present = false → F snapshot.base.id ∧ runtimes[snapshot.base.id]? = none) := by
  have hget : Takes moments (·[snapshot.base.id]? = none) (channelOp (.getChannel snapshot.base.id))
      fun present runtimes => present = false ∧ runtimes[snapshot.base.id]? = none := by
    refine fun s hs => ⟨?_, hs⟩
    show s.world.runtimes.contains snapshot.base.id = false
    rw [contains_eq_isSome_getElem?, hs]
    rfl
  refine hget.bind fun present => ?_
  cases present with
  | true => exact fun s hs => absurd hs.1 nofun
  | false =>
    rintro s ⟨-, hs⟩
    have habsent : s.world.runtimes.contains snapshot.base.id = false := by
      rw [contains_eq_isSome_getElem?, hs]
      rfl
    have heval : (channelOp (.createChannel snapshot)).eval (callHandle moments) s =
      callHandle moments s (.createChannel snapshot) := rfl
    simp only [Bool.false_eq_true, if_false]
    rw [heval]
    simp only [callHandle, channelApply, (hcalm _).busy, Bool.false_or, habsent, Bool.or_false]
    cases hcre : ((moments s.now).choice (.createChannel snapshot)).created with
    | true => simp
    | false =>
      refine ⟨Bool.noConfusion, fun _ => ⟨?_, hs⟩⟩
      by_contra hF
      rw [(hcalm _).created snapshot hF] at hcre
      cases hcre

/-- Where no runtime is installed an activation succeeds exactly outside `F`. -/
theorem leads_activate (snapshot : RuntimeSnapshot) :
    Takes moments (·[snapshot.base.id]? = none) (activate snapshot)
      (Activated F snapshot.base.id) := by
  refine (leads_installed hcalm snapshot).bind fun present => ?_
  cases present with
  | false => exact leads_done fun s hs => .inr ⟨⟨_, rfl⟩, hs.2 rfl⟩
  | true =>
    have hconn : Takes moments (·[snapshot.base.id]? ≠ none)
        (channelOp (.isConnected snapshot.base.id)) fun connected runtimes =>
          (connected = true → ¬F snapshot.base.id) ∧ runtimes[snapshot.base.id]? ≠ none := by
      refine fun s hs => ⟨fun h hF => ?_, hs⟩
      exact Bool.false_ne_true (((hcalm s.now).refused _ hF).1.symm.trans h)
    refine (hconn.pre fun s hs => hs.1 rfl).bind fun connected => ?_
    cases connected with
    | true => exact leads_done fun s hs => .inl ⟨rfl, hs.1 rfl, hs.2⟩
    | false =>
      have hconnects : Takes moments
          (fun runtimes => (false = true → ¬F snapshot.base.id) ∧
            runtimes[snapshot.base.id]? ≠ none)
          (channelOp (.connect snapshot.base.id)) fun connects runtimes =>
            (connects = true ↔ ¬F snapshot.base.id) ∧ runtimes[snapshot.base.id]? ≠ none := by
        refine fun s hs => ⟨⟨fun h hF => ?_, (hcalm s.now).connects _⟩, hs.2⟩
        exact Bool.false_ne_true (((hcalm s.now).refused _ hF).2.symm.trans h)
      refine hconnects.bind fun connects => ?_
      cases connects with
      | true => exact leads_done fun s hs => .inl ⟨rfl, hs.1.1 rfl, hs.2⟩
      | false =>
        have hrem : Takes moments
            (fun runtimes => (false = true ↔ ¬F snapshot.base.id) ∧
              runtimes[snapshot.base.id]? ≠ none)
            (channelOp (.removeChannel snapshot.base.id)) fun _ runtimes =>
              F snapshot.base.id ∧ runtimes[snapshot.base.id]? = none := by
          intro s hs
          refine ⟨by_contra fun hF => Bool.false_ne_true (hs.1.2 hF), ?_⟩
          have hpres : s.world.runtimes.contains snapshot.base.id = true := by
            rw [contains_eq_isSome_getElem?]
            exact Option.isSome_iff_ne_none.2 hs.2
          show (callHandle moments s (.removeChannel snapshot.base.id)).2.world.runtimes[
            snapshot.base.id]? = none
          simp [callHandle, channelApply, (hcalm _).busy, hpres]
        refine hrem.bind fun _ => ?_
        exact leads_done fun s hs => .inr ⟨⟨_, rfl⟩, hs⟩

/-- A channel that cannot be activated is fenced. -/
theorem leads_degraded (henab : db.Enabled c) :
    Takes moments (fun _ => F c) (fence c >>= fun _ => pure .degraded) (Settled db F c) := by
  intro s hF
  have hfenced : Takes moments (fun _ => True) (fence c >>= fun _ => pure .degraded)
      (Settled db F c) :=
    (leads_fence hcalm _ c).bind_of_eq
      (leads_done fun s hs => settled_degraded henab hF hs)
  exact hfenced s trivial

theorem leads_projectStopped (henab : ¬db.Enabled c) :
    Takes moments (fun _ => True) (projectStopped c) (Settled db F c) := by
  refine (leads_fence hcalm _ c).bind_of_eq (leads_done fun s hs => ?_)
  exact settled_of_not_enabled henab rfl hs

theorem leads_loadChannel (P : ExtTreeMap ℕ RuntimeSnapshot → Prop) (c : ℕ) :
    Takes moments P (loadChannel c) fun result runtimes =>
      result = storedChannel c db.channels[c]? ∧ P runtimes := by
  intro s hs
  unfold loadChannel
  simp only [channelOp_bind, eval_call, callHandle, channelApply, World.select, (hcalm _).sql,
    (hcalm _).db_eq]
  exact ⟨rfl, hs⟩

theorem leads_topologyCurrent (topology : Bool) (P : ExtTreeMap ℕ RuntimeSnapshot → Prop) :
    Takes moments P (topologyCurrent topology)
      fun result runtimes => result = .ok true ∧ P runtimes := by
  cases topology with
  | false => exact leads_done fun s hs => ⟨rfl, hs⟩
  | true => exact fun s hs => ⟨(hcalm s.now).topology, hs⟩

theorem leads_reconcile (topology : Bool) (scope : ChannelReconciliationScope)
    {P : ExtTreeMap ℕ RuntimeSnapshot → Prop}
    {Q : PortResult ChannelReconciliationReceipt → ExtTreeMap ℕ RuntimeSnapshot → Prop}
    (h : Takes moments P (reconcileItems library true scope)
      fun result => Q (result.map fun items => ⟨scope, items⟩)) :
    Takes moments P (reconcile library topology scope) Q := by
  refine leads_call (R := fun _ s => P s.world.runtimes) (fun _ hs => hs) fun _ => ?_
  refine (leads_topologyCurrent hcalm topology P).bind_of_eq ?_
  refine h.bind fun result => ?_
  cases result with
  | error | ok => exact leads_done fun s hs => hs

include hstable

theorem leads_optionalTombstoneRevision (c : ℕ) :
    Leads (callHandle moments) (fun _ => True) (optionalTombstoneRevision c) fun result _ =>
      result.isOk = true := by
  intro s _
  rw [eval_optionalTombstoneRevision_call]
  unfold Moment.loadTombstoneRevision
  rw [(hcalm _).sql, (hcalm _).db_eq]
  cases htomb : db.tombstones[c]? with
  | none => rfl
  | some revision =>
    simp only [storedRevision, hstable.tombstone c revision htomb, if_true]
    rfl

variable {row : ChannelRow}

theorem leads_activateRevision (hrow : db.channels[c]? = some row) :
    Takes moments (·[c]? = none) (activateRevision library c row.revision) (Activated F c) := by
  obtain ⟨parsed, -, hpars, hid, -⟩ := hstable.row hrow
  have hload : Takes moments (·[c]? = none) (loadRuntimeSnapshot library c row.revision)
      fun result runtimes =>
        (∃ snapshot, result = .ok snapshot ∧ snapshot.base.id = c) ∧ runtimes[c]? = none := by
    intro s hs
    unfold loadRuntimeSnapshot
    simp only [channelOp_bind, eval_call, callHandle, channelApply, World.load, (hcalm _).sql,
      (hcalm _).db_eq, hrow, runtimeSnapshot, hpars, Option.map_some, if_true]
    exact ⟨⟨_, rfl, hid⟩, hs⟩
  refine hload.bind fun result => ?_
  cases result with
  | error error =>
    rintro s ⟨⟨snapshot, hok, -⟩, -⟩
    cases hok
  | ok snapshot =>
    rintro s ⟨⟨_, ⟨⟩, rfl⟩, hs⟩
    exact leads_activate hcalm snapshot s hs

/-- What both ways to activate a row come to: a failing check means that the row is in `F`. -/
theorem leads_activateChecked (hrow : db.channels[c]? = some row) (henab : row.enabled = true)
    {parsed : ChannelConfig × ℕ} (hpars : parseChannelRow library c row = some parsed)
    {activation : ChannelProgram (PortResult Unit)}
    (hact : Takes moments (·[c]? = none) activation (Activated F c)) :
    Takes moments (fun _ => True)
      (activateChecked (validateRuntimeConfig library parsed.1) c activation) (Settled db F c) := by
  have hactive := (enabled_iff hrow).2 henab
  cases hval : validateRuntimeConfig library parsed.1 with
  | error error =>
    have hF : F c := by
      by_contra hF
      rw [hstable.validates c row parsed hrow hpars hF] at hval
      cases hval
    exact (leads_degraded hcalm hactive).pre fun _ _ => hF
  | ok valid =>
    refine (leads_fencePresent hcalm _ c).bind_of_eq ?_
    refine hact.bind fun activated => ?_
    cases activated with
    | ok value => exact leads_done fun s hs => hs.settled hactive
    | error error => exact (leads_degraded hcalm hactive).pre fun s hs => hs.failed

theorem leads_reconcilePresent (hrow : db.channels[c]? = some row) {stored : StoredChannel}
    (hsto : storedChannel c (some row) = .ok stored) :
    Takes moments (fun _ => True) (reconcilePresent library stored)
      fun item => Settled db F c item.runtimeProjection := by
  obtain ⟨parsed, other, hpars, -, -, -, -, hoth, hid, henab, hrev, hcfg⟩ :=
    hstable.row hrow
  cases hoth.symm.trans hsto
  have hproj : Takes moments (fun _ => True) (projectPresent library stored)
      (Settled db F c) := by
    unfold projectPresent
    cases hflag : row.enabled with
    | false =>
      rw [henab, hflag, hid]
      refine leads_projectStopped hcalm fun h => ?_
      rw [enabled_iff hrow, hflag] at h
      cases h
    | true =>
      rw [henab, hflag, activateAuthoritative_eq, hcfg, hrev, hid]
      exact leads_activateChecked hstable hcalm hrow hflag hpars
        (leads_activateRevision hstable hcalm hrow)
  refine hproj.bind fun projection => ?_
  refine (leads_loadChannel hcalm (Settled db F c projection) stored.channelId).bind_of_eq ?_
  rw [hid, hrow, hsto]
  dsimp only
  rw [if_pos (StoredChannel.sameDesiredState_iff.2 rfl)]
  exact leads_done fun s hs => hs

theorem leads_reconcileItem (c : ℕ) :
    Takes moments (fun _ => True) (reconcileItem library true c) fun result runtimes =>
      ∃ item, result = .ok item ∧ Settled db F c item.runtimeProjection runtimes := by
  rw [reconcileItem, if_pos rfl]
  refine (leads_loadChannel hcalm (fun _ => True) c).bind_of_eq ?_
  cases hrow : db.channels[c]? with
  | some row =>
    obtain ⟨-, stored, -, -, -, -, -, hsto, -⟩ := hstable.row hrow
    rw [hsto]
    exact (leads_reconcilePresent hstable hcalm hrow hsto).bind fun item =>
      leads_done fun s hs => ⟨item, rfl, hs⟩
  | none =>
    refine (leads_optionalTombstoneRevision hstable hcalm c).bind fun tombstone => ?_
    rcases tombstone with error | lastRevision
    · exact fun s hs => absurd hs nofun
    refine (leads_fence hcalm _ c).bind_of_eq (leads_done fun s hs => ?_)
    exact ⟨_, rfl, settled_of_not_enabled (not_enabled_of_none hrow) rfl hs⟩

theorem leads_reconcileOne (topology : Bool) (hval : validateChannelId c = .ok ()) :
    Takes moments (fun _ => True) (reconcile library topology (.one c)) fun result runtimes =>
      ∃ receipt : ChannelReconciliationReceipt, result = .ok receipt ∧
        (receipt.reconciliationRequired = true ↔ db.Enabled c ∧ F c) ∧
        (runtimes[c]? ≠ none ↔ db.Enabled c ∧ ¬F c) := by
  refine leads_reconcile hcalm topology (.one c) ?_
  show Leads _ _ (reconcileOne library true c) _
  unfold reconcileOne
  rw [hval]
  refine leads_call (R := fun _ _ => True) (fun _ _ => trivial) fun _ => ?_
  refine (leads_reconcileItem hstable hcalm c).bind fun result => ?_
  rintro s ⟨item, rfl, hs⟩
  refine ⟨⟨.one c, [item]⟩, rfl, ?_, hs.present⟩
  rw [← hs.required]
  simp [ChannelReconciliationReceipt.reconciliationRequired]

end Channel

/-! ## The full pass -/

variable (library db) in
/-- The snapshots come from the rows. -/
structure LoadedFrom (byId : ExtTreeMap ℕ (ℕ × RuntimeSnapshot)) : Prop where
  row : ∀ (c revision : ℕ) (snapshot : RuntimeSnapshot), byId[c]? = some (revision, snapshot) →
    ∃ row parsed, db.channels[c]? = some row ∧ parseChannelRow library c row = some parsed ∧
      snapshot.base = parsed.1 ∧ revision = row.revision

variable {byId : ExtTreeMap ℕ (ℕ × RuntimeSnapshot)}

theorem LoadedFrom.keyedById (h : LoadedFrom library db byId) : KeyedById byId := by
  intro c revision snapshot hent
  obtain ⟨row, parsed, -, hpars, hbase, -⟩ := h.row c revision snapshot hent
  rw [hbase]
  exact (parseChannelRow_fields hpars).1

theorem snapshotsById_rows (hstable : StableConfiguration library db F)
    {rows : List (ℕ × ChannelRow)} (hrows : ∀ entry ∈ rows, db.channels[entry.1]? = some entry.2)
    (hdist : rows.Pairwise fun a b => a.1 ≠ b.1) (hbyId : LoadedFrom library db byId)
    (hfr : ∀ entry ∈ rows, entry.1 ∉ byId) :
    ∃ snapshots result,
      (rows.map fun entry => (entry.1, entry.2, db.pointsOf entry.1)).mapM
        (fun entry => runtimeSnapshot library entry.1 entry.2.1 entry.2.2) = some snapshots ∧
      snapshotsById snapshots byId = .ok result ∧ LoadedFrom library db result ∧
      ∀ c, c ∈ result ↔ c ∈ byId ∨ c ∈ rows.map Prod.fst := by
  induction rows generalizing byId with
  | nil => exact ⟨[], byId, rfl, rfl, hbyId, fun c => by simp⟩
  | cons entry rest ih =>
    obtain ⟨d, row⟩ := entry
    have hrow : db.channels[d]? = some row := hrows (d, row) (List.mem_cons_self ..)
    obtain ⟨parsed, -, hpars, hid, -, hrev, hne, -⟩ := hstable.row hrow
    have hd : d ∉ byId := hfr (d, row) (List.mem_cons_self ..)
    rw [List.pairwise_cons] at hdist
    have hinsert : LoadedFrom library db
        (byId.insert d (row.revision, ⟨parsed.1, some row.revision, db.pointsOf d⟩)) := by
      refine ⟨fun c revision snapshot h => ?_⟩
      rw [getElem?_insert_nat] at h
      split_ifs at h with hc
      · cases h
        subst hc
        exact ⟨row, parsed, hrow, hpars, rfl, rfl⟩
      · exact hbyId.row c revision snapshot h
    obtain ⟨snapshots, result, hmap, hres, hload, hmem⟩ := ih
      (fun entry hent => hrows entry (List.mem_cons_of_mem _ hent)) hdist.2 hinsert
      (fun entry hent h => by
        rcases mem_insert.1 h with h | h
        · exact hdist.1 entry hent (Nat.compare_eq_eq.1 h)
        · exact hfr entry (List.mem_cons_of_mem _ hent) h)
    refine ⟨⟨parsed.1, some row.revision, db.pointsOf d⟩ :: snapshots, result, ?_, ?_, hload, ?_⟩
    · rw [List.map_cons, List.mapM_cons, hmap]
      dsimp only
      rw [runtimeSnapshot, hpars, Option.map_some, hrev]
      rfl
    · rw [snapshotsById, hid, hstable.identity d row hrow]
      dsimp only
      have hcont : byId.contains d = false := by
        rw [← Bool.not_eq_true]
        exact hd
      rw [if_neg hne, hcont]
      exact hres
    · intro c
      rw [hmem, mem_insert, List.map_cons, List.mem_cons, Nat.compare_eq_eq, eq_comm]
      tauto

variable (db F) in
/-- What the first loop noted agrees with the tables and the runtimes. -/
def Accurate (pending : Pending) (runtimes : ExtTreeMap ℕ RuntimeSnapshot) : Prop :=
  ∀ (c : ℕ) (entry : Option (ℕ × Bool) × ChannelRuntimeProjection), pending[c]? = some entry →
    entry.1 = db.authority.channels[c]? ∧ Settled db F c entry.2 runtimes

/-- The second loop when nothing changed meanwhile. -/
theorem confirmEach_of_unchanged {authority : RuntimeAuthority}
    {entries : List (ℕ × Option (ℕ × Bool) × ChannelRuntimeProjection)}
    (h : ∀ entry ∈ entries, authority.channels[entry.1]? = entry.2.1) :
    confirmEach authority entries =
      .done (entries.map fun entry => ⟨entry.1, authority.observation entry.1, entry.2.2⟩) := by
  induction entries with
  | nil => rfl
  | cons entry rest ih =>
    obtain ⟨d, expected, projection⟩ := entry
    rw [confirmEach, if_pos (h _ (List.mem_cons_self ..)),
      ih fun entry hent => h entry (List.mem_cons_of_mem _ hent)]
    rfl

theorem addStored_of_mem {ids : List ℕ} {pending : Pending}
    (h : ∀ c ∈ ids, validateChannelId c = .ok () ∧ c ∈ pending) :
    addStored ids pending = .ok pending := by
  induction ids with
  | nil => rfl
  | cons d rest ih =>
    obtain ⟨hval, hmem⟩ := h d (List.mem_cons_self ..)
    rw [addStored, hval]
    have hcont : pending.contains d = true := hmem
    show addStored rest (if pending.contains d then _ else _) = _
    rw [if_pos hcont]
    exact ih fun c hc => h c (List.mem_cons_of_mem _ hc)

theorem forM_validateChannelId (ids : List ℕ) :
    ids.forM validateChannelId = .ok () ↔ ∀ c ∈ ids, validateChannelId c = .ok () := by
  induction ids with
  | nil => exact iff_of_true rfl nofun
  | cons d rest ih =>
    rw [List.forall_mem_cons, ← ih]
    show (validateChannelId d >>= fun _ => rest.forM validateChannelId) = .ok () ↔ _
    cases validateChannelId d with
    | error error => exact iff_of_false nofun fun h => nomatch h.1
    | ok valid => exact ⟨fun h => ⟨rfl, h⟩, fun h => h.2⟩

/-- All runtimes have valid ids. -/
def ValidIds (runtimes : ExtTreeMap ℕ RuntimeSnapshot) : Prop :=
  ∀ c ∈ runtimes, validateChannelId c = .ok ()

/-- What the full pass reports and leaves, when it noted every stored channel and every runtime. -/
theorem items_of_accurate {pending : Pending} (hnoted : Accurate db F pending runtimes)
    (hsto : ∀ c, c ∈ db.channels → c ∈ pending) (hcov : ∀ c ∈ runtimes, c ∈ pending)
    (observation : ℕ → ChannelDesiredStateObservation) :
    ((∃ item ∈ pending.toList.map fun entry =>
        (⟨entry.1, observation entry.1, entry.2.2⟩ : ChannelReconciliationItem),
        item.runtimeProjection.reconciliationRequired = true) ↔ ∃ c, db.Enabled c ∧ F c) ∧
      ∀ c, runtimes[c]? ≠ none ↔ db.Enabled c ∧ ¬F c := by
  have hset : ∀ c ∈ pending, ∃ entry, pending[c]? = some entry ∧
      Settled db F c entry.2 runtimes := fun c hc => by
    obtain ⟨entry, hent⟩ := mem_iff_getElem?.1 hc
    exact ⟨entry, hent, (hnoted c entry hent).2⟩
  have henab : ∀ c, db.Enabled c → c ∈ pending := by
    rintro c ⟨row, hrow, -⟩
    exact hsto c (mem_of_getElem? hrow)
  refine ⟨⟨?_, ?_⟩, fun c => ?_⟩
  · rintro ⟨item, hitem, hreq⟩
    obtain ⟨entry, hent, rfl⟩ := List.mem_map.1 hitem
    have hget := mem_toList_iff_getElem?_eq_some.1 hent
    exact ⟨entry.1, (hnoted entry.1 entry.2 hget).2.required.1 hreq⟩
  · rintro ⟨c, hfail⟩
    obtain ⟨entry, hent, hs⟩ := hset c (henab c hfail.1)
    refine ⟨_, List.mem_map.2 ⟨(c, entry), ?_, rfl⟩, hs.required.2 hfail⟩
    exact mem_toList_iff_getElem?_eq_some.2 hent
  · by_cases hc : c ∈ pending
    · obtain ⟨entry, -, hs⟩ := hset c hc
      exact hs.present
    · refine iff_of_false (fun hne => hc (hcov c ?_)) fun h => hc (henab c h.1)
      exact mem_iff_getElem?.2 (Option.ne_none_iff_exists'.1 hne)

variable (hstable : StableConfiguration library db F) (hcalm : ∀ n, (moments n).Calm db F)

include hstable hcalm

theorem leads_projectOne (hbyId : LoadedFrom library db byId)
    (hkeys : ∀ c, c ∈ db.channels → c ∈ byId) (d : ℕ) :
    Takes moments (fun _ => True) (projectOne library true d byId[d]?) fun entry runtimes =>
      entry.1 = db.authority.channels[d]? ∧ Settled db F d entry.2 runtimes := by
  cases hent : byId[d]? with
  | none =>
    have hrow : db.channels[d]? = none := by
      by_contra hne
      obtain ⟨row, hrow⟩ := Option.ne_none_iff_exists'.1 hne
      obtain ⟨entry, hsome⟩ := mem_iff_getElem?.1 (hkeys d (mem_of_getElem? hrow))
      rw [hent] at hsome
      cases hsome
    refine (leads_fence hcalm _ d).bind_of_eq (leads_done fun s hs => ?_)
    refine ⟨?_, settled_of_not_enabled (not_enabled_of_none hrow) rfl hs⟩
    rw [Database.authority, getElem?_map, hrow]
    rfl
  | some entry =>
    obtain ⟨revision, snapshot⟩ := entry
    obtain ⟨row, parsed, hrow, hpars, hbase, rfl⟩ := hbyId.row d revision snapshot hent
    obtain ⟨hid, henab, -⟩ := parseChannelRow_fields hpars
    have hflag : snapshot.base.enabled = row.enabled := by rw [hbase, henab]
    have hproj : Takes moments (fun _ => True) (projectRuntimeSnapshotLocked library snapshot)
        (Settled db F d) := by
      unfold projectRuntimeSnapshotLocked
      cases hrowEnabled : row.enabled with
      | true =>
        have hact := leads_activate hcalm snapshot
        rw [hbase, hid] at hact
        rw [hflag, hrowEnabled, if_pos rfl, activateRuntimeSnapshot_eq, hbase, hid]
        exact leads_activateChecked hstable hcalm hrow hrowEnabled hpars hact
      | false =>
        rw [hflag, hrowEnabled, hbase, hid]
        refine leads_projectStopped hcalm fun h => ?_
        rw [enabled_iff hrow, hrowEnabled] at h
        cases h
    refine hproj.bind fun projection => leads_done fun s hs => ⟨?_, hs⟩
    rw [Database.authority, getElem?_map, hrow, hflag]
    rfl

theorem leads_projectEach (hbyId : LoadedFrom library db byId)
    (hkeys : ∀ c, c ∈ db.channels → c ∈ byId) (ids : List ℕ) (pending : Pending) :
    Takes moments (Accurate db F pending) (projectEach library true byId ids pending)
      (Accurate db F) := by
  induction ids generalizing pending with
  | nil => exact leads_done fun s hs => hs
  | cons d rest ih =>
    refine leads_call (R := fun _ s => Accurate db F pending s.world.runtimes) (fun _ hs => hs)
      fun _ => ?_
    have hcalls : (projectOne library true d byId[d]?).Calls (ActsOn (· = d)) :=
      calls_projectOne true rfl (hbyId.keyedById d)
    -- the other channels keep their runtimes
    have hfrm : Takes moments (Accurate db F pending) (projectOne library true d byId[d]?)
        fun _ runtimes => ∀ c ≠ d, ∀ entry, pending[c]? = some entry →
          entry.1 = db.authority.channels[c]? ∧ Settled db F c entry.2 runtimes := by
      refine (hcalls.leads fun s op hop hs => ?_).pre fun s hs c _ => hs c
      intro c hc entry hent
      obtain ⟨hauth, hset⟩ := hs c hc entry hent
      exact ⟨hauth, hset.congr (runtimes_callHandle hop hc)⟩
    have hproj : Takes moments (Accurate db F pending) (projectOne library true d byId[d]?)
        fun entry => Accurate db F (pending.insert d entry) := by
      intro s hs c entry hent
      rw [getElem?_insert_nat] at hent
      split_ifs at hent with hc
      · cases hent
        subst hc
        exact leads_projectOne hstable hcalm hbyId hkeys d s trivial
      · exact hfrm s hs c (Ne.symm hc) entry hent
    refine hproj.bind fun entry => ?_
    refine leads_call (R := fun _ s => Accurate db F (pending.insert d entry) s.world.runtimes)
      (fun _ hs => hs) fun _ => ?_
    exact ih _

theorem leads_reconcileAll_calm (runtimes : ExtTreeMap ℕ RuntimeSnapshot) :
    Takes moments (· = runtimes) (reconcileAll library true)
      fun result after =>
        (ValidIds runtimes → ∃ items : List ChannelReconciliationItem, result = .ok items ∧
          ((∃ item ∈ items, item.runtimeProjection.reconciliationRequired = true) ↔
            ∃ c, db.Enabled c ∧ F c) ∧
          ∀ c : ℕ, after[c]? ≠ none ↔ db.Enabled c ∧ ¬F c) ∧
        (¬ValidIds runtimes → ∀ items, result ≠ .ok items) := by
  have hrows : ∀ entry ∈ db.channels.toList, db.channels[entry.1]? = some entry.2 :=
    fun entry h => mem_toList_iff_getElem?_eq_some.1 h
  have hemp : LoadedFrom library db ∅ := ⟨fun c _ _ h => by simp at h⟩
  obtain ⟨snapshots, byId, hmap, hsnaps, hbyId, hkeys⟩ :=
    snapshotsById_rows hstable hrows (pairwise_fst_ne_toList _) hemp (by simp)
  have hkeys : ∀ c, c ∈ byId ↔ c ∈ db.channels := by
    intro c
    rw [hkeys, map_fst_toList_eq_keys, mem_keys]
    exact or_iff_right (by simp)
  have hload : Takes moments (· = runtimes) (loadRuntimeSnapshots library) fun result after =>
      result = .ok snapshots ∧ after = runtimes := by
    intro s hs
    unfold loadRuntimeSnapshots
    simp only [channelOp_bind, eval_call, callHandle, channelApply, World.load, (hcalm _).sql,
      (hcalm _).db_eq, hmap]
    exact ⟨rfl, hs⟩
  refine hload.bind_of_eq ?_
  dsimp only
  rw [hsnaps]
  have hids : Takes moments (· = runtimes) (channelOp .channelIds) fun ids after =>
      ids = runtimes.keys ∧ after = runtimes :=
    fun s hs => ⟨congrArg keys hs, hs⟩
  refine hids.bind_of_eq ?_
  have hforM := forM_validateChannelId runtimes.keys
  cases hval : runtimes.keys.forM validateChannelId with
  | error error =>
    have hinv : ¬ValidIds runtimes := by
      intro h
      rw [hforM.2 fun c hc => h c (mem_keys.1 hc)] at hval
      cases hval
    exact fun s _ => ⟨fun h => absurd h hinv, fun _ => (always_failClosedBulk error).eval s⟩
  | ok valid =>
    have hvalidIds : ValidIds runtimes := fun c hc =>
      hforM.1 hval c (mem_keys.2 hc)
    generalize hids : idSet (byId.keys ++ runtimes.keys) = ids
    have hmem : ∀ c, c ∈ ids ↔ c ∈ db.channels ∨ c ∈ runtimes := by
      intro c
      rw [← hids, mem_idSet, List.mem_append, mem_keys, mem_keys, hkeys]
    have hproj : Leads (callHandle moments) (fun s => s.world.runtimes = runtimes)
        (projectEach library true byId ids ∅) fun pending s =>
          (∀ c ∈ ids, c ∈ pending) ∧ Accurate db F pending s.world.runtimes ∧ Covered ids s := by
      intro s hs
      have hnoted : Accurate db F ∅ s.world.runtimes := fun c entry hent => by simp at hent
      have hcov : Covered ids s := by
        intro c hc
        rw [hmem, ← hs]
        exact .inr (mem_iff_getElem?.2 (Option.ne_none_iff_exists'.1 hc))
      obtain ⟨hpend, hcov⟩ := leads_confined
        (confined_projectEach true hbyId.keyedById (fun _ h => h) ∅) s hcov
      exact ⟨hpend.1,
        leads_projectEach hstable hcalm hbyId (fun c => (hkeys c).2) ids ∅ s hnoted, hcov⟩
    refine hproj.bind fun pending => ?_
    rintro s ⟨hpend, hnoted, hcov⟩
    have hsto : ∀ c, c ∈ db.channels → c ∈ pending := fun c hc =>
      hpend c ((hmem c).2 (.inl hc))
    have hadd : addStored db.authority.channels.keys pending = .ok pending := by
      refine addStored_of_mem fun c hc => ?_
      rw [mem_keys, Database.authority, mem_map] at hc
      obtain ⟨row, hrow⟩ := mem_iff_getElem?.1 hc
      exact ⟨hstable.identity c row hrow, hsto c hc⟩
    have hconfirm : confirmEach db.authority pending.toList = _ :=
      confirmEach_of_unchanged fun entry hent => by
        have hget := mem_toList_iff_getElem?_eq_some.1 hent
        exact ((hnoted entry.1 entry.2 hget).1).symm
    simp only [channelOp_bind, eval_call, callHandle, channelApply, World.load, (hcalm _).sql,
      (hcalm _).db_eq, hadd, hconfirm, done_bind, pure_eq_done, eval_done]
    refine ⟨fun _ => ⟨_, rfl, items_of_accurate hnoted hsto (fun c hc => hpend c ?_) _⟩,
      fun h => absurd hvalidIds h⟩
    exact hcov c (Option.ne_none_iff_exists'.2 (mem_iff_getElem?.1 hc))

end Calm

/-! ## The targets of a cycle -/

variable {applied : DesiredRuntimeSnapshot}

theorem mem_targets {desired : DesiredRuntimeSnapshot} {ids : List ℕ} {c : ℕ} :
    c ∈ reconciliationTargets (some applied) desired ids ↔
      applied[c]? ≠ desired[c]? ∨
        (∃ row, desired[c]? = some row ∧ row.enabled ≠ ids.contains c) ∨
          (c ∈ ids ∧ desired[c]? = none) := by
  rw [reconciliationTargets, mem_idSet, List.mem_append, List.mem_append, mem_changedChannelIds,
    or_assoc]
  refine or_congr_right (or_congr ?_ ?_)
  · rw [List.mem_filter, Option.any_eq_true]
    constructor
    · rintro ⟨-, row, hrow, hne⟩
      exact ⟨row, hrow, bne_iff_ne.1 hne⟩
    · rintro ⟨row, hrow, hne⟩
      exact ⟨mem_keys.2 (mem_of_getElem? hrow), row, hrow, bne_iff_ne.2 hne⟩
  · rw [List.mem_filter, Bool.not_eq_true', contains_eq_isSome_getElem?,
      Option.isSome_eq_false_iff, Option.isNone_iff_eq_none]

theorem desiredRuntimeSnapshot_enabled {db : Database} {desired : DesiredRuntimeSnapshot}
    (h : desiredRuntimeSnapshot db = .ok desired) (c : ℕ) :
    desired[c]?.map DesiredRuntimeFingerprint.enabled = db.channels[c]?.map ChannelRow.enabled := by
  have happ : ∀ {before after : DesiredRuntimeSnapshot} {table : PointTable},
      appendTableFingerprints db before table = .ok after →
        after[c]?.map DesiredRuntimeFingerprint.enabled =
          before[c]?.map DesiredRuntimeFingerprint.enabled := by
    intro before after table happ
    obtain ⟨-, -, happ⟩ := bind_eq_ok.1 happ
    cases happ
    rw [getElem?_map, Option.map_map]
    congr 1
    funext current
    simp only [Function.comp_apply]
    split <;> rfl
  have hfold : ∀ (tables : List PointTable) {before : DesiredRuntimeSnapshot},
      tables.foldlM (appendTableFingerprints db) before = .ok desired →
        desired[c]?.map DesiredRuntimeFingerprint.enabled =
          before[c]?.map DesiredRuntimeFingerprint.enabled := by
    intro tables
    induction tables with
    | nil =>
      intro before hfold
      cases hfold
      rfl
    | cons table rest ih =>
      intro before hfold
      rw [List.foldlM_cons] at hfold
      obtain ⟨mid, hmid, hrest⟩ := bind_eq_ok.1 hfold
      exact (ih hrest).trans (happ hmid)
  obtain ⟨-, -, h⟩ := bind_eq_ok.1 h
  rw [hfold _ h, getElem?_map, Option.map_map]
  rfl

namespace CycleEnvironment

variable {library : ChannelLibrary} {db : Database} {F : ℕ → Prop} {env : CycleEnvironment}
  {desired : DesiredRuntimeSnapshot}

/-! ## A cycle under a stable configuration -/

theorem handle_reconcile (env : CycleEnvironment) (s : CycleState)
    (scope : ChannelReconciliationScope) {result : PortResult ChannelReconciliationReceipt}
    {world : World}
    (h : call (env.reconcile scope) (Io.reconcile env.library env.topology scope) s.world =
      (result, world)) :
    env.handle s (.reconcile scope) =
      (result, { s with world, receipts := s.receipts ++ result.toOption.toList }) := by
  unfold handle
  dsimp only
  rw [h]

section

variable (hstable : StableConfiguration library db F) (hsteady : env.Steady library db F)

include hstable hsteady

theorem handle_one_steady {k : ℕ} (hval : validateChannelId k = .ok ()) (s : CycleState) :
    ∃ receipt mid, env.handle s (.reconcile (.one k)) = (.ok receipt, mid) ∧
      mid.applied = s.applied ∧
      (receipt.reconciliationRequired = true ↔ db.Enabled k ∧ F k) ∧
      (mid.world.runtimes[k]? ≠ none ↔ db.Enabled k ∧ ¬F k) ∧
      ∀ c ≠ k, mid.world.runtimes[c]? = s.world.runtimes[c]? := by
  obtain ⟨receipt, hok, hreq, hpres⟩ :=
    leads_reconcileOne hstable (hsteady.reconcile (.one k)) env.topology hval ⟨s.world, 0⟩ trivial
  rw [← hsteady.library_eq] at hok hpres
  refine ⟨receipt, _, handle_reconcile env s (.one k) (Prod.ext hok rfl), rfl, hreq, hpres,
    fun c hc => ?_⟩
  exact runtimes_call (confined_reconcileOne env.topology k).calls _ s.world hc

theorem handle_all_steady (s : CycleState) :
    ∃ result mid, env.handle s (.reconcile .all) = (result, mid) ∧ mid.applied = s.applied ∧
      (ValidIds s.world.runtimes → ∃ receipt, result = .ok receipt ∧
        (receipt.reconciliationRequired = true ↔ ∃ c, db.Enabled c ∧ F c) ∧
        ∀ c, mid.world.runtimes[c]? ≠ none ↔ db.Enabled c ∧ ¬F c) ∧
      (¬ValidIds s.world.runtimes → ∃ error, result = .error error) := by
  have hall := leads_reconcile (P := fun runtimes => runtimes = s.world.runtimes)
    (Q := fun result runtimes => (ValidIds s.world.runtimes → ∃ receipt, result = .ok receipt ∧
        (receipt.reconciliationRequired = true ↔ ∃ c, db.Enabled c ∧ F c) ∧
        ∀ c : ℕ, runtimes[c]? ≠ none ↔ db.Enabled c ∧ ¬F c) ∧
      (¬ValidIds s.world.runtimes → ∃ error, result = .error error))
    (hsteady.reconcile .all) env.topology .all
    ((leads_reconcileAll_calm hstable (hsteady.reconcile .all) s.world.runtimes).conseq
      (fun _ h => h) fun result after h => ?_) ⟨s.world, 0⟩ rfl
  · rw [← hsteady.library_eq] at hall
    exact ⟨_, _, handle_reconcile env s .all rfl, rfl, hall⟩
  · refine ⟨fun hval => ?_, fun hinv => ?_⟩
    · obtain ⟨items, rfl, hreq, hpres⟩ := h.1 hval
      refine ⟨⟨.all, items⟩, rfl, ?_, hpres⟩
      rw [ChannelReconciliationReceipt.reconciliationRequired, List.any_eq_true, hreq]
    · cases result with
      | error error => exact ⟨error, rfl⟩
      | ok items => exact absurd rfl (h.2 hinv items)

/-- The loop over targets that are valid goes through. -/
theorem reconcileTargets_of_valid {targets : List ℕ}
    (hval : ∀ k ∈ targets, validateChannelId k = .ok ()) (converged : Bool) (s : CycleState) :
    ∃ converged' after,
      (reconcileTargets targets converged).eval env.handle s = (.ok converged', after) ∧
      after.applied = s.applied ∧
      (converged' = true ↔ converged = true ∧ ∀ k ∈ targets, ¬(db.Enabled k ∧ F k)) ∧
      (∀ c ∈ targets, after.world.runtimes[c]? ≠ none ↔ db.Enabled c ∧ ¬F c) ∧
      ∀ c ∉ targets, after.world.runtimes[c]? = s.world.runtimes[c]? := by
  induction targets generalizing converged s with
  | nil => exact ⟨converged, s, rfl, rfl, by simp, nofun, fun _ _ => rfl⟩
  | cons k rest ih =>
    obtain ⟨hk, hrest⟩ := List.forall_mem_cons.1 hval
    obtain ⟨receipt, mid, hhandle, happl, hreq, hpres, hfrm⟩ :=
      handle_one_steady hstable hsteady hk s
    -- the loop goes on from a state that differs at `k` only
    have hstep : ∃ mid' converged'', (reconcileTargets (k :: rest) converged).eval env.handle s =
        (reconcileTargets rest converged'').eval env.handle mid' ∧ mid'.applied = s.applied ∧
        (converged'' = true ↔ converged = true ∧ ¬(db.Enabled k ∧ F k)) ∧
        (mid'.world.runtimes[k]? ≠ none ↔ db.Enabled k ∧ ¬F k) ∧
        ∀ c ≠ k, mid'.world.runtimes[c]? = s.world.runtimes[c]? := by
      rw [reconcileTargets, clearApplied]
      simp only [cycleOp_bind, eval_call, hhandle]
      by_cases hfail : db.Enabled k ∧ F k
      · obtain ⟨world, hworld, hruns⟩ := handle_fenceUntrusted hsteady.fence mid [k]
        rw [if_pos (hreq.2 hfail)]
        simp only [eval_call, hworld]
        refine ⟨{ mid with world }, false, rfl, happl, ?_, ?_, fun c hc => ?_⟩
        · exact iff_of_false Bool.false_ne_true fun h => h.2 hfail
        · refine iff_of_false (fun h => h ?_) fun h => h.2 hfail.2
          rw [hruns, if_pos (List.mem_singleton_self k)]
        · rw [hruns, if_neg (by rwa [List.mem_singleton]), hfrm c hc]
      · rw [if_neg fun h => hfail (hreq.1 h)]
        refine ⟨mid, converged, rfl, happl, ?_, hpres, hfrm⟩
        exact ⟨fun h => ⟨h, hfail⟩, fun h => h.1⟩
    obtain ⟨mid', converged'', heval, happl', hconv, hpres', hfrm'⟩ := hstep
    obtain ⟨converged', after, heval', happl'', hconv', hdone, hkept⟩ :=
      ih hrest converged'' mid'
    refine ⟨converged', after, heval.trans heval', happl''.trans happl', ?_, ?_, ?_⟩
    · rw [hconv', hconv, List.forall_mem_cons, and_assoc]
    · intro c hc
      by_cases hmem : c ∈ rest
      · exact hdone c hmem
      rcases List.mem_cons.1 hc with rfl | hc
      · rw [hkept c hmem]
        exact hpres'
      · exact absurd hc hmem
    · intro c hc
      rw [List.mem_cons, not_or] at hc
      rw [hkept c hc.2, hfrm' c hc.1]

/-- The loop over targets ends at one that is not valid, and forgets the snapshot. -/
theorem reconcileTargets_of_invalid {targets : List ℕ}
    (hinv : ¬∀ k ∈ targets, validateChannelId k = .ok ()) (converged : Bool) (s : CycleState) :
    ∃ error after, (reconcileTargets targets converged).eval env.handle s = (.error error, after) ∧
      after.applied = none := by
  induction targets generalizing converged s with
  | nil => exact absurd nofun hinv
  | cons k rest ih =>
    rw [reconcileTargets, clearApplied]
    simp only [cycleOp_bind, eval_call]
    by_cases hk : validateChannelId k = .ok ()
    · have hrest : ¬∀ k ∈ rest, validateChannelId k = .ok () := fun h =>
        hinv (List.forall_mem_cons.2 ⟨hk, h⟩)
      obtain ⟨receipt, mid, hhandle, -⟩ := handle_one_steady hstable hsteady hk s
      rw [hhandle]
      dsimp only
      split_ifs
      · obtain ⟨world, hworld, -⟩ := handle_fenceUntrusted hsteady.fence mid [k]
        simp only [eval_call, hworld]
        exact ih hrest _ _
      · exact ih hrest _ _
    · have hfl : env.fails k = true := by
        unfold fails
        cases hval : validateChannelId k with
        | ok value => exact absurd hval hk
        | error error => simp [Except.isOk, Except.toBool]
      rcases (handle_reconcileOne env s k).2 with ⟨error, herr, -⟩ | ⟨-, -, -, hok, -⟩
      · rw [herr]
        have hclear (mid : CycleState) :
            env.handle mid (.setApplied none) = ((), { mid with applied := none }) := rfl
        obtain ⟨world, hworld, -⟩ := handle_fenceUntrusted hsteady.fence
          { (env.handle s (.reconcile (.one k))).2 with applied := none } [k]
        simp only [eval_call, hclear, hworld]
        exact ⟨error, _, rfl, rfl⟩
      · rw [hfl] at hok
        cases hok

/-- The full pass of a cycle runs every enabled channel, or fences everything. -/
theorem reconcileForced_steady (desired : DesiredRuntimeSnapshot) (s : CycleState) :
    ∃ result after, (reconcileForced desired).eval env.handle s = (result, after) ∧
      ((ValidIds s.world.runtimes ∧ (¬∃ c, db.Enabled c ∧ F c) ∧ result = .ok true ∧
          ∀ c, after.world.runtimes[c]? ≠ none ↔ db.Enabled c) ∨
        ((¬ValidIds s.world.runtimes ∨ ∃ c, db.Enabled c ∧ F c) ∧
          (result = .ok false ∨ (∃ error, result = .error error) ∧ after.applied = none) ∧
          ∀ c : ℕ, after.world.runtimes[c]? = none)) := by
  obtain ⟨result, mid, hhandle, -, hval, hinv⟩ := handle_all_steady hstable hsteady s
  unfold reconcileForced
  simp only [cycleOp_bind, eval_call, hhandle]
  by_cases hids : ValidIds s.world.runtimes
  · obtain ⟨receipt, rfl, hreq, hpres⟩ := hval hids
    dsimp only
    by_cases hfail : ∃ c, db.Enabled c ∧ F c
    · obtain ⟨n, world, heval, hnone⟩ := eval_failClosed hsteady.fence (some desired) mid
      rw [hreq.2 hfail, Bool.not_true, if_neg nofun, eval_bind, heval]
      exact ⟨_, _, rfl, .inr ⟨.inr hfail, .inl rfl, hnone⟩⟩
    have hconv : receipt.reconciliationRequired = false := by
      rw [← Bool.not_eq_true, hreq]
      exact hfail
    rw [hconv, Bool.not_false, if_pos rfl]
    refine ⟨_, _, rfl, .inl ⟨hids, hfail, rfl, fun c => (hpres c).trans ?_⟩⟩
    exact ⟨fun h => h.1, fun h => ⟨h, fun hF => hfail ⟨c, h, hF⟩⟩⟩
  · obtain ⟨error, rfl⟩ := hinv hids
    obtain ⟨world, heval, hnone⟩ := eval_failWith (α := Bool) hsteady.fence (some desired) error mid
    dsimp only
    rw [heval]
    exact ⟨_, _, rfl, .inr ⟨.inl hids, .inr ⟨⟨error, rfl⟩, rfl⟩, hnone⟩⟩

end

variable (db) in
/-- The snapshot is applied and exactly the enabled channels run. -/
structure AtRest (desired : DesiredRuntimeSnapshot) (s : CycleState) : Prop where
  applied : s.applied = some desired
  present : ∀ c, s.world.runtimes[c]? ≠ none ↔ db.Enabled c

/-- No snapshot is applied and nothing runs. -/
structure Down (s : CycleState) : Prop where
  applied : s.applied = none
  absent : ∀ c : ℕ, s.world.runtimes[c]? = none

/-- The targets are the channels whose row changed, that run and are not enabled, or that are
    enabled and do not run. -/
theorem mem_targets_iff (hdesired : desiredRuntimeSnapshot db = .ok desired)
    {runtimes : ExtTreeMap ℕ RuntimeSnapshot} {c : ℕ} :
    c ∈ reconciliationTargets (some applied) desired (idSet runtimes.keys) ↔
      applied[c]? ≠ desired[c]? ∨ ¬(runtimes[c]? ≠ none ↔ db.Enabled c) := by
  have hflag := desiredRuntimeSnapshot_enabled hdesired c
  have hids : runtimes[c]? ≠ none ↔ c ∈ idSet runtimes.keys := by
    rw [mem_idSet, mem_keys, mem_iff_getElem?, Option.ne_none_iff_exists']
  rw [mem_targets, hids]
  refine or_congr_right ?_
  cases hrow : desired[c]? with
  | none =>
    rw [hrow, Option.map_none, eq_comm, Option.map_eq_none_iff] at hflag
    simp [not_enabled_of_none hflag]
  | some fingerprint =>
    rw [hrow, Option.map_some, eq_comm, Option.map_eq_some_iff] at hflag
    obtain ⟨row, hsome, henab⟩ := hflag
    rw [enabled_iff hsome, henab, ← List.contains_iff_mem, ← Bool.eq_iff_iff]
    simp [eq_comm]

section

variable (hstable : StableConfiguration library db F) (hsteady : env.Steady library db F)
  (hdesired : desiredRuntimeSnapshot db = .ok desired) {s : CycleState}

include hsteady hdesired

theorem conclude_steady (n : ℕ) (converged : Bool) (s : CycleState) :
    ((conclude desired n (.ok converged)).eval env.handle s).2 =
      { s with loads := s.loads + 1, applied := if converged then some desired else none } := by
  show ((confirmCycle desired n converged).eval env.handle s).2 = _
  unfold confirmCycle
  simp only [cycleOp_bind, eval_call]
  have hload : env.handle s .loadDesired = (.ok desired, { s with loads := s.loads + 1 }) := by
    unfold handle
    rw [hsteady.desired]
    exact Prod.ext hdesired rfl
  rw [hload]
  dsimp only
  rw [if_neg (not_not.2 rfl)]
  rfl

theorem load_steady : env.desired 0 >>= desiredRuntimeSnapshot = .ok desired := by
  rw [hsteady.desired]
  exact hdesired

include hstable

theorem cycle_forced (happl : s.applied = none) :
    (ValidIds s.world.runtimes ∧ (¬∃ c, db.Enabled c ∧ F c) ∧ AtRest db desired (env.cycle s).2) ∨
      ((¬ValidIds s.world.runtimes ∨ ∃ c, db.Enabled c ∧ F c) ∧ Down (env.cycle s).2) := by
  rw [cycle_of_current (load_steady hsteady hdesired) hsteady.projection, happl]
  dsimp only [repair, Option.isNone_none]
  rw [if_pos rfl]
  obtain ⟨result, after, heval, houtcome⟩ := reconcileForced_steady hstable hsteady desired
    { s with loads := 1, receipts := [], applied := none }
  rw [heval]
  rcases houtcome with ⟨hids, hfail, rfl, hpres⟩ | ⟨hcause, hres, hnone⟩
  · rw [conclude_steady hsteady hdesired]
    exact .inl ⟨hids, hfail, rfl, hpres⟩
  refine .inr ⟨hcause, ?_⟩
  rcases hres with rfl | ⟨⟨error, rfl⟩, hnothing⟩
  · rw [conclude_steady hsteady hdesired]
    exact ⟨rfl, hnone⟩
  · exact ⟨hnothing, hnone⟩

theorem cycle_targets (happl : s.applied = some applied) :
    ((∀ k ∈ reconciliationTargets (some applied) desired (idSet s.world.runtimes.keys),
        validateChannelId k = .ok () ∧ ¬(db.Enabled k ∧ F k)) → AtRest db desired (env.cycle s).2) ∧
      ((¬∀ k ∈ reconciliationTargets (some applied) desired (idSet s.world.runtimes.keys),
        validateChannelId k = .ok () ∧ ¬(db.Enabled k ∧ F k)) → (env.cycle s).2.applied = none) := by
  have hothers : ∀ c, c ∉ reconciliationTargets (some applied) desired (idSet s.world.runtimes.keys) →
      (s.world.runtimes[c]? ≠ none ↔ db.Enabled c) := by
    intro c hc
    rw [mem_targets_iff hdesired, not_or, not_not, not_not] at hc
    exact hc.2
  rw [cycle_of_current (load_steady hsteady hdesired) hsteady.projection, happl]
  dsimp only [repair, Option.isNone_some]
  rw [if_neg nofun]
  generalize reconciliationTargets (some applied) desired (idSet s.world.runtimes.keys) = targets
    at hothers ⊢
  by_cases hval : ∀ k ∈ targets, validateChannelId k = .ok ()
  · obtain ⟨converged, after, heval, -, hconv, hdone, hkept⟩ :=
      reconcileTargets_of_valid hstable hsteady hval true
        { s with loads := 1, receipts := [], applied := some applied }
    rw [heval, conclude_steady hsteady hdesired]
    refine ⟨fun h => ⟨?_, fun c => ?_⟩, fun h => ?_⟩
    · show (if converged then some desired else none) = some desired
      rw [if_pos (hconv.2 ⟨rfl, fun k hk => (h k hk).2⟩)]
    · show after.world.runtimes[c]? ≠ none ↔ _
      by_cases hc : c ∈ targets
      · rw [hdone c hc]
        exact ⟨fun hrun => hrun.1, fun henab => ⟨henab, fun hF => (h c hc).2 ⟨henab, hF⟩⟩⟩
      · rw [hkept c hc]
        exact hothers c hc
    · show (if converged then some desired else none) = none
      rw [if_neg]
      exact fun hok => h fun k hk => ⟨hval k hk, (hconv.1 hok).2 k hk⟩
  · obtain ⟨error, after, heval, hnone⟩ := reconcileTargets_of_invalid hstable hsteady hval true
      { s with loads := 1, receipts := [], applied := some applied }
    rw [heval]
    exact ⟨fun h => absurd (fun k hk => (h k hk).1) hval, fun _ => hnone⟩

theorem AtRest.cycle (h : AtRest db desired s) : AtRest db desired (env.cycle s).2 := by
  refine (cycle_targets hstable hsteady hdesired h.applied).1 fun k hk => absurd hk ?_
  rw [mem_targets_iff hdesired, not_or, not_not, not_not]
  exact ⟨rfl, h.present k⟩

end

/-! ## Runs -/

/-- One cycle after another. -/
def cycles (envs : ℕ → CycleEnvironment) (s : CycleState) : ℕ → CycleState
  | 0 => s
  | n + 1 => ((envs n).cycle (cycles envs s n)).2

variable (db F) in
/-- From some cycle on every enabled channel outside `F` has a runtime. -/
def Converges (envs : ℕ → CycleEnvironment) (s : CycleState) : Prop :=
  ∃ N, ∀ n ≥ N, ∀ c, db.Enabled c → ¬F c → (cycles envs s n).world.runtimes[c]? ≠ none

variable {envs : ℕ → CycleEnvironment} {s : CycleState}

section

variable (hstable : StableConfiguration library db F) (hsteady : ∀ n, (envs n).Steady library db F)

include hstable hsteady

theorem converges_of_atRest (hdesired : desiredRuntimeSnapshot db = .ok desired) {N : ℕ}
    (h : AtRest db desired (cycles envs s N)) : Converges db F envs s := by
  refine ⟨N, fun n hn c henab _ => ?_⟩
  have hrest : AtRest db desired (cycles envs s n) := by
    induction n, hn using Nat.le_induction with
    | base => exact h
    | succ n _ ih => exact ih.cycle hstable (hsteady n) hdesired
  exact (hrest.present c).2 henab

/-- Once no snapshot is applied, an enabled channel of `F` keeps everything down. -/
theorem not_converges_of_failing (hfail : ∃ c, db.Enabled c ∧ F c)
    (hrnbl : ∃ c, db.Enabled c ∧ ¬F c) {N : ℕ} (h : (cycles envs s N).applied = none) :
    ¬Converges db F envs s := by
  obtain ⟨desired, hdesired⟩ := hstable.loads
  have hdown : ∀ n > N, Down (cycles envs s n) := by
    intro n hn
    have hforced : ∀ n, (cycles envs s n).applied = none → Down (cycles envs s (n + 1)) := by
      intro n happl
      rcases cycle_forced hstable (hsteady n) hdesired happl with ⟨-, hnone, -⟩ | ⟨-, hdown⟩
      · exact absurd hfail hnone
      · exact hdown
    induction n, hn using Nat.le_induction with
    | base => exact hforced N h
    | succ n _ ih => exact hforced n ih.applied
  rintro ⟨M, hM⟩
  obtain ⟨c, henab, hF⟩ := hrnbl
  refine hM (max M (N + 1)) (le_max_left ..) c henab hF ?_
  exact (hdown _ (Nat.lt_of_lt_of_le N.lt_succ_self (le_max_right ..))).absent c

/-- Once no snapshot is applied, the reconciler comes to rest if nothing enabled is in `F`. -/
theorem converges_of_not_failing (hfail : ¬∃ c, db.Enabled c ∧ F c) {N : ℕ}
    (h : (cycles envs s N).applied = none) : Converges db F envs s := by
  obtain ⟨desired, hdesired⟩ := hstable.loads
  have hforced : ∀ n, (cycles envs s n).applied = none →
      AtRest db desired (cycles envs s (n + 1)) ∨
        ¬ValidIds (cycles envs s n).world.runtimes ∧ Down (cycles envs s (n + 1)) := by
    intro n happl
    rcases cycle_forced hstable (hsteady n) hdesired happl with ⟨-, -, hrest⟩ | ⟨hcause, hdown⟩
    · exact .inl hrest
    · exact .inr ⟨hcause.resolve_right hfail, hdown⟩
  rcases hforced N h with hrest | ⟨-, hdown⟩
  · exact converges_of_atRest hstable hsteady hdesired hrest
  -- runtimes with invalid identities were fenced, so the next pass goes through
  rcases hforced (N + 1) hdown.applied with hrest | ⟨hinv, -⟩
  · exact converges_of_atRest hstable hsteady hdesired hrest
  refine absurd (fun c hc => ?_) hinv
  obtain ⟨snapshot, hsome⟩ := mem_iff_getElem?.1 hc
  rw [hdown.absent c] at hsome
  cases hsome

end

/-- When the enabled channels outside `F` come to run. -/
theorem converges_iff (hstable : StableConfiguration library db F)
    (hsteady : ∀ n, (envs n).Steady library db F)
    (hdesired : desiredRuntimeSnapshot db = .ok desired) :
    Converges db F envs s ↔
      (¬∃ c, db.Enabled c ∧ F c) ∨ (¬∃ c, db.Enabled c ∧ ¬F c) ∨
        ∃ applied, s.applied = some applied ∧
          ∀ k ∈ reconciliationTargets (some applied) desired (idSet s.world.runtimes.keys),
            validateChannelId k = .ok () ∧ ¬(db.Enabled k ∧ F k) := by
  constructor
  · intro hconverges
    by_contra hnot
    rw [not_or, not_or, not_not, not_not] at hnot
    obtain ⟨hfailing, hrunnable, htargets⟩ := hnot
    rcases happlied : s.applied with _ | applied
    · have hstart : (cycles envs s 0).applied = none := happlied
      exact not_converges_of_failing hstable hsteady hfailing hrunnable hstart hconverges
    have hfirst : (cycles envs s 1).applied = none :=
      (cycle_targets hstable (hsteady 0) hdesired happlied).2
        fun h => htargets ⟨applied, happlied, h⟩
    exact not_converges_of_failing hstable hsteady hfailing hrunnable hfirst hconverges
  · rintro (hfailing | hrunnable | ⟨applied, happlied, htargets⟩)
    · rcases happlied : s.applied with _ | applied
      · have hstart : (cycles envs s 0).applied = none := happlied
        exact converges_of_not_failing hstable hsteady hfailing hstart
      obtain ⟨hrest, hforgets⟩ := cycle_targets hstable (hsteady 0) hdesired happlied
      by_cases htargets :
        ∀ k ∈ reconciliationTargets (some applied) desired (idSet s.world.runtimes.keys),
          validateChannelId k = .ok () ∧ ¬(db.Enabled k ∧ F k)
      · have hfirst : AtRest db desired (cycles envs s 1) := hrest htargets
        exact converges_of_atRest hstable hsteady hdesired hfirst
      · have hfirst : (cycles envs s 1).applied = none := hforgets htargets
        exact converges_of_not_failing hstable hsteady hfailing hfirst
    · exact ⟨0, fun n _ c henabled hF => absurd ⟨c, henabled, hF⟩ hrunnable⟩
    · have hfirst : AtRest db desired (cycles envs s 1) :=
        (cycle_targets hstable (hsteady 0) hdesired happlied).1 htargets
      exact converges_of_atRest hstable hsteady hdesired hfirst

/-! ### A pump that does not answer -/

/-- Cycles in which only the connections of `F` are refused. -/
def refusing (F : ℕ → Prop) [DecidablePred F] (db : Database) : CycleEnvironment where
  library := unreadablePump.library
  topology := false
  desired _ := .ok db
  projection := .ok true
  reconcile _ _ := ⟨db, fun op =>
    match op with
    | .connect c => { connects := !decide (F c) }
    | _ => {}⟩
  fence _ _ := ⟨db, fun _ => {}⟩

theorem refusing_steady (F : ℕ → Prop) [DecidablePred F] (db : Database) :
    (refusing F db).Steady unreadablePump.library db F where
  library_eq := rfl
  desired _ := rfl
  projection := rfl
  reconcile scope n := by
    constructor
    · rfl
    · intro op
      cases op <;> rfl
    · rfl
    · intro op
      cases op <;> rfl
    · exact fun snapshot _ => rfl
    · intro c hF
      show (!decide (F c)) = true
      simp [hF]
    · intro c hF
      refine ⟨rfl, ?_⟩
      show (!decide (F c)) = false
      simp [hF]
  fence _ _ op := rfl

theorem pumpAndValve_row {revision c : ℕ} {valve : Bool} {row : ChannelRow}
    (h : (pumpAndValve revision valve).channels[c]? = some row) :
    (c = 1 ∨ c = 2) ∧ row.protocol = some "virtual" ∧ row.revision = revision := by
  rw [pumpAndValve, getElem?_insert_nat, getElem?_insert_nat] at h
  split_ifs at h with h2 h1
  · cases h
    exact ⟨.inr h2.symm, rfl, rfl⟩
  · cases h
    exact ⟨.inl h1.symm, rfl, rfl⟩
  · simp at h

theorem pumpAndValve_stable (F : ℕ → Prop) :
    StableConfiguration unreadablePump.library (pumpAndValve 1 true) F where
  loads := ⟨_, rfl⟩
  identity c row hrow := by
    rcases (pumpAndValve_row hrow).1 with rfl | rfl <;> rfl
  parses c row hrow := by
    obtain ⟨-, hproto, hrev⟩ := pumpAndValve_row hrow
    simp [parseChannelRow, hproto, hrev, unreadablePump]
  validates c row parsed hrow hpars _ := by
    have hid := (parseChannelRow_fields hpars).1
    rcases (pumpAndValve_row hrow).1 with rfl | rfl
    · simp [validateRuntimeConfig, hid, unreadablePump, maxChannelId]
    · simp [validateRuntimeConfig, hid, unreadablePump, maxChannelId]
  tombstone c revision h := by
    simp [pumpAndValve] at h

theorem silent_pump_keeps_valve_down :
    ¬Converges (pumpAndValve 1 true) (· = 1) (fun _ => refusing (· = 1) (pumpAndValve 1 true))
      (pumpAndValveRunning none) := by
  have hstart : (cycles (fun _ => refusing (· = 1) (pumpAndValve 1 true))
      (pumpAndValveRunning none) 0).applied = none := rfl
  refine not_converges_of_failing (pumpAndValve_stable (· = 1)) (fun _ => refusing_steady _ _) ?_ ?_
    hstart
  · exact ⟨1, ⟨_, rfl, rfl⟩, rfl⟩
  · exact ⟨2, ⟨_, rfl, rfl⟩, nofun⟩

/-- The pump runs, and the valve was disabled when the last snapshot was applied. -/
def pumpRunning : CycleState :=
  { pumpAndValveRunning (desiredRuntimeSnapshot (pumpAndValve 1 false)).toOption with
    world.runtimes := (pumpAndValveRunning none).world.runtimes.erase 2 }

/-- The valve that is now enabled comes to run: the pump, which would be refused, is no target. -/
theorem valve_converges_beside_pump :
    Converges (pumpAndValve 1 true) (· = 1) (fun _ => refusing (· = 1) (pumpAndValve 1 true))
      pumpRunning := by
  refine (converges_iff (pumpAndValve_stable (· = 1)) (fun _ => refusing_steady _ _) rfl).2
    (.inr (.inr ⟨_, rfl, fun k hk => ?_⟩))
  have htargets : reconciliationTargets pumpRunning.applied
      ((pumpAndValve 1 true).channels.map fun _ row => rowFingerprint row)
      (idSet pumpRunning.world.runtimes.keys) = [2] := by
    decide +kernel
  obtain rfl := List.mem_singleton.1 (htargets ▸ hk)
  exact ⟨rfl, fun h => absurd h.2 (by decide)⟩

end CycleEnvironment

end AetherEdge.Io
