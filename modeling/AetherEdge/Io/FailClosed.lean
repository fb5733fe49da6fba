import AetherEdge.Io.CallEffects

/-!
# What a failing cycle of the automatic reconciler leaves

A cycle that ends with an error, or without having converged, has to fence every runtime whose
desired row changed and that it did not reconcile. Every exit does so but one: when the
reconciliation of a target returns an error (`CycleEnvironment.fails` says when), only that target is
fenced, and the changed targets above it keep their runtimes. `failsClosed_iff`: this is the only
way in which a cycle does not fail closed.
-/

namespace AetherEdge.Io

open Std (ExtTreeMap)
open OrderedMap Program Std.ExtTreeMap

/-! ## When the reconciliation of a channel fails -/

/-- `load_channel` at this moment. -/
def Moment.loadChannel (moment : Moment) (channelId : ℕ) : PortResult StoredChannel :=
  match (moment.choice (.selectChannel channelId)).sql with
  | some error => .error (mapDatabaseError error "load channel desired state")
  | none => storedChannel channelId moment.db.channels[channelId]?

/-- `load_tombstone_revision` at this moment. -/
def Moment.loadTombstoneRevision (moment : Moment) (channelId : ℕ) : PortResult ℕ :=
  match (moment.choice (.selectTombstone channelId)).sql, moment.db.tombstones[channelId]? with
  | some error, _ => .error (mapDatabaseError error "load channel revision tombstone")
  | none, none => .error ⟨.notFound, "channel tombstone does not exist"⟩
  | none, some revision => storedRevision revision

/-- The desired state of the channel cannot be read: its row, or the tombstone of a channel that
    has none. -/
def readFails (row tombstone : Moment) (channelId : ℕ) : Bool :=
  match row.loadChannel channelId with
  | .ok _ => false
  | .error error =>
    if error.kind = .notFound then
      match tombstone.loadTombstoneRevision channelId with
      | .ok _ => false
      | .error error => error.kind != .notFound
    else true

/-- The reconciliation of one channel returns an error: the adapter's own topology projection fails,
    the identity is invalid, or the desired state cannot be read. The moments are those of its
    operations: the gate, the projection if there is one, the lock, the row, the tombstone. -/
def CycleEnvironment.fails (env : CycleEnvironment) (channelId : ℕ) : Bool :=
  let moments := env.reconcile (.one channelId)
  let lock := if env.topology then 2 else 1
  (env.topology && !((moments 1).choice .project).topology.isOk) ||
    !(validateChannelId channelId).isOk ||
      readFails (moments (lock + 1)) (moments (lock + 2)) channelId

section Reads

variable (moments : ℕ → Moment)

theorem eval_loadChannel_call (d : ℕ) (s : CallState) :
    ((Io.loadChannel d).eval (callHandle moments) s).1 = (moments s.now).loadChannel d ∧
      ((Io.loadChannel d).eval (callHandle moments) s).2.now = s.now + 1 := by
  unfold Io.loadChannel Moment.loadChannel
  simp only [channelOp_bind, eval_call, callHandle, channelApply, World.select]
  cases ((moments s.now).choice (.selectChannel d)).sql <;> exact ⟨rfl, rfl⟩

theorem eval_optionalTombstoneRevision_call (d : ℕ) (s : CallState) :
    ((optionalTombstoneRevision d).eval (callHandle moments) s).1 =
      match (moments s.now).loadTombstoneRevision d with
      | .ok revision => .ok (some revision)
      | .error error => if error.kind = .notFound then .ok none else .error error := by
  unfold optionalTombstoneRevision Io.loadTombstoneRevision Moment.loadTombstoneRevision
  simp only [channelOp_bind, call_bind, eval_call, callHandle, channelApply, World.select]
  cases ((moments s.now).choice (.selectTombstone d)).sql with
  | some error => rfl
  | none =>
    dsimp only
    cases (moments s.now).db.tombstones[d]? with
    | none => rfl
    | some revision =>
      dsimp only [pure_eq_done, done_bind]
      cases storedRevision revision <;> rfl

/-- What follows the read of a tombstone fails only if the read does. -/
theorem eval_tombstone_isOk {α : Type} (d : ℕ) (s : CallState)
    {rest : PortResult (Option ℕ) → ChannelProgram (PortResult α)}
    (herr : ∀ error, rest (.error error) = .done (.error error))
    (hok : ∀ revision s, ((rest (.ok revision)).eval (callHandle moments) s).1.isOk = true) :
    ((optionalTombstoneRevision d >>= rest).eval (callHandle moments) s).1.isOk =
      match (moments s.now).loadTombstoneRevision d with
      | .ok _ => true
      | .error error => !(error.kind != .notFound) := by
  rw [eval_bind, eval_optionalTombstoneRevision_call]
  cases (moments s.now).loadTombstoneRevision d with
  | ok revision => exact hok _ _
  | error error =>
    dsimp only
    by_cases hkind : error.kind = .notFound
    · rw [if_pos hkind, hok, hkind]
      rfl
    · rw [if_neg hkind, herr, bne_iff_ne.2 hkind]
      rfl

theorem eval_reconcileItem_isOk (library : ChannelLibrary) (current : Bool) (d : ℕ)
    (s : CallState) :
    ((reconcileItem library current d).eval (callHandle moments) s).1.isOk =
      !readFails (moments s.now) (moments (s.now + 1)) d := by
  obtain ⟨hload, hnow⟩ := eval_loadChannel_call moments d s
  unfold readFails reconcileItem reconcileChannelLocked degradedItemLocked
  cases current with
  | true | false =>
    simp only [Bool.false_eq_true, ↓reduceIte]
    rw [eval_bind, hload]
    cases (moments s.now).loadChannel d with
    | ok stored =>
      dsimp only
      rw [eval_bind]
      rfl
    | error error =>
      dsimp only
      split_ifs with hkind
      · refine (eval_tombstone_isOk moments d _ ?_ ?_).trans ?_
        · exact fun _ => rfl
        · intro revision s
          dsimp only
          rw [eval_bind]
          rfl
        · rw [hnow]
          cases (moments (s.now + 1)).loadTombstoneRevision d <;> rfl
      · rfl

end Reads

theorem eval_reconcileOne_isOk (moments : ℕ → Moment) (library : ChannelLibrary) (current : Bool)
    (d : ℕ) (s : CallState) :
    ((reconcileItems library current (.one d)).eval (callHandle moments) s).1.isOk =
      ((validateChannelId d).isOk && !readFails (moments (s.now + 1)) (moments (s.now + 2)) d) := by
  unfold reconcileItems reconcileOne
  dsimp only
  rcases validateChannelId d with error | valid
  · rfl
  have hitem := eval_reconcileItem_isOk moments library current d
    (callHandle moments s (.lockChannel d)).2
  dsimp only
  simp only [channelOp_bind, eval_call, eval_bind]
  revert hitem
  cases ((reconcileItem library current d).eval (callHandle moments)
    (callHandle moments s (.lockChannel d)).2).1 with
  | error error => exact id
  | ok item => exact id

/-- The reconciliation of a channel returns an error exactly when it `fails`. -/
theorem call_reconcileOne_isOk (env : CycleEnvironment) (d : ℕ) (w : World) :
    (call (env.reconcile (.one d)) (reconcile env.library env.topology (.one d)) w).1.isOk =
      !env.fails d := by
  have haft (current : Bool) (s : CallState)
      {rest : PortResult (List ChannelReconciliationItem) →
        ChannelProgram (PortResult ChannelReconciliationReceipt)}
      (hrest : ∀ result s,
        ((rest result).eval (callHandle (env.reconcile (.one d))) s).1.isOk = result.isOk) :
      ((reconcileItems env.library current (.one d) >>= rest).eval
        (callHandle (env.reconcile (.one d))) s).1.isOk =
      ((validateChannelId d).isOk &&
        !readFails (env.reconcile (.one d) (s.now + 1)) (env.reconcile (.one d) (s.now + 2)) d) := by
    rw [eval_bind, hrest, eval_reconcileOne_isOk]
  unfold call reconcile CycleEnvironment.fails topologyCurrent
  dsimp only
  simp only [channelOp_bind, eval_call]
  cases env.topology with
  | false =>
    refine (haft true _ fun result s => ?_).trans ?_
    · cases result <;> rfl
    · simp only [callHandle, channelApply, Bool.false_and, Bool.false_or, Bool.not_or, Bool.not_not]
      rfl
  | true =>
    have hproj : ∀ s, (callHandle (env.reconcile (.one d)) s .project).1 =
        ((env.reconcile (.one d) s.now).choice .project).topology := fun _ => rfl
    simp only [if_true, channelOp, perform, call_bind, done_bind, eval_call]
    rw [hproj]
    have hgate : (callHandle (env.reconcile (.one d)) ⟨w, 0⟩ .writeGate).2.now = 1 := rfl
    rw [hgate]
    rcases ((env.reconcile (.one d) 1).choice .project).topology with error | current
    · rfl
    refine (haft current _ fun result s => ?_).trans ?_
    · cases result <;> rfl
    · simp only [callHandle, channelApply, Bool.true_and, Bool.not_or, Bool.not_not]
      rfl

/-! ## The ports of a cycle -/

namespace CycleEnvironment

variable {env : CycleEnvironment}

/-- No lock blocks a fence. -/
def FencesSucceed (env : CycleEnvironment) : Prop := ∀ channelIds, Unblocked (env.fence channelIds)

theorem handle_fenceUntrusted (hfnc : env.FencesSucceed) (s : CycleState) (ids : List ℕ) :
    ∃ world, env.handle s (.fenceUntrusted ids) = (.ok (), { s with world }) ∧
      ∀ c, world.runtimes[c]? = if c ∈ ids then none else s.world.runtimes[c]? := by
  obtain ⟨hok, hruns⟩ := call_fenceUntrustedChannels (hfnc ids) ids s.world
  exact ⟨_, Prod.ext hok rfl, hruns⟩

theorem eval_failClosed (hfnc : env.FencesSucceed) (desired : Option DesiredRuntimeSnapshot)
    (s : CycleState) :
    ∃ n world, (failClosed desired).eval env.handle s = (.ok n, { s with world }) ∧
      ∀ c : ℕ, world.runtimes[c]? = none := by
  unfold failClosed
  simp only [cycleOp_bind, eval_call]
  obtain ⟨world, hworld, hruns⟩ := handle_fenceUntrusted hfnc s
    (idSet (s.world.runtimes.keys ++ (desired.map keys).getD []))
  have hids : env.handle s .runtimeChannelIds = (s.world.runtimes.keys, s) := rfl
  rw [hids]
  dsimp only
  rw [hworld]
  refine ⟨_, world, rfl, fun c => ?_⟩
  rw [hruns]
  split_ifs with hc
  · rfl
  · by_contra hne
    refine hc (mem_idSet.2 (List.mem_append_left _ (mem_keys.2 (mem_iff_getElem?.2 ?_))))
    exact Option.ne_none_iff_exists'.1 hne

theorem eval_failWith {α : Type} (hfnc : env.FencesSucceed)
    (desired : Option DesiredRuntimeSnapshot) (error : PortError) (s : CycleState) :
    ∃ world, (failWith desired error : CycleProgram (PortResult α)).eval env.handle s =
      (.error error, { s with world, applied := none }) ∧ ∀ c : ℕ, world.runtimes[c]? = none := by
  obtain ⟨n, world, heval, hruns⟩ :=
    eval_failClosed hfnc desired { s with applied := none }
  unfold failWith clearApplied
  simp only [cycleOp_bind, eval_call, eval_bind]
  have hclear : env.handle s (.setApplied none) = ((), { s with applied := none }) := rfl
  rw [hclear]
  dsimp only
  rw [heval]
  exact ⟨world, rfl, hruns⟩

end CycleEnvironment

/-! ## Progress of a repair -/

/-- A reconciliation of the cycle succeeded for the channel: its receipt has an item for it that
    does not ask for another one. -/
def CycleState.Reconciled (s : CycleState) (channelId : ℕ) : Prop :=
  ∃ receipt ∈ s.receipts, ∃ item ∈ receipt.items, item.channelId = channelId ∧
    item.runtimeProjection.reconciliationRequired = false

/-- The repair of the channels `done`: the others keep their runtimes, and those of `done` that
    still have one were reconciled. -/
structure Repaired (s after : CycleState) (done : List ℕ) : Prop where
  frame : ∀ c ∉ done, after.world.runtimes[c]? = s.world.runtimes[c]?
  settled : ∀ c ∈ done, after.world.runtimes[c]? ≠ none → after.Reconciled c
  kept : ∀ c, s.Reconciled c → after.Reconciled c
  fresh : ∀ c, after.Reconciled c → s.Reconciled c ∨ c ∈ done

theorem Repaired.cons {s mid after : CycleState} {k : ℕ} {done : List ℕ} (h : Repaired s mid [k])
    (h' : Repaired mid after done) (hk : k ∉ done) : Repaired s after (k :: done) where
  frame c hc := by
    rw [List.mem_cons, not_or] at hc
    rw [h'.frame c hc.2, h.frame c (by rw [List.mem_singleton]; exact hc.1)]
  settled c hc hne := by
    rcases List.mem_cons.1 hc with rfl | hc
    · rw [h'.frame c hk] at hne
      exact h'.kept c (h.settled c (List.mem_singleton_self c) hne)
    · exact h'.settled c hc hne
  kept c hc := h'.kept c (h.kept c hc)
  fresh c hc := by
    rcases h'.fresh c hc with hc | hc
    · rcases h.fresh c hc with hc | hc
      · exact .inl hc
      · exact .inr (List.mem_cons.2 (.inl (List.mem_singleton.1 hc)))
    · exact .inr (List.mem_cons_of_mem _ hc)

namespace CycleEnvironment

variable {env : CycleEnvironment}

/-- What the reconciliation of one channel answers and leaves. -/
theorem handle_reconcileOne (env : CycleEnvironment) (s : CycleState) (k : ℕ) :
    (∀ c ≠ k, (env.handle s (.reconcile (.one k))).2.world.runtimes[c]? = s.world.runtimes[c]?) ∧
    ((∃ error, (env.handle s (.reconcile (.one k))).1 = .error error ∧ env.fails k = true ∧
        (env.handle s (.reconcile (.one k))).2.receipts = s.receipts) ∨
      ∃ receipt item, (env.handle s (.reconcile (.one k))).1 = .ok receipt ∧
        env.fails k = false ∧ receipt.items = [item] ∧ item.channelId = k ∧
        (env.handle s (.reconcile (.one k))).2.receipts = s.receipts ++ [receipt]) := by
  refine ⟨fun c hc => ?_, ?_⟩
  · exact runtimes_call (confined_reconcileOne env.topology k).calls _ s.world hc
  · have hok := call_reconcileOne_isOk env k s.world
    have hitem : ∀ receipt,
        (call (env.reconcile (.one k)) (Io.reconcile env.library env.topology (.one k)) s.world).1 =
          .ok receipt → ∃ item, receipt.items = [item] ∧ item.channelId = k := by
      unfold call
      exact (confined_reconcileOne env.topology k).always.eval _
    unfold handle
    dsimp only
    cases hres :
      (call (env.reconcile (.one k)) (Io.reconcile env.library env.topology (.one k)) s.world).1 with
    | error error =>
      rw [hres] at hok
      exact .inl ⟨error, rfl, by simpa [Except.isOk, Except.toBool] using hok, List.append_nil _⟩
    | ok receipt =>
      rw [hres] at hok
      obtain ⟨item, hitems, hid⟩ := hitem receipt hres
      exact .inr ⟨receipt, item, rfl, by simpa [Except.isOk, Except.toBool] using hok, hitems, hid, rfl⟩

theorem repaired_receipts {s after : CycleState} {k : ℕ}
    {receipts : List ChannelReconciliationReceipt}
    (hfrm : ∀ c ≠ k, after.world.runtimes[c]? = s.world.runtimes[c]?)
    (hset : after.world.runtimes[k]? ≠ none → after.Reconciled k)
    (hrcpts : after.receipts = s.receipts ++ receipts)
    (hitems : ∀ receipt ∈ receipts, ∀ item ∈ receipt.items, item.channelId = k) :
    Repaired s after [k] where
  frame c hc := hfrm c fun h => hc (List.mem_singleton.2 h)
  settled c hc := by
    rw [List.mem_singleton.1 hc]
    exact hset
  kept := by
    rintro c ⟨receipt, hmem, hitem⟩
    exact ⟨receipt, hrcpts ▸ List.mem_append_left _ hmem, hitem⟩
  fresh := by
    rintro c ⟨receipt, hmem, item, hitem, rfl, hproj⟩
    rw [hrcpts] at hmem
    rcases List.mem_append.1 hmem with hmem | hmem
    · exact .inl ⟨receipt, hmem, item, hitem, rfl, hproj⟩
    · exact .inr (List.mem_singleton.2 (hitems receipt hmem item hitem))

theorem repaired_one (hfnc : env.FencesSucceed) (s : CycleState) (k : ℕ) (rest : List ℕ)
    (converged : Bool) :
    (∃ error after, env.fails k = true ∧
        (reconcileTargets (k :: rest) converged).eval env.handle s = (.error error, after) ∧
        Repaired s after [k]) ∨
      ∃ mid converged', env.fails k = false ∧
        (reconcileTargets (k :: rest) converged).eval env.handle s =
          (reconcileTargets rest converged').eval env.handle mid ∧ Repaired s mid [k] := by
  rw [reconcileTargets, clearApplied]
  simp only [cycleOp_bind, eval_call]
  obtain ⟨hfrm, hcs⟩ := handle_reconcileOne env s k
  generalize hout : env.handle s (.reconcile (.one k)) = out at hfrm hcs
  obtain ⟨result, mid⟩ := out
  -- a channel that was fenced after its reconciliation is repaired
  have hfenced : ∀ (after : CycleState), (∀ c, after.world.runtimes[c]? =
      if c ∈ [k] then none else mid.world.runtimes[c]?) → ∀ receipts,
        after.receipts = s.receipts ++ receipts →
        (∀ receipt ∈ receipts, ∀ item ∈ receipt.items, item.channelId = k) →
          Repaired s after [k] := by
    intro after haft receipts
    refine repaired_receipts (fun c hc => ?_) fun hne => ?_
    · rw [haft, if_neg (by rwa [List.mem_singleton])]
      exact hfrm c hc
    · rw [haft, if_pos (List.mem_singleton_self k)] at hne
      exact absurd rfl hne
  rcases hcs with ⟨error, hres, hfl, hrcpts⟩ |
    ⟨receipt, item, hres, hfl, hitems, hid, hrcpts⟩
  · dsimp only at hres
    subst hres
    obtain ⟨world, hworld, hruns⟩ :=
      handle_fenceUntrusted hfnc { mid with applied := none } [k]
    have hclear : env.handle mid (.setApplied none) = ((), { mid with applied := none }) := rfl
    refine .inl ⟨error, { mid with applied := none, world }, hfl, ?_, ?_⟩
    · dsimp only
      simp only [eval_call, hclear, hworld]
      rfl
    · exact hfenced _ hruns [] (by rw [List.append_nil]; exact hrcpts) nofun
  · dsimp only at hres
    subst hres
    have hitem : ∀ r ∈ [receipt], ∀ i ∈ r.items, i.channelId = k := by
      intro r hr i hi
      rw [List.mem_singleton.1 hr, hitems] at hi
      rw [List.mem_singleton.1 hi, hid]
    dsimp only
    by_cases hreq : receipt.reconciliationRequired = true
    · obtain ⟨world, hworld, hruns⟩ := handle_fenceUntrusted hfnc mid [k]
      refine .inr ⟨{ mid with world }, false, hfl, ?_, ?_⟩
      · rw [if_pos hreq]
        simp only [eval_call, hworld]
      · exact hfenced _ hruns _ hrcpts hitem
    · refine .inr ⟨mid, converged, hfl, by rw [if_neg hreq], ?_⟩
      have hproj : item.runtimeProjection.reconciliationRequired = false := by
        rw [ChannelReconciliationReceipt.reconciliationRequired, hitems] at hreq
        simpa using hreq
      refine repaired_receipts hfrm (fun _ => ?_) hrcpts hitem
      refine ⟨receipt, ?_, item, ?_, hid, hproj⟩
      · rw [hrcpts]
        exact List.mem_append_right _ (List.mem_singleton_self _)
      · rw [hitems]
        exact List.mem_singleton_self _

/-- The repair of the targets goes through all of them, or up to the first that fails. -/
theorem repaired_targets (hfnc : env.FencesSucceed) {targets : List ℕ} (hnodup : targets.Nodup)
    (converged : Bool) (s : CycleState) :
    (∃ converged' after, (∀ k ∈ targets, env.fails k = false) ∧
        (reconcileTargets targets converged).eval env.handle s = (.ok converged', after) ∧
        Repaired s after targets) ∨
      ∃ error after before k rest, targets = before ++ k :: rest ∧
        (∀ b ∈ before, env.fails b = false) ∧ env.fails k = true ∧
        (reconcileTargets targets converged).eval env.handle s = (.error error, after) ∧
        Repaired s after (before ++ [k]) := by
  induction targets generalizing converged s with
  | nil =>
    refine .inl ⟨converged, s, nofun, rfl, ?_⟩
    exact ⟨fun _ _ => rfl, nofun, fun _ h => h, fun _ h => .inl h⟩
  | cons k rest ih =>
    obtain ⟨hk, hrest⟩ := List.nodup_cons.1 hnodup
    rcases repaired_one hfnc s k rest converged with
      ⟨error, after, hfl, heval, hrep⟩ | ⟨mid, converged', hfl, heval, hrep⟩
    · exact .inr ⟨error, after, [], k, rest, rfl, nofun, hfl, heval, hrep⟩
    rw [heval]
    rcases ih hrest converged' mid with ⟨converged'', after, hall, heval', hrep'⟩ |
      ⟨error, after, before, k', rest', hsplit, hbef, hfl', heval', hrep'⟩
    · refine .inl ⟨converged'', after, ?_, heval', hrep.cons hrep' hk⟩
      exact List.forall_mem_cons.2 ⟨hfl, hall⟩
    refine .inr ⟨error, after, k :: before, k', rest', ?_, ?_, hfl', heval', ?_⟩
    · rw [hsplit, List.cons_append]
    · exact List.forall_mem_cons.2 ⟨hfl, hbef⟩
    · refine hrep.cons hrep' fun hmem => hk ?_
      rw [hsplit]
      rcases List.mem_append.1 hmem with hmem | hmem
      · exact List.mem_append_left _ hmem
      · rw [List.mem_singleton.1 hmem]
        exact List.mem_append_right _ (List.mem_cons_self ..)

/-- The full pass fences everything, or leaves only runtimes it reconciled. -/
theorem eval_reconcileForced (hfnc : env.FencesSucceed) (desired : DesiredRuntimeSnapshot)
    (s : CycleState) :
    ∀ c : ℕ, ((reconcileForced desired).eval env.handle s).2.world.runtimes[c]? ≠ none →
      ((reconcileForced desired).eval env.handle s).2.Reconciled c := by
  intro c
  unfold reconcileForced
  simp only [cycleOp_bind, eval_call]
  have hitems : ∀ receipt, (env.handle s (.reconcile .all)).1 = .ok receipt →
      (env.handle s (.reconcile .all)).2.world.runtimes[c]? ≠ none →
        ∃ item ∈ receipt.items, item.channelId = c := fun receipt hok hne =>
    call_reconcileAll (env.reconcile .all) env.topology s.world hok hne
  have hrcpts : (env.handle s (.reconcile .all)).2.receipts =
      s.receipts ++ (env.handle s (.reconcile .all)).1.toOption.toList := rfl
  generalize env.handle s (.reconcile .all) = out at hitems hrcpts
  obtain ⟨result, mid⟩ := out
  cases result with
  | error error =>
    obtain ⟨world, heval, hnone⟩ := eval_failWith hfnc (some desired) error mid
    dsimp only
    rw [heval]
    exact fun h => absurd (hnone c) h
  | ok receipt =>
    dsimp only
    by_cases hreq : receipt.reconciliationRequired = true
    · obtain ⟨n, world, heval, hnone⟩ := eval_failClosed hfnc (some desired) mid
      rw [hreq, Bool.not_true, if_neg nofun, eval_bind, heval]
      exact fun h => absurd (hnone c) h
    rw [Bool.not_eq_true] at hreq
    rw [hreq, Bool.not_false, if_pos rfl]
    intro hne
    obtain ⟨item, hitem, hid⟩ := hitems receipt rfl hne
    have hmem : receipt ∈ mid.receipts := by
      rw [show mid.receipts = _ from hrcpts]
      exact List.mem_append_right _ (List.mem_singleton_self _)
    have hproj := List.any_eq_false.1 hreq item hitem
    exact ⟨receipt, hmem, item, hitem, hid, Bool.not_eq_true _ ▸ hproj⟩

theorem eval_confirmCycle (hfnc : env.FencesSucceed) (desired : DesiredRuntimeSnapshot) (n : ℕ)
    (converged : Bool) (s : CycleState) :
    ((confirmCycle desired n converged).eval env.handle s).2.receipts = s.receipts ∧
      ∀ c : ℕ, ((confirmCycle desired n converged).eval env.handle s).2.world.runtimes[c]? ≠ none →
        s.world.runtimes[c]? ≠ none := by
  unfold confirmCycle clearApplied
  simp only [cycleOp_bind, eval_call]
  have hload : (env.handle s .loadDesired).2 = { s with loads := s.loads + 1 } := rfl
  rw [hload]
  cases (env.handle s .loadDesired).1 with
  | error error =>
    obtain ⟨world, heval, hnone⟩ :=
      eval_failWith hfnc (some desired) error { s with loads := s.loads + 1 }
    dsimp only
    rw [heval]
    exact ⟨rfl, fun c h => absurd (hnone c) h⟩
  | ok latest =>
    dsimp only
    split_ifs
    · obtain ⟨world, hworld, hruns⟩ := handle_fenceUntrusted hfnc
        { s with loads := s.loads + 1 } (changedChannelIds desired latest)
      simp only [eval_call, hworld]
      refine ⟨rfl, fun c h => ?_⟩
      have hc : world.runtimes[c]? ≠ none := h
      rw [hruns] at hc
      split_ifs at hc
      · exact absurd rfl hc
      · exact hc
    all_goals exact ⟨rfl, fun _ h => h⟩

/-! ## Failing closed -/

/-- The desired row of the channel that the cycle reads is the one applied last. -/
def Unchanged (env : CycleEnvironment) (s : CycleState) (channelId : ℕ) : Prop :=
  ∃ desired applied, env.desired 0 >>= desiredRuntimeSnapshot = .ok desired ∧
    s.applied = some applied ∧ applied[channelId]? = desired[channelId]?

/-- The cycle converges, or it leaves no runtime whose desired row changed and that it did not
    reconcile. -/
def FailsClosed (env : CycleEnvironment) (s : CycleState) : Prop :=
  (∃ receipt, (env.cycle s).1 = .ok receipt ∧ receipt.converged = true) ∨
    ∀ c, (env.cycle s).2.world.runtimes[c]? ≠ none →
      env.Unchanged s c ∨ (env.cycle s).2.Reconciled c

/-- The cycle reconciles its targets one by one, the reconciliation of a target `k` fails, and a
    channel above `k` whose row changed has a runtime. -/
def Exposed (env : CycleEnvironment) (s : CycleState) : Prop :=
  ∃ desired applied, env.desired 0 >>= desiredRuntimeSnapshot = .ok desired ∧
    env.projection = .ok true ∧ s.applied = some applied ∧
    ∃ k ∈ reconciliationTargets (some applied) desired (idSet s.world.runtimes.keys),
      env.fails k = true ∧
      ∃ c, k < c ∧ applied[c]? ≠ desired[c]? ∧ s.world.runtimes[c]? ≠ none

end CycleEnvironment

theorem mem_changedChannelIds {before after : DesiredRuntimeSnapshot} {c : ℕ} :
    c ∈ changedChannelIds before after ↔ before[c]? ≠ after[c]? := by
  rw [changedChannelIds, List.mem_filter, mem_idSet, List.mem_append, decide_eq_true_eq]
  refine ⟨fun h => h.2, fun h => ⟨?_, h⟩⟩
  by_contra hnone
  rw [not_or, mem_keys, mem_keys] at hnone
  rw [getElem?_eq_none hnone.1, getElem?_eq_none hnone.2] at h
  exact h rfl

variable {desired : DesiredRuntimeSnapshot}

theorem changed_mem_targets {applied : DesiredRuntimeSnapshot} {runtimeIds : List ℕ} {c : ℕ}
    (h : applied[c]? ≠ desired[c]?) :
    c ∈ reconciliationTargets (some applied) desired runtimeIds := by
  refine mem_idSet.2 (List.mem_append_left _ (List.mem_append_left _ ?_))
  exact mem_changedChannelIds.2 h

theorem targets_sorted (applied : Option DesiredRuntimeSnapshot) (desired : DesiredRuntimeSnapshot)
    (runtimeIds : List ℕ) : (reconciliationTargets applied desired runtimeIds).Pairwise (· < ·) :=
  idSet_sorted _

namespace CycleEnvironment

variable {env : CycleEnvironment} {s : CycleState}

theorem cycle_of_current (hdes : env.desired 0 >>= desiredRuntimeSnapshot = .ok desired)
    (hproj : env.projection = .ok true) :
    env.cycle s =
      let targets := reconciliationTargets s.applied desired (idSet s.world.runtimes.keys)
      let out := (repair s.applied.isNone desired targets).eval env.handle
        { s with loads := 1, receipts := [] }
      (conclude desired targets.length out.1).eval env.handle out.2 := by
  unfold cycle reconcileOnce
  simp only [cycleOp_bind, eval_call, handle, hdes, hproj, eval_bind]

/-- A cycle that cannot come to its repair leaves no runtime. -/
theorem fenced_of_not_current (hfnc : env.FencesSucceed)
    (h : ∀ desired, env.desired 0 >>= desiredRuntimeSnapshot = .ok desired →
      env.projection ≠ .ok true) (c : ℕ) : (env.cycle s).2.world.runtimes[c]? = none := by
  unfold cycle reconcileOnce
  simp only [cycleOp_bind, eval_call, handle]
  cases hdes : env.desired 0 >>= desiredRuntimeSnapshot with
  | error error =>
    obtain ⟨world, heval, hnone⟩ := eval_failWith hfnc none error
      { s with loads := 1, receipts := [] }
    dsimp only
    rw [heval]
    exact hnone c
  | ok desired =>
    dsimp only
    rw [eval_call]
    simp only [handle]
    cases hproj : env.projection with
    | error error =>
      obtain ⟨world, heval, hnone⟩ := eval_failWith hfnc (some desired) error
        { s with loads := 1, receipts := [] }
      dsimp only
      rw [heval]
      exact hnone c
    | ok current =>
      cases current with
      | true => exact absurd hproj (h desired hdes)
      | false =>
        obtain ⟨n, world, heval, hnone⟩ := eval_failClosed hfnc (some desired)
          { s with loads := 1, receipts := [] }
        dsimp only
        rw [eval_bind, heval]
        exact hnone c

/-- The end of a cycle keeps what the repair established of the runtimes. -/
theorem conclude_keeps (hfnc : env.FencesSucceed) {n : ℕ} {result : PortResult Bool}
    {mid : CycleState} {P : ℕ → Prop}
    (h : ∀ c : ℕ, mid.world.runtimes[c]? ≠ none → P c ∨ mid.Reconciled c) {c : ℕ}
    (hc : ((conclude desired n result).eval env.handle mid).2.world.runtimes[c]? ≠ none) :
    P c ∨ ((conclude desired n result).eval env.handle mid).2.Reconciled c := by
  rcases result with error | converged
  · exact h c hc
  obtain ⟨hrcpts, hruns⟩ := eval_confirmCycle hfnc desired n converged mid
  refine (h c (hruns c hc)).imp_right ?_
  rintro ⟨receipt, hmem, hitem⟩
  exact ⟨receipt, hrcpts ▸ hmem, hitem⟩

/-- A cycle that is not exposed leaves only runtimes whose row is unchanged or that it
    reconciled. -/
theorem settled_of_not_exposed (hfnc : env.FencesSucceed) (h : ¬env.Exposed s) {c : ℕ}
    (hc : (env.cycle s).2.world.runtimes[c]? ≠ none) :
    env.Unchanged s c ∨ (env.cycle s).2.Reconciled c := by
  by_cases hcur : ∃ desired, env.desired 0 >>= desiredRuntimeSnapshot = .ok desired ∧
      env.projection = .ok true
  · obtain ⟨desired, hdes, hproj⟩ := hcur
    rw [cycle_of_current hdes hproj] at hc ⊢
    refine conclude_keeps hfnc ?_ hc
    clear hc c
    rcases happl : s.applied with _ | applied
    · exact fun c hne => .inr (eval_reconcileForced hfnc desired _ c hne)
    intro c
    have hsort := targets_sorted (some applied) desired (idSet s.world.runtimes.keys)
    have hchg : c ∉ reconciliationTargets (some applied) desired (idSet s.world.runtimes.keys) →
        env.Unchanged s c := fun hmem => by
      refine ⟨desired, applied, hdes, happl, ?_⟩
      by_contra hne
      exact hmem (changed_mem_targets hne)
    generalize htargets :
      reconciliationTargets (some applied) desired (idSet s.world.runtimes.keys) = targets
      at hsort hchg ⊢
    unfold repair
    rw [Option.isNone_some, if_neg nofun]
    rcases repaired_targets hfnc (hsort.imp fun h => h.ne) true
      { s with loads := 1, receipts := [], applied := some applied } with
      ⟨converged, after, -, heval, hrep⟩ |
      ⟨error, after, before, k, rest, hsplit, -, hfl, heval, hrep⟩
    · rw [heval]
      intro hne
      by_cases hmem : c ∈ targets
      · exact .inr (hrep.settled c hmem hne)
      · exact .inl (hchg hmem)
    · rw [heval]
      intro hne
      by_cases hmem : c ∈ before ++ [k]
      · exact .inr (hrep.settled c hmem hne)
      -- the runtime is the one before the cycle, so its row has not changed
      have hbef : s.world.runtimes[c]? ≠ none := by
        rw [show after.world.runtimes[c]? = _ from hrep.frame c hmem] at hne
        exact hne
      refine .inl ?_
      by_contra hnot
      refine h ⟨desired, applied, hdes, hproj, happl, k, ?_, hfl, c, ?_, ?_,
        hbef⟩
      · rw [htargets, hsplit]
        exact List.mem_append_right _ (List.mem_cons_self ..)
      · have hc : c ∈ targets := by
          by_contra hc
          exact hnot (hchg hc)
        rw [hsplit] at hc hsort
        have hrest : c ∈ rest := by
          rcases List.mem_append.1 hc with hc | hc
          · exact absurd (List.mem_append_left _ hc) hmem
          · rcases List.mem_cons.1 hc with rfl | hc
            · exact absurd (List.mem_append_right _ (List.mem_singleton_self _)) hmem
            · exact hc
        exact (List.pairwise_cons.1 (List.pairwise_append.1 hsort).2.1).1 c hrest
      · intro heq
        exact hnot ⟨desired, applied, hdes, happl, heq⟩
  · refine absurd (fenced_of_not_current hfnc ?_ c) hc
    exact fun desired hdes hproj => hcur ⟨desired, hdes, hproj⟩

/-- An exposed cycle ends with an error and leaves the runtime of a changed row. -/
theorem exposed_leaves (hfnc : env.FencesSucceed) (h : env.Exposed s) :
    (∃ error, (env.cycle s).1 = .error error) ∧
      ∃ c : ℕ, (env.cycle s).2.world.runtimes[c]? ≠ none ∧ ¬env.Unchanged s c ∧
        ¬(env.cycle s).2.Reconciled c := by
  obtain ⟨desired, applied, hdes, hproj, happl, k, hk, hfl, c, hlt, hchg,
    hruntime⟩ := h
  rw [cycle_of_current hdes hproj, happl]
  dsimp only
  have hsort := targets_sorted (some applied) desired (idSet s.world.runtimes.keys)
  generalize reconciliationTargets (some applied) desired (idSet s.world.runtimes.keys) = targets
    at hk hsort ⊢
  unfold repair
  rw [Option.isNone_some, if_neg nofun]
  rcases repaired_targets hfnc (hsort.imp fun h => h.ne) true
    { s with loads := 1, receipts := [], applied := some applied } with
    ⟨converged, after, hall, -, -⟩ |
    ⟨error, after, before, k', rest, hsplit, hbef, hfl', heval, hrep⟩
  · rw [hall k hk] at hfl
    cases hfl
  · rw [heval]
    -- the first target that fails is at most `k`, so the cycle did not come to `c`
    have hdone : ∀ d ∈ before ++ [k'], d ≤ k := by
      rw [hsplit] at hk hsort
      obtain ⟨-, hright, hcross⟩ := List.pairwise_append.1 hsort
      have hk' : k' ≤ k := by
        rcases List.mem_append.1 hk with hk | hk
        · rw [hbef k hk] at hfl
          cases hfl
        · rcases List.mem_cons.1 hk with rfl | hk
          · exact le_rfl
          · exact ((List.pairwise_cons.1 hright).1 k hk).le
      intro d hd
      rcases List.mem_append.1 hd with hd | hd
      · exact (hcross d hd k' (List.mem_cons_self ..)).le.trans hk'
      · rw [List.mem_singleton.1 hd]
        exact hk'
    have hc : c ∉ before ++ [k'] := fun hmem => absurd (hdone c hmem) (not_le.2 hlt)
    refine ⟨⟨error, rfl⟩, c, ?_, ?_, ?_⟩
    · show after.world.runtimes[c]? ≠ none
      rw [hrep.frame c hc]
      exact hruntime
    · rintro ⟨desired', applied', hdes', happl', heq⟩
      cases hdes.symm.trans hdes'
      cases happl.symm.trans happl'
      exact hchg heq
    · intro hrec
      rcases hrep.fresh c hrec with ⟨receipt, hmem, -⟩ | hmem
      · cases hmem
      · exact hc hmem

theorem not_failsClosed_of_exposed (hfnc : env.FencesSucceed) (h : env.Exposed s) :
    ¬env.FailsClosed s := by
  obtain ⟨⟨error, herr⟩, c, hc, hchg, hrec⟩ := exposed_leaves hfnc h
  rintro (⟨receipt, hok, -⟩ | hclosed)
  · rw [herr] at hok
    cases hok
  · exact (hclosed c hc).elim hchg hrec

/-- A cycle whose fences succeed fails closed, unless the reconciliation of a target fails below a
    changed channel that has a runtime. -/
theorem failsClosed_iff (hfence : env.FencesSucceed) : env.FailsClosed s ↔ ¬env.Exposed s := by
  refine ⟨fun hclosed hexposed => not_failsClosed_of_exposed hfence hexposed hclosed, fun h => ?_⟩
  exact .inr fun c hc => settled_of_not_exposed hfence h hc

/-! ### A target whose row cannot be read -/

/-- The rows of two channels at a revision; the second may be disabled. -/
def pumpAndValve (revision : ℕ) (valve : Bool) : Database where
  channels := (∅ : ExtTreeMap ℕ ChannelRow)
    |>.insert 1 ⟨"pump", some "virtual", true, none, revision⟩
    |>.insert 2 ⟨"valve", some "virtual", valve, none, revision⟩
  tombstones := ∅
  points _ := []
  routes _ := 0

/-- A cycle after both rows were written and the valve was disabled; the row of the pump cannot be
    read, neither when the pump is reconciled nor by the full pass. -/
def unreadablePump : CycleEnvironment where
  library := ⟨fun _ => .ok ⟨none, .empty, {}⟩, fun _ => .ok "", some, fun _ => true, id⟩
  topology := false
  desired _ := .ok (pumpAndValve 2 false)
  projection := .ok true
  reconcile scope _ := ⟨pumpAndValve 2 false, fun _ =>
    if scope = .one 1 ∨ scope = .all then { sql := some .unavailable } else {}⟩
  fence _ _ := ⟨pumpAndValve 2 false, fun _ => {}⟩

/-- Both channels run. -/
def pumpAndValveRunning (applied : Option DesiredRuntimeSnapshot) : CycleState where
  world :=
    { db := pumpAndValve 1 true
      runtimes := (∅ : ExtTreeMap ℕ RuntimeSnapshot)
        |>.insert 1 ⟨⟨1, "pump", none, "virtual", true, .empty, {}⟩, some 1, fun _ => []⟩
        |>.insert 2 ⟨⟨2, "valve", none, "virtual", true, .empty, {}⟩, some 1, fun _ => []⟩
      gate := .read []
      channelLocks := fun _ => none
      allocationLock := none
      seen := fun _ => none }
  applied := applied
  loads := 0
  receipts := []

theorem unreadablePump_fencesSucceed : unreadablePump.FencesSucceed := fun _ _ _ => rfl

/-- The cycle ends with an error, and the valve that was disabled keeps its runtime. -/
theorem unreadablePump_not_failsClosed :
    ¬unreadablePump.FailsClosed
      (pumpAndValveRunning (desiredRuntimeSnapshot (pumpAndValve 1 true)).toOption) := by
  refine not_failsClosed_of_exposed unreadablePump_fencesSucceed
    ⟨_, _, rfl, rfl, rfl, 1, changed_mem_targets ?_, ?_, 2, by decide, ?_, ?_⟩
  · decide +kernel
  · decide +kernel
  · decide +kernel
  · have hvalve : (pumpAndValveRunning none).world.runtimes[2]? ≠ none := by decide +kernel
    exact hvalve

/-- Before a snapshot was applied the full pass meets the same failure: the cycle ends with an error
    and has fenced both channels. -/
theorem unreadablePump_forced_failsClosed :
    (unreadablePump.cycle (pumpAndValveRunning none)).1.toOption = none ∧
      (unreadablePump.cycle (pumpAndValveRunning none)).2.world.runtimes.keys = [] ∧
      unreadablePump.FailsClosed (pumpAndValveRunning none) := by
  refine ⟨by decide +kernel, by decide +kernel, ?_⟩
  refine (failsClosed_iff unreadablePump_fencesSucceed).2 ?_
  rintro ⟨desired, applied, -, -, happlied, -⟩
  cases happlied

end CycleEnvironment

end AetherEdge.Io
