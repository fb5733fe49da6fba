import AetherEdge.Io.RuntimeProjection

/-!
# What the mutations report

Every mutation of `ChannelMutator` holds the projection gate with others and the lock of its
channel, and its receipt is a true report of that channel's runtime (`triple_mutate`).
-/

namespace AetherEdge.Io

section Mutations

variable (library : ChannelLibrary)

/-- The receipt of a mutation, if there is one, is a true report. -/
def TrueMutation (t : ℕ) (result : PortResult ChannelMutationReceipt) (w : World) : Prop :=
  ∀ receipt, result = .ok receipt →
    TrueReport library t w receipt.channelId (some receipt.resultingRevision)
      receipt.runtimeProjection

variable {library} {t d : ℕ} {F : World → Prop}

theorem triple_mutation_error {P : World → Prop} (error : PortError) :
    ChannelTriple t P (.done (.error error)) (TrueMutation library t) :=
  triple_done fun _ _ _ h => nomatch h

theorem triple_observed (hF : Stable t (.on d) F) (howns : ∀ w, F w → w.Owns t d)
    {initial : StoredChannel} (hid : initial.channelId = d) (kind : ChannelMutationKind)
    (projection : ChannelRuntimeProjection) :
    ChannelTriple t
      (fun w => F w ∧ Projected library d initial.revision projection w.runtimes[d]? w.db)
      (observed kind initial projection) (TrueMutation library t) := by
  refine (triple_observeReconcile hF howns hid projection).bind fun result => ?_
  refine triple_done fun w hw => ?_
  rintro _ ⟨⟩
  rw [hid]
  exact hw

theorem triple_restored (hF : Stable t (.on d) F) (howns : ∀ w, F w → w.Owns t d)
    {stored : StoredChannel} (hid : stored.channelId = d) (error : PortError) :
    ChannelTriple t F (restored library stored error) (TrueMutation library t) :=
  (triple_restoreAuthoritativeRuntime hF howns hid).bind fun _ => triple_mutation_error error

/-- A task that holds the gate with others owns the channel whose lock it also holds. -/
def Locked (t d : ℕ) (w : World) : Prop := w.Reads t ∧ w.channelLocks d = some t

theorem locked_owns (w : World) (h : Locked t d w) : w.Owns t d := .inr h

theorem stable_locked {scope : Scope} (hunlocks : scope.unlocks = none) :
    Stable t scope (Locked t d) := by
  intro w w' hkp h
  exact ⟨hkp.reads h.1, hkp.locks d (by rw [hunlocks]; exact nofun) h.2⟩

theorem locked_on : Stable t (.on d) (Locked t d) := stable_locked rfl

theorem stable_reads {scope : Scope} : Stable t scope (World.Reads t) :=
  fun _ _ hkp h => hkp.reads h

theorem triple_lockChannel :
    ChannelTriple t (World.Reads t) (channelOp (.lockChannel d)) fun _ => Locked t d := by
  refine triple_op stable_reads (fun w _ => ⟨nofun, nofun⟩) fun w choice hw _ hkp => ?_
  exact ⟨hkp.reads hw, Function.update_self ..⟩

theorem triple_createLocked (definition : ChannelDefinition) :
    ChannelTriple t (Locked t d) (createLocked library d definition) (TrueMutation library t) := by
  have hnone := (locked_on (t := t) (d := d)).rely.vacant locked_owns rfl
  refine (triple_getChannel locked_on.rely).bind fun present => ?_
  cases present with
  | true => exact triple_mutation_error _
  | false =>
    rcases hcfg : definitionToConfig library d definition with error | config
    · exact triple_mutation_error _
    have hid : config.id = d := id_definitionToConfig library hcfg
    dsimp only
    rcases validateRuntimeConfig library config with error | valid
    · exact triple_mutation_error _
    dsimp only
    rcases encodeConfig library config with error | configJson
    · exact triple_mutation_error _
    refine ((triple_keep hnone rfl rfl).pre fun w h => ⟨h.1, vacant_of_absent h.2⟩).bind
      fun inserted => ?_
    rcases inserted with error | revision
    · exact triple_mutation_error _
    dsimp only
    rcases storedRevision revision with error | revision
    · exact triple_mutation_error _
    -- the channel had no runtime when its lock was taken
    have hproj : ChannelTriple t (fun w => Locked t d w ∧ w.runtimes[d]? = none)
        (projectCreated library d config.enabled revision) fun projection w =>
          Locked t d w ∧ Projected library d revision projection w.runtimes[d]? w.db := by
      cases config.enabled with
      | true => exact triple_projectRevision locked_on locked_owns
      | false => exact triple_done fun _ h => h
    have hcomm :
        (StoredChannel.fromCommittedConfig config configJson revision).channelId = d := hid
    exact hproj.bind fun projection =>
      triple_observed locked_on locked_owns hcomm .create projection

theorem triple_create (definition : ChannelDefinition) :
    ChannelTriple t (World.Reads t) (create library definition) (TrueMutation library t) := by
  unfold create
  cases definition.requestedChannelId with
  | some channelId =>
    dsimp only
    cases validateChannelId channelId with
    | error error => exact triple_mutation_error _
    | ok valid => exact triple_lockChannel.bind fun _ => triple_createLocked definition
  | none =>
    refine (triple_keep stable_reads rfl rfl).bind fun _ => ?_
    refine (triple_keep stable_reads rfl rfl).bind fun occupied => ?_
    rcases occupied with error | occupied
    · exact triple_mutation_error _
    dsimp only
    cases nextAvailableChannelId occupied with
    | error error => exact triple_mutation_error _
    | ok channelId => exact triple_lockChannel.bind fun _ => triple_createLocked definition

/-- The lock and the load at the start of every mutation of an existing channel. -/
theorem triple_lock_load
    {rest : PortResult StoredChannel → ChannelProgram (PortResult ChannelMutationReceipt)}
    (herr : ∀ error, rest (.error error) = .done (.error error))
    (hok : ∀ stored, stored.channelId = d →
      ChannelTriple t (Locked t d) (rest (.ok stored)) (TrueMutation library t)) :
    ChannelTriple t (World.Reads t) (channelOp (.lockChannel d) >>= fun _ => loadChannel d >>= rest)
      (TrueMutation library t) := by
  refine triple_lockChannel.bind fun _ => ?_
  refine (triple_loadChannel (stable_locked rfl)).bind fun result => ?_
  cases result with
  | error error =>
    rw [herr]
    exact triple_mutation_error _
  | ok stored =>
    rintro w ⟨hw, hsto⟩
    exact hok stored (hsto stored rfl).1 w hw

theorem triple_update (expected : ℕ) (patch : ChannelPatch) :
    ChannelTriple t (World.Reads t) (update library d expected patch) (TrueMutation library t) := by
  unfold update
  rcases validateChannelId d with error | valid
  · exact triple_mutation_error _
  dsimp only
  split_ifs
  · exact triple_mutation_error _
  refine triple_lock_load (fun _ => rfl) fun stored hid => ?_
  dsimp only
  split
  · exact triple_mutation_error _
  rename_i next config configJson hprep
  have hcfg : config.id = d := by
    obtain ⟨-, -, h⟩ := bind_eq_ok.1 hprep
    obtain ⟨_, -, h⟩ := bind_eq_ok.1 h
    obtain ⟨before, hbef, h⟩ := bind_eq_ok.1 h
    obtain ⟨patched, hpatched, h⟩ := bind_eq_ok.1 h
    obtain ⟨-, -, h⟩ := bind_eq_ok.1 h
    obtain ⟨_, -, h⟩ := bind_eq_ok.1 h
    obtain ⟨_, -, h⟩ := bind_eq_ok.1 h
    obtain ⟨_, -, h⟩ := bind_eq_ok.1 h
    cases h
    rw [id_applyPatch library hpatched, StoredChannel.id_toConfig hbef, hid]
  refine (triple_keep (stable_locked rfl) rfl rfl).bind fun affected => ?_
  rcases affected with error | affected
  · exact triple_mutation_error _
  dsimp only
  split_ifs
  · exact triple_mutation_error _
  have hcomm :
      (StoredChannel.fromCommittedConfig config configJson next).channelId = d := hcfg
  exact (triple_reconcileAfterUpdate locked_on locked_owns config.enabled).bind fun projection =>
    triple_observed locked_on locked_owns hcomm .update projection

theorem triple_enableFailed {stored : StoredChannel} (hid : stored.channelId = d) (enabled : Bool)
    (error : PortError) :
    ChannelTriple t (Locked t d) (enableFailed library enabled stored error)
      (TrueMutation library t) := by
  cases enabled with
  | true => exact triple_mutation_error _
  | false => exact triple_restored locked_on locked_owns hid error

theorem triple_setEnabled (expected : ℕ) (enabled : Bool) :
    ChannelTriple t (World.Reads t) (setEnabled library d expected enabled)
      (TrueMutation library t) := by
  unfold setEnabled
  rcases validateChannelId d with error | valid
  · exact triple_mutation_error _
  refine triple_lock_load (fun _ => rfl) fun stored hid => ?_
  dsimp only
  split
  · exact triple_mutation_error _
  split_ifs
  · exact (triple_reconcileAfterUpdate locked_on locked_owns enabled).bind fun projection =>
      triple_observed locked_on locked_owns hid (enableKind enabled) projection
  unfold setEnabledChange
  rcases nextRevision stored.revision with error | next
  · exact triple_mutation_error _
  -- a channel that is disabled has no runtime from here on
  have hdisabled : ChannelTriple t (Locked t d) (fenceDisabled d enabled) fun result w =>
      Locked t d w ∧ (result = .ok () → enabled = false → w.runtimes[d]? = none) := by
    cases enabled with
    | true => exact triple_done fun _ h => ⟨h, fun _ => nofun⟩
    | false =>
      refine (triple_fence (stable_locked rfl) locked_owns).conseq (fun _ h => h) fun _ _ h => ⟨h.1, ?_⟩
      exact fun hres _ => h.2 hres
  refine hdisabled.bind fun result => ?_
  rcases result with error | value
  · exact (triple_restored locked_on locked_owns hid _).pre fun _ h => h.1
  have hslot : Stable t .others fun w =>
      Locked t d w ∧ (enabled = false → w.runtimes[d]? = none) :=
    locked_on.rely.slot locked_owns rfl (G := fun slot _ => enabled = false → slot = none)
      fun _ _ _ _ h => h
  dsimp only
  unfold commitEnabled
  split
  · exact triple_mutation_error _
  · exact triple_mutation_error _
  · refine ((triple_keep hslot rfl rfl).pre fun w h => ⟨h.1, h.2 rfl⟩).bind fun affected => ?_
    rcases affected with error | affected
    · exact (triple_enableFailed hid enabled _).pre fun _ h => h.1
    dsimp only
    split_ifs
    · exact (triple_enableFailed hid enabled _).pre fun _ h => h.1
    have hproj : ChannelTriple t
        (fun w => Locked t d w ∧ (enabled = false → w.runtimes[d]? = none))
        (projectEnabled library d enabled next) fun projection w =>
          Locked t d w ∧ Projected library d next projection w.runtimes[d]? w.db := by
      cases enabled with
      | true =>
        exact (triple_reconcileAfterUpdate locked_on locked_owns true).conseq
          (fun _ h => h.1) fun _ _ h => h
      | false => exact triple_done fun w h => ⟨h.1, h.2 rfl⟩
    have hcomm :
        { stored with enabled, revision := next : StoredChannel }.channelId = d := hid
    exact hproj.bind fun projection =>
      triple_observed locked_on locked_owns hcomm (enableKind enabled) projection

theorem triple_delete (expected : ℕ) :
    ChannelTriple t (World.Reads t) (delete library d expected) (TrueMutation library t) := by
  unfold delete
  rcases validateChannelId d with error | valid
  · exact triple_mutation_error _
  refine triple_lock_load (fun _ => rfl) fun stored hid => ?_
  dsimp only
  split
  · exact triple_mutation_error _
  rename_i tombstone _
  refine (triple_keep (stable_locked rfl) rfl rfl).bind fun routes => ?_
  rcases routes with error | routes
  · exact triple_mutation_error _
  dsimp only
  split_ifs
  · exact triple_mutation_error _
  refine (triple_fence (stable_locked rfl) locked_owns).bind fun fenced => ?_
  rcases fenced with error | value
  · exact (triple_restored locked_on locked_owns hid _).pre fun _ h => h.1
  have hnone := (locked_on (t := t) (d := d)).rely.vacant locked_owns rfl
  refine ((triple_keep hnone rfl rfl).pre fun w h => ⟨h.1, h.2 rfl⟩).bind fun deleted => ?_
  cases deleted with
  | error error =>
    exact (triple_restored locked_on locked_owns hid _).pre fun _ h => h.1
  | ok value =>
    refine triple_done fun w hw => ?_
    rintro _ ⟨⟩
    exact hw.2

theorem triple_mutate (mutation : ChannelMutation) :
    ChannelTriple t (fun _ => True) (mutate library mutation) (TrueMutation library t) := by
  have hgate : ChannelTriple t (fun _ => True) (channelOp .readGate) fun _ => World.Reads t := by
    refine triple_op (fun _ _ _ h => h) (fun w _ => ⟨nofun, nofun⟩) ?_
    intro w choice _ henab _
    simp only [channelApply]
    cases hgate : w.gate with
    | read holders => exact ⟨t :: holders, rfl, List.mem_cons_self ..⟩
    | write holder =>
      rw [channelEnabled, hgate] at henab
      cases henab
  refine hgate.bind fun _ => ?_
  cases mutation with
  | create definition => exact triple_create definition
  | update channelId expected patch => exact triple_update expected patch
  | delete channelId expected => exact triple_delete expected
  | setEnabled channelId expected enabled => exact triple_setEnabled expected enabled

end Mutations

end AetherEdge.Io
