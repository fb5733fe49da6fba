import AetherEdge.Io.ChannelTriples

/-!
# The projection of one runtime

What a function of the commissioning adapter may report of a channel (`TrueReport`), and the
triples of the functions that act on one runtime, from its fence and its activation up to the
second look at the tables. A runtime is `Installed` from a row that is `Pinned`: as long as the
writers of the tables follow the schema's revision rule, the revision says which row it was.
-/

namespace AetherEdge.Io

open Std (ExtTreeMap)
open OrderedMap

/-! ## Rows and runtimes -/

/-- The row is stored, or the stored state has gone beyond it for good. -/
def Pinned (channelId : ℕ) (row : ChannelRow) (db : Database) : Prop :=
  match db.channels[channelId]? with
  | some stored => stored = row ∨ row.revision < stored.revision
  | none => row.revision < db.tombstone channelId

variable {channelId : ℕ} {row : ChannelRow}

theorem Pinned.guarded {db db' : Database} (h : Pinned channelId row db)
    (hgd : Database.Guarded channelId db db') : Pinned channelId row db' := by
  obtain ⟨htomb, hrow⟩ := hgd
  revert h hrow
  unfold Pinned
  rcases db.channels[channelId]? with _ | old
  · cases db'.channels[channelId]? with
    | none => exact fun h _ => lt_of_lt_of_le h htomb
    | some new => exact fun h hnew => .inr (lt_trans h hnew)
  rcases db'.channels[channelId]? with _ | new
  · rintro (rfl | hlt) hold
    · exact hold
    · exact lt_trans hlt hold
  rintro (rfl | hlt) (rfl | hnew)
  · exact .inl rfl
  · exact .inr hnew
  · exact .inr hlt
  · exact .inr (lt_trans hlt hnew)

theorem pinned_stored {db : Database} (h : db.channels[channelId]? = some row) :
    Pinned channelId row db := by
  rw [Pinned, h]
  exact .inl rfl

/-- The revision of the stored row tells whether it is the pinned one. -/
theorem Pinned.eq_of_revision {stored : ChannelRow} {db : Database} (h : Pinned channelId row db)
    (hsto : db.channels[channelId]? = some stored) (hrev : stored.revision = row.revision) :
    stored = row := by
  rw [Pinned, hsto] at h
  exact h.resolve_right (by omega)

variable {snapshot : RuntimeSnapshot}

section Library

variable (library : ChannelLibrary)

/-- The runtime was built from the row, at the revision. -/
structure FromRow (channelId revision : ℕ) (row : ChannelRow) (snapshot : RuntimeSnapshot) :
    Prop where
  revision_eq : row.revision = revision
  parsed : parseChannelRow library channelId row = some (snapshot.base, revision)
  persisted : snapshot.persistedRevision = some revision

/-- The slot of a channel holds a runtime of the revision, built from a pinned row. -/
def Installed (channelId revision : ℕ) (slot : Option RuntimeSnapshot) (db : Database) : Prop :=
  ∃ row snapshot, slot = some snapshot ∧ FromRow library channelId revision row snapshot ∧
    Pinned channelId row db

/-- What a projection means for the slot of the channel before the last look at the tables. -/
def Projected (channelId revision : ℕ) (projection : ChannelRuntimeProjection)
    (slot : Option RuntimeSnapshot) (db : Database) : Prop :=
  match projection with
  | .active => Installed library channelId revision slot db
  | .stopped | .removed => slot = none
  | .activationPending | .degraded => True

/-- What the task `t` has to mean when it reports the projection of a channel in the world `w`: an
    active runtime was built from the stored row of that revision, which was still stored when the
    task last read the tables after the activation; a stopped or removed channel has none. -/
def TrueReport (t : ℕ) (w : World) (channelId : ℕ) (revision : Option ℕ)
    (projection : ChannelRuntimeProjection) : Prop :=
  match projection with
  | .active =>
    ∃ r row snapshot db, revision = some r ∧ w.runtimes[channelId]? = some snapshot ∧
      FromRow library channelId r row snapshot ∧ w.seen t = some db ∧
        db.channels[channelId]? = some row
  | .stopped | .removed => w.runtimes[channelId]? = none
  | .activationPending | .degraded => True

variable {library}

theorem parseChannelRow_some {parsed : ChannelConfig × ℕ}
    (h : parseChannelRow library channelId row = some parsed) :
    parsed.1.id = channelId ∧ parsed.1.name = row.name ∧ parsed.2 = row.revision := by
  unfold parseChannelRow at h
  split at h
  · split_ifs at h
    cases h
    exact ⟨rfl, rfl, rfl⟩
  · cases h

variable {revision : ℕ}

theorem FromRow.id_eq (h : FromRow library channelId revision row snapshot) :
    snapshot.base.id = channelId :=
  (parseChannelRow_some h.parsed).1

theorem FromRow.name_eq (h : FromRow library channelId revision row snapshot) :
    snapshot.base.name = row.name :=
  (parseChannelRow_some h.parsed).2.1

theorem builtFrom_of_runtimeSnapshot {points : PointTable → List Bytes}
    (h : runtimeSnapshot library channelId row points = some snapshot) :
    FromRow library channelId row.revision row snapshot := by
  obtain ⟨⟨base, revision⟩, hpars, rfl⟩ := Option.map_eq_some_iff.1 h
  obtain ⟨-, -, rfl⟩ := parseChannelRow_some hpars
  exact ⟨rfl, hpars, rfl⟩

variable {projection : ChannelRuntimeProjection}

theorem Projected.guarded {slot : Option RuntimeSnapshot} {db db' : Database}
    (h : Projected library channelId revision projection slot db)
    (hgd : Database.Guarded channelId db db') :
    Projected library channelId revision projection slot db' := by
  cases projection with
  | active =>
    obtain ⟨row, snapshot, hslot, hbuilt, hpin⟩ := h
    exact ⟨row, snapshot, hslot, hbuilt, hpin.guarded hgd⟩
  | _ => exact h

/-- A projection whose revision is the stored one in what the task just read is a true report. -/
theorem Projected.report {t : ℕ} {w : World}
    (h : Projected library channelId revision projection w.runtimes[channelId]? w.db)
    (hseen : w.seen t = some w.db) (hrow : w.db.channels[channelId]? = some row)
    (hrev : row.revision = revision) :
    TrueReport library t w channelId (some revision) projection := by
  cases projection with
  | active =>
    obtain ⟨built, snapshot, hslot, hbuilt, hpin⟩ := h
    obtain rfl : row = built :=
      hpin.eq_of_revision hrow (hrev.trans hbuilt.revision_eq.symm)
    exact ⟨revision, row, snapshot, w.db, rfl, hslot, hbuilt, hseen, hrow⟩
  | _ => exact h

end Library

/-! ## One runtime

`F` is what else the task asserts: it owns the channel `d`, and nothing it does to `d` disturbs
the rest. -/

/-- The scope of a task that acts on the channel `d`. -/
def Scope.on (d : ℕ) : Scope := { slot := some d, reads := true }

/-- A fence changes this slot only. -/
def Scope.fencing (d : ℕ) : Scope := { slot := some d }

theorem Scope.fencing_on (d : ℕ) : (Scope.fencing d).Within (.on d) :=
  ⟨.inr rfl, nofun, .inl rfl⟩

theorem Scope.reads_on (d : ℕ) : (Scope.mk none true none).Within (.on d) :=
  ⟨.inl rfl, id, .inl rfl⟩

section Runtime

variable {t d : ℕ} {F : World → Prop}

/-- What is known of the channel's own slot stays while the task only reads. -/
theorem Stable.slot {scope : Scope} (hF : Stable t scope F) (howns : ∀ w, F w → w.Owns t d)
    (hslot : scope.slot = none) {G : Option RuntimeSnapshot → Database → Prop}
    (hG : ∀ slot db db', Database.Guarded d db db' → G slot db → G slot db') :
    Stable t scope fun w => F w ∧ G w.runtimes[d]? w.db := by
  rintro w w' hkp ⟨hw, hG'⟩
  refine ⟨hF w w' hkp hw, ?_⟩
  rw [hkp.runtimes d (by rw [hslot]; exact nofun) (howns w hw)]
  exact hG _ _ _ (hkp.guarded d) hG'

theorem Stable.vacant {scope : Scope} (hF : Stable t scope F) (howns : ∀ w, F w → w.Owns t d)
    (hslot : scope.slot = none) : Stable t scope fun w => F w ∧ w.runtimes[d]? = none :=
  hF.slot howns hslot (G := fun slot _ => slot = none) fun _ _ _ _ h => h

theorem contains_eq_isSome (w : World) (c : ℕ) :
    w.runtimes.contains c = w.runtimes[c]?.isSome :=
  ExtTreeMap.contains_eq_isSome_getElem?

theorem triple_getChannel (hF : Stable t .others F) :
    ChannelTriple t F (channelOp (.getChannel d)) fun present w =>
      F w ∧ present = w.runtimes[d]?.isSome := by
  refine @triple_quiet t (.getChannel d) F (fun present w => present = w.runtimes[d]?.isSome) hF
    rfl rfl ?_
  exact fun w _ _ _ => contains_eq_isSome w d

theorem vacant_of_absent {w : World} (h : false = w.runtimes[d]?.isSome) : w.runtimes[d]? = none :=
  Option.isNone_iff_eq_none.1 (Option.isSome_eq_false_iff.1 h.symm)

section

variable (hF : Stable t (.fencing d) F) (howns : ∀ w, F w → w.Owns t d)

include hF howns

theorem triple_removeChannel :
    ChannelTriple t F (channelOp (.removeChannel d)) fun removed w =>
      F w ∧ (removed = true → w.runtimes[d]? = none) := by
  refine triple_op hF.rely ?_ ?_
  · intro w hw
    refine ⟨fun c hc => ?_, nofun⟩
    cases hc
    exact howns w hw
  · intro w choice hw _ hkp
    refine ⟨hF _ _ hkp hw, ?_⟩
    simp only [channelApply]
    split
    · exact nofun
    · exact fun _ => (getElem?_erase_nat ..).trans (if_pos rfl)

/-- `fence` leaves no runtime when it succeeds. -/
theorem triple_fence :
    ChannelTriple t F (fence d) fun result w => F w ∧ (result = .ok () → w.runtimes[d]? = none) := by
  refine (triple_getChannel hF.rely).bind fun present => ?_
  cases present with
  | false => exact triple_done fun w hw => ⟨hw.1, fun _ => vacant_of_absent hw.2⟩
  | true =>
    refine ((triple_removeChannel hF howns).pre fun _ h => h.1).bind
      fun removed => ?_
    cases removed with
    | false => exact triple_done fun w hw => ⟨hw.1, nofun⟩
    | true => exact triple_done fun w hw => ⟨hw.1, fun _ => hw.2 rfl⟩

theorem triple_fencePresent :
    ChannelTriple t F (fencePresent d) fun result w =>
      F w ∧ (result = .ok () → w.runtimes[d]? = none) := by
  refine (triple_getChannel hF.rely).bind fun present => ?_
  cases present with
  | false => exact triple_done fun w hw => ⟨hw.1, fun _ => vacant_of_absent hw.2⟩
  | true => exact (triple_fence hF howns).pre fun _ h => h.1

/-- A fence whose result nobody looks at. -/
theorem triple_fence_keep : ChannelTriple t F (fence d) fun _ => F :=
  (triple_fence hF howns).conseq (fun _ h => h) fun _ _ h => h.1

end

section

variable (hF : Stable t (.on d) F) (howns : ∀ w, F w → w.Owns t d) (hid : snapshot.base.id = d)

include hF howns hid

theorem triple_createChannel :
    ChannelTriple t F (channelOp (.createChannel snapshot)) fun created w =>
      F w ∧ (created = true → w.runtimes[d]? = some snapshot) := by
  subst hid
  refine triple_op hF.rely ?_ ?_
  · intro w hw
    refine ⟨fun c hc => ?_, nofun⟩
    cases hc
    exact howns w hw
  · intro w choice hw _ hkp
    refine ⟨hF _ _ hkp hw, ?_⟩
    simp only [channelApply]
    split
    · exact nofun
    · exact fun _ => (getElem?_insert_nat ..).trans (if_pos rfl)

/-- The entry of `activate` is the new one when there was none. -/
theorem triple_installed :
    ChannelTriple t (fun w => F w ∧ w.runtimes[d]? = none) (installed snapshot)
      fun result w => F w ∧ (result = true → w.runtimes[d]? = some snapshot) := by
  unfold installed
  rw [hid]
  refine (triple_getChannel (hF.rely.vacant howns rfl)).bind fun present => ?_
  cases present with
  | false =>
    refine (triple_createChannel hF howns hid).pre fun w h => h.1.1
  | true =>
    rintro w ⟨⟨-, hw⟩, hpres⟩
    rw [hw] at hpres
    cases hpres

/-- `activate` succeeds only with its own runtime when there was none before. -/
theorem triple_activate :
    ChannelTriple t (fun w => F w ∧ w.runtimes[d]? = none) (activate snapshot)
      fun result w => F w ∧ (result = .ok () → w.runtimes[d]? = some snapshot) := by
  have hsome : Stable t .others fun w => F w ∧ w.runtimes[d]? = some snapshot :=
    hF.rely.slot howns rfl (G := fun slot _ => slot = some snapshot) fun _ _ _ _ h => h
  refine (triple_installed hF howns hid).bind fun result => ?_
  cases result with
  | false => exact triple_done fun w hw => ⟨hw.1, nofun⟩
  | true =>
    refine ((triple_keep hsome rfl rfl).pre fun w h => ⟨h.1, h.2 rfl⟩).bind
      fun connected => ?_
    cases connected with
    | true => exact triple_done fun w hw => ⟨hw.1, fun _ => hw.2⟩
    | false =>
      refine (triple_keep hsome rfl rfl).bind fun connects => ?_
      cases connects with
      | true => exact triple_done fun w hw => ⟨hw.1, fun _ => hw.2⟩
      | false =>
        have hfnc : Stable t (.fencing d) F := hF.mono (Scope.fencing_on d)
        rw [hid]
        refine ((triple_removeChannel hfnc howns).pre fun w h => h.1).bind
          fun removed => ?_
        exact triple_done fun w hw => ⟨hw.1, nofun⟩

end

/-! ## Reading the tables -/

variable (hF : Stable t { reads := true } F)

include hF

theorem triple_selectChannel :
    ChannelTriple t F (channelOp (.selectChannel d)) fun result w =>
      F w ∧ ∀ row, result = .ok row → w.seen t = some w.db ∧ w.db.channels[d]? = row := by
  refine @triple_quiet t (.selectChannel d) F
    (fun result w => ∀ row, result = .ok row → w.seen t = some w.db ∧ w.db.channels[d]? = row)
    hF rfl rfl ?_
  intro w choice _ _
  simp only [channelApply, World.select]
  split
  · exact nofun
  · rintro row ⟨⟩
    exact ⟨Function.update_self .., rfl⟩

/-- `load_channel` returns the row that is stored as it returns. -/
theorem triple_loadChannel :
    ChannelTriple t F (loadChannel d) fun result w =>
      F w ∧ ∀ stored, result = .ok stored → stored.channelId = d ∧ w.seen t = some w.db ∧
        ∃ row, w.db.channels[d]? = some row ∧ row.revision = stored.revision := by
  refine (triple_selectChannel hF).bind fun result => ?_
  rcases result with error | row
  · exact triple_done fun w hw => ⟨hw.1, nofun⟩
  refine triple_done fun w hw => ⟨hw.1, fun stored hsto => ?_⟩
  obtain ⟨found, rfl, -, -, hflds⟩ := storedChannel_ok hsto
  obtain ⟨hseen, hrow⟩ := hw.2 _ rfl
  rw [hflds]
  exact ⟨rfl, hseen, found, hrow, rfl⟩

theorem triple_loadTombstoneRevision : ChannelTriple t F (loadTombstoneRevision d) fun _ => F := by
  refine (triple_keep hF rfl rfl).bind fun result => ?_
  rcases result with error | (_ | revision) <;> exact triple_done fun _ h => h

theorem triple_optionalTombstoneRevision :
    ChannelTriple t F (optionalTombstoneRevision d) fun _ => F := by
  refine (triple_loadTombstoneRevision hF).bind fun result => ?_
  cases result <;> exact triple_done fun _ h => h

theorem triple_sameChannelEntity {initial : StoredChannel} :
    ChannelTriple t F (sameChannelEntity initial) fun _ => F := by
  refine (triple_loadTombstoneRevision hF).bind fun result => ?_
  cases result <;> exact triple_done fun _ h => h

end Runtime

section Projections

variable {t d revision : ℕ} {F : World → Prop} {library : ChannelLibrary}

/-- A loaded snapshot was built from the row that is stored as it is loaded. -/
theorem triple_loadRuntimeSnapshot (hF : Stable t { reads := true } F) :
    ChannelTriple t F (loadRuntimeSnapshot library d revision) fun result w =>
      F w ∧ ∀ snapshot, result = .ok snapshot →
        ∃ row, FromRow library d revision row snapshot ∧ Pinned d row w.db := by
  have hselect : ChannelTriple t F (channelOp (.selectRuntimeChannel d)) fun result w =>
      F w ∧ ∀ row points, result = some (some row, points) → w.db.channels[d]? = some row := by
    refine @triple_quiet t (.selectRuntimeChannel d) F
      (fun result w => ∀ row points, result = some (some row, points) →
        w.db.channels[d]? = some row) hF rfl rfl ?_
    intro w choice _ _ row points h
    simp only [channelApply, World.load] at h ⊢
    split at h
    · cases h
    · exact (Prod.mk.inj (Option.some.inj h)).1
  refine hselect.bind fun result => ?_
  rcases result with _ | ⟨_ | row, points⟩
  · exact triple_done fun w hw => ⟨hw.1, nofun⟩
  · exact triple_done fun w hw => ⟨hw.1, nofun⟩
  · dsimp only
    rcases hsnap : runtimeSnapshot library d row points with _ | snapshot
    · exact triple_done fun w hw => ⟨hw.1, nofun⟩
    dsimp only
    split_ifs with hrev
    · refine triple_done fun w hw => ⟨hw.1, ?_⟩
      rintro _ ⟨⟩
      refine ⟨row, ?_, pinned_stored (hw.2 row points rfl)⟩
      exact hrev ▸ builtFrom_of_runtimeSnapshot hsnap
    · exact triple_done fun w hw => ⟨hw.1, nofun⟩

theorem stable_pinned {scope : Scope} : Stable t scope fun w => Pinned d row w.db :=
  fun _ _ hkp h => h.guarded (hkp.guarded d)

variable (hF : Stable t (.on d) F) (howns : ∀ w, F w → w.Owns t d)

include hF howns

/-- An activated snapshot is installed, and the row it was built from stays pinned. -/
theorem triple_activate_installed (hbuilt : FromRow library d revision row snapshot) :
    ChannelTriple t (fun w => (F w ∧ Pinned d row w.db) ∧ w.runtimes[d]? = none)
      (activate snapshot) fun result w =>
        F w ∧ (result = .ok () → Installed library d revision w.runtimes[d]? w.db) := by
  have hpin : Stable t (.on d) fun w => F w ∧ Pinned d row w.db := hF.and stable_pinned
  refine (triple_activate hpin (fun w h => howns w h.1) hbuilt.id_eq).conseq (fun _ h => h) ?_
  intro result w h
  exact ⟨h.1.1, fun hok => ⟨row, snapshot, h.2 hok, hbuilt, h.1.2⟩⟩

/-- `activate_revision` installs a runtime of the revision, from a row that was stored. -/
theorem triple_activateRevision :
    ChannelTriple t (fun w => F w ∧ w.runtimes[d]? = none) (activateRevision library d revision)
      fun result w =>
        F w ∧ (result = .ok () → Installed library d revision w.runtimes[d]? w.db) := by
  have hreads : Stable t { reads := true } F := hF.mono (Scope.reads_on d)
  refine (triple_loadRuntimeSnapshot (hreads.vacant howns rfl)).bind fun result => ?_
  cases result with
  | error error => exact triple_done fun w hw => ⟨hw.1.1, nofun⟩
  | ok snapshot =>
    rintro w ⟨⟨hw, hslot⟩, hsnap⟩
    obtain ⟨row, hbuilt, hpin⟩ := hsnap snapshot rfl
    exact triple_activate_installed hF howns hbuilt w ⟨⟨hw, hpin⟩, hslot⟩

theorem triple_projectRevision :
    ChannelTriple t (fun w => F w ∧ w.runtimes[d]? = none) (projectRevision library d revision)
      fun projection w =>
        F w ∧ Projected library d revision projection w.runtimes[d]? w.db := by
  refine (triple_activateRevision hF howns).bind fun result => ?_
  cases result with
  | error error => exact triple_done fun w hw => ⟨hw.1, trivial⟩
  | ok value => exact triple_done fun w hw => ⟨hw.1, hw.2 rfl⟩

theorem triple_projectStopped :
    ChannelTriple t F (projectStopped d) fun projection w =>
      F w ∧ Projected library d revision projection w.runtimes[d]? w.db := by
  refine (triple_fence (hF.mono (Scope.fencing_on d)) howns).bind fun result => ?_
  cases result with
  | error error => exact triple_done fun w hw => ⟨hw.1, trivial⟩
  | ok value => exact triple_done fun w hw => ⟨hw.1, hw.2 rfl⟩

theorem triple_reconcileAfterUpdate (enabled : Bool) :
    ChannelTriple t F (reconcileAfterUpdate library d enabled revision) fun projection w =>
      F w ∧ Projected library d revision projection w.runtimes[d]? w.db := by
  cases enabled with
  | false => exact triple_projectStopped hF howns
  | true =>
    refine (triple_fencePresent (hF.mono (Scope.fencing_on d)) howns).bind fun result => ?_
    cases result with
    | error error => exact triple_done fun w hw => ⟨hw.1, trivial⟩
    | ok value =>
      refine (triple_projectRevision hF howns).pre fun w hw => ?_
      exact ⟨hw.1, hw.2 rfl⟩

/-- What was projected is reported only if the tables still hold what was projected. -/
theorem triple_observeReconcile {initial : StoredChannel} (hid : initial.channelId = d)
    (projection : ChannelRuntimeProjection) :
    ChannelTriple t
      (fun w => F w ∧ Projected library d initial.revision projection w.runtimes[d]? w.db)
      (observeReconcile initial projection)
      fun result w => TrueReport library t w d (some result.1) result.2.2 := by
  subst hid
  have hreads : Stable t { reads := true } F := hF.mono (Scope.reads_on _)
  have hfnc := triple_fence_keep (hF.mono (Scope.fencing_on _)) howns
  have hproj : Stable t { reads := true } fun w =>
      F w ∧ Projected library initial.channelId initial.revision projection
        w.runtimes[initial.channelId]? w.db :=
    hreads.slot howns rfl fun _ _ _ hgd h => h.guarded hgd
  refine (triple_loadChannel hproj).bind fun result => ?_
  cases result with
  | error error =>
    dsimp only
    split_ifs with hkind
    · refine (hfnc.pre fun w hw => hw.1.1).bind fun _ => ?_
      refine (triple_loadTombstoneRevision hreads).bind fun tombstone => ?_
      cases tombstone <;> exact triple_done fun _ _ => trivial
    · refine (hfnc.pre fun w hw => hw.1.1).bind fun _ => ?_
      exact triple_done fun _ _ => trivial
  | ok latest =>
    dsimp only
    split_ifs with hsame
    · obtain rfl := StoredChannel.sameDesiredState_iff.1 hsame
      refine triple_done fun w hw => ?_
      obtain ⟨-, hseen, row, hrow, hrev⟩ := hw.2 initial rfl
      exact hw.1.2.report hseen hrow hrev
    · refine (hfnc.pre fun w hw => hw.1.1).bind fun _ => ?_
      exact triple_done fun _ _ => trivial

/-- A best-effort restoration only touches the channel it owns. -/
theorem triple_restoreAuthoritativeRuntime {initial : StoredChannel} (hid : initial.channelId = d) :
    ChannelTriple t F (restoreAuthoritativeRuntime library initial) fun _ _ => True := by
  subst hid
  have hreads : Stable t { reads := true } F := hF.mono (Scope.reads_on _)
  have hfencing : Stable t (.fencing initial.channelId) F := hF.mono (Scope.fencing_on _)
  have hgiveUp : ChannelTriple t F
      (fence initial.channelId >>= fun _ => pure ()) fun _ _ => True :=
    (triple_fence_keep hfencing howns).bind fun _ => triple_done fun _ _ => trivial
  refine (triple_sameChannelEntity hreads).bind fun same => ?_
  cases same with
  | false => exact hgiveUp
  | true =>
    refine ((triple_loadChannel hreads).conseq (fun _ h => h) fun _ _ h => h.1).bind
      fun latest => ?_
    rcases latest with error | latest
    · exact hgiveUp
    dsimp only
    cases latest.enabled with
    | false => exact hgiveUp
    | true =>
      refine (triple_sameChannelEntity hreads).bind fun same => ?_
      cases same with
      | false => exact hgiveUp
      | true =>
        rcases latest.toConfig library with error | config
        · exact hgiveUp
        dsimp only
        rcases validateRuntimeConfig library config with error | valid
        · exact hgiveUp
        refine (triple_fencePresent hfencing howns).bind fun fenced => ?_
        rcases fenced with error | value
        · exact triple_done fun _ _ => trivial
        refine ((triple_loadRuntimeSnapshot (hreads.vacant howns rfl)).pre
          fun w h => ⟨h.1, h.2 rfl⟩).bind fun loaded => ?_
        rcases loaded with error | snapshot
        · exact hgiveUp.pre fun _ h => h.1.1
        rintro w ⟨hw, hsnap⟩
        obtain ⟨row, hbuilt, -⟩ := hsnap snapshot rfl
        refine ((triple_activate hF howns hbuilt.id_eq).bind fun activated => ?_) w hw
        rcases activated with error | value
        · exact hgiveUp.pre fun _ h => h.1
        refine ((triple_sameChannelEntity hreads).pre fun _ h => h.1).bind fun same => ?_
        cases same with
        | false => exact hgiveUp
        | true =>
          refine ((triple_loadChannel hreads).conseq (fun _ h => h)
            fun _ _ h => h.1).bind fun current => ?_
          rcases current with error | current
          · exact hgiveUp
          dsimp only
          split_ifs
          · exact triple_done fun _ _ => trivial
          · exact hgiveUp

end Projections

end AetherEdge.Io
