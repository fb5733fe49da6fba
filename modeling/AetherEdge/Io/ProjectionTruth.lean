import AetherEdge.Io.MutationReports

/-!
# What the reconciliations report

The passes of `ChannelReconciler` hold the projection gate alone and own every channel; each of
their items is a true report. With the mutations this gives `reports_true`: in every interleaving
of mutations, reconciliations and fences, each of which may be dropped at any point, with writers
of the tables that follow the schema's revision rule, whatever is reported is true. A writer that
swaps the identities of two rows is not such a writer, and can make a bulk pass report a runtime
that was built from the other row.
-/

namespace AetherEdge.Io

open Std (ExtTreeMap)
open OrderedMap List Option Std.ExtTreeMap

/-- The revision an item reports. -/
def ChannelDesiredStateObservation.revision : ChannelDesiredStateObservation → Option ℕ
  | .present revision _ => some revision
  | .absent _ => none

section Reconciliation

variable (library : ChannelLibrary)

/-- The item reports the truth. -/
def TrueItem (t : ℕ) (w : World) (item : ChannelReconciliationItem) : Prop :=
  TrueReport library t w item.channelId item.desired.revision item.runtimeProjection

/-- All items do. -/
def TrueItems (t : ℕ) (result : PortResult (List ChannelReconciliationItem)) (w : World) : Prop :=
  ∀ items, result = .ok items → ∀ item ∈ items, TrueItem library t w item

variable {library} {t d revision : ℕ} {F : World → Prop} {scope : Scope}

/-- The one item does. -/
abbrev TrueResult (library : ChannelLibrary) (t : ℕ)
    (result : PortResult ChannelReconciliationItem) (w : World) : Prop :=
  ∀ item, result = .ok item → TrueItem library t w item

theorem stable_writes : Stable t scope (World.Writes t) :=
  fun _ _ hkp h => hkp.writes h

theorem triple_writeGate :
    ChannelTriple t (fun _ => True) (channelOp .writeGate) fun _ => World.Writes t :=
  triple_op (fun _ _ _ h => h) (fun _ _ => ⟨nofun, nofun⟩) fun _ _ _ _ _ => rfl

theorem triple_items_error {P : World → Prop} (error : PortError) :
    ChannelTriple t P (.done (.error error)) (TrueItems library t) :=
  triple_done fun _ _ _ h => nomatch h

/-! ### One channel -/

theorem triple_activateChecked {P : World → Prop} (hP : Stable t (.fencing d) P)
    (hF : Stable t (.fencing d) F) (hpre : ∀ w, P w → F w) (howns : ∀ w, F w → w.Owns t d)
    (checked : PortResult Unit) {activation : ChannelProgram (PortResult Unit)}
    (hact : ChannelTriple t (fun w => P w ∧ w.runtimes[d]? = none) activation
      fun result w => F w ∧ (result = .ok () → Installed library d revision w.runtimes[d]? w.db)) :
    ChannelTriple t P (activateChecked checked d activation) fun projection w =>
      F w ∧ Projected library d revision projection w.runtimes[d]? w.db := by
  have hdeg : ChannelTriple t F
      (fence d >>= fun _ => pure ChannelRuntimeProjection.degraded) fun projection w =>
        F w ∧ Projected library d revision projection w.runtimes[d]? w.db :=
    (triple_fence_keep hF howns).bind fun _ => triple_done fun _ h => ⟨h, trivial⟩
  rcases checked with error | valid
  · exact hdeg.pre hpre
  refine (triple_fencePresent hP fun w h => howns w (hpre w h)).bind fun fenced => ?_
  rcases fenced with error | value
  · exact triple_done fun w h => ⟨hpre w h.1, trivial⟩
  refine (hact.pre fun w h => ⟨h.1, h.2 rfl⟩).bind fun activated => ?_
  cases activated with
  | error error => exact hdeg.pre fun _ h => h.1
  | ok value => exact triple_done fun _ h => ⟨h.1, h.2 rfl⟩

theorem triple_projectPresent (hF : Stable t (.on d) F) (howns : ∀ w, F w → w.Owns t d)
    {initial : StoredChannel} (hid : initial.channelId = d) :
    ChannelTriple t F (projectPresent library initial) fun projection w =>
      F w ∧ Projected library d initial.revision projection w.runtimes[d]? w.db := by
  subst hid
  have hfencing : Stable t (.fencing initial.channelId) F := hF.mono (Scope.fencing_on _)
  unfold projectPresent
  split_ifs
  · exact triple_projectStopped hF howns
  · exact triple_activateChecked hfencing hfencing (fun _ h => h) howns _
      (triple_activateRevision hF howns)

theorem triple_reconcilePresent {initial : StoredChannel} :
    ChannelTriple t (World.Writes t) (reconcilePresent library initial) fun item w =>
      TrueItem library t w item := by
  have howns : ∀ w, World.Writes t w → w.Owns t initial.channelId := fun _ h => .inl h
  have hfnc := triple_fence_keep (d := initial.channelId) (stable_writes (t := t)) howns
  refine (triple_projectPresent stable_writes howns rfl).bind fun projection => ?_
  have hproj : Stable t { reads := true } fun w => World.Writes t w ∧
      Projected library initial.channelId initial.revision projection
        w.runtimes[initial.channelId]? w.db :=
    stable_writes.slot howns rfl fun _ _ _ hgd h => h.guarded hgd
  refine (triple_loadChannel hproj).bind fun result => ?_
  cases result with
  | error error =>
    refine (hfnc.pre fun w hw => hw.1.1).bind fun _ => ?_
    split_ifs
    · refine (triple_optionalTombstoneRevision stable_writes).bind fun tombstone => ?_
      cases tombstone <;> exact triple_done fun _ _ => trivial
    · exact triple_done fun _ _ => trivial
  | ok latest =>
    dsimp only
    split_ifs with hsame
    · obtain rfl := StoredChannel.sameDesiredState_iff.1 hsame
      refine triple_done fun w hw => ?_
      obtain ⟨-, hseen, row, hrow, hrev⟩ := hw.2 initial rfl
      exact hw.1.2.report hseen hrow hrev
    · refine (hfnc.pre fun w hw => hw.1.1).bind fun _ => ?_
      exact triple_done fun _ _ => trivial

theorem triple_reconcileAbsentLocked :
    ChannelTriple t (World.Writes t) (reconcileAbsentLocked d) (TrueResult library t) := by
  refine (triple_optionalTombstoneRevision stable_writes).bind fun tombstone => ?_
  rcases tombstone with error | lastRevision
  · exact triple_done fun _ _ => nofun
  refine (triple_fence stable_writes fun _ h => .inl h).bind fun fenced => ?_
  refine triple_done fun w hw => ?_
  rintro _ ⟨⟩
  cases fenced with
  | error error => exact trivial
  | ok value => exact hw.2 rfl

theorem triple_degradedItemLocked :
    ChannelTriple t (World.Writes t) (degradedItemLocked d) (TrueResult library t) := by
  have hdeg (desired : ChannelDesiredStateObservation) : ChannelTriple t (World.Writes t)
      (fence d >>= fun _ => pure (.ok ⟨d, desired, .degraded⟩)) (TrueResult library t) := by
    refine (triple_fence_keep stable_writes fun _ h => .inl h).bind fun _ => ?_
    refine triple_done fun w hw => ?_
    rintro _ ⟨⟩
    exact trivial
  refine ((triple_loadChannel stable_writes).conseq (fun _ h => h) fun _ _ h => h.1).bind
    fun loaded => ?_
  cases loaded with
  | ok stored => exact hdeg _
  | error error =>
    dsimp only
    split_ifs
    · refine (triple_optionalTombstoneRevision stable_writes).bind fun tombstone => ?_
      cases tombstone with
      | error error => exact triple_done fun _ _ => nofun
      | ok lastRevision => exact hdeg _
    · exact triple_done fun _ _ => nofun

theorem triple_reconcileItem (current : Bool) :
    ChannelTriple t (World.Writes t) (reconcileItem library current d) (TrueResult library t) := by
  cases current with
  | false => exact triple_degradedItemLocked
  | true =>
    refine ((triple_loadChannel stable_writes).conseq (fun _ h => h) fun _ _ h => h.1).bind
      fun loaded => ?_
    cases loaded with
    | ok stored =>
      refine triple_reconcilePresent.bind fun item => ?_
      refine triple_done fun w hw => ?_
      rintro _ ⟨⟩
      exact hw
    | error error =>
      dsimp only
      split_ifs
      · exact triple_reconcileAbsentLocked
      · exact triple_done fun _ _ => nofun

theorem triple_reconcileOne (current : Bool) :
    ChannelTriple t (World.Writes t) (reconcileOne library current d) (TrueItems library t) := by
  unfold reconcileOne
  rcases validateChannelId d with error | valid
  · exact triple_items_error _
  refine (triple_keep stable_writes rfl rfl).bind fun _ => ?_
  refine (triple_reconcileItem current).bind fun result => ?_
  rcases result with error | item
  · exact triple_items_error _
  refine triple_done fun w hw => ?_
  rintro _ ⟨⟩ other hmem
  rw [mem_singleton.1 hmem]
  exact hw item rfl

/-! ### The bulk pass -/

/-- The scope of a bulk pass at one channel: its runtime and its lock. -/
def Scope.bulk (d : ℕ) : Scope := { slot := some d, reads := true, unlocks := some d }

theorem Scope.on_bulk (d : ℕ) : (Scope.on d).Within (.bulk d) := ⟨.inr rfl, id, .inl rfl⟩

/-- The scope of fencing one channel behind its lock. -/
def Scope.fencingBulk (d : ℕ) : Scope := { slot := some d, unlocks := some d }

theorem Scope.fencing_fencingBulk (d : ℕ) : (Scope.fencing d).Within (.fencingBulk d) :=
  ⟨.inr rfl, nofun, .inl rfl⟩

theorem triple_lock_bulk (hF : Stable t .others F) :
    ChannelTriple t F (channelOp (.lockChannel d)) fun _ w =>
      F w ∧ w.channelLocks d = some t := by
  refine triple_op hF (fun w _ => ⟨nofun, nofun⟩) fun w choice hw _ hkp => ?_
  exact ⟨hF _ _ hkp hw, Function.update_self ..⟩

theorem triple_unlock_bulk (hF : Stable t { unlocks := some d } F) :
    ChannelTriple t (fun w => F w ∧ w.channelLocks d = some t) (channelOp (.unlockChannel d))
      fun _ => F := by
  have hlock : Stable t .others fun w => w.channelLocks d = some t :=
    fun w w' hkp h => hkp.locks d nofun h
  refine triple_op (hF.rely.and hlock) ?_ fun w choice hw _ hkp => hF _ _ hkp hw.1
  rintro w ⟨-, hw⟩
  refine ⟨nofun, fun c hc => ?_⟩
  cases hc
  exact hw

theorem stable_lock (hunlocks : scope.unlocks = none) :
    Stable t scope fun w => w.channelLocks d = some t :=
  fun _ _ hkp h => hkp.locks d (by rw [hunlocks]; exact nofun) h

theorem triple_fence_bulk {α : Type} {rest : PortResult Unit → ChannelProgram α}
    {Q : α → World → Prop} (hF : Stable t (.fencingBulk d) F) (howns : ∀ w, F w → w.Owns t d)
    (hrest : ∀ result, ChannelTriple t F (rest result) Q) :
    ChannelTriple t F
      (channelOp (.lockChannel d) >>= fun _ => fence d >>= fun result =>
        channelOp (.unlockChannel d) >>= fun _ => rest result) Q := by
  have hfencing : Stable t (.fencing d) fun w => F w ∧ w.channelLocks d = some t :=
    (hF.mono (Scope.fencing_fencingBulk d)).and (stable_lock rfl)
  refine (triple_lock_bulk hF.rely).bind fun _ => ?_
  refine (triple_fence_keep hfencing fun w h => howns w h.1).bind fun result => ?_
  exact (triple_unlock_bulk (hF.mono ⟨.inl rfl, nofun, .inr rfl⟩)).bind fun _ => hrest result

theorem triple_fenceEach (ids : List ℕ) (first : Option PortError) :
    ChannelTriple t (World.Writes t) (fenceEach ids first) fun _ => World.Writes t := by
  induction ids generalizing first with
  | nil => cases first <;> exact triple_done fun _ h => h
  | cons channelId rest ih =>
    refine triple_fence_bulk stable_writes (fun _ h => .inl h) fun result => ?_
    cases result with
    | error | ok => exact ih _

theorem triple_fenceCurrentRuntimes :
    ChannelTriple t (World.Writes t) fenceCurrentRuntimes fun _ => World.Writes t :=
  (triple_keep stable_writes rfl rfl).bind fun _ => triple_fenceEach _ _

theorem triple_failClosedBulk (error : PortError) :
    ChannelTriple t (World.Writes t) (failClosedBulk error) (TrueItems library t) := by
  refine triple_fenceCurrentRuntimes.bind fun result => ?_
  cases result <;> exact triple_items_error _

variable (library) in
/-- What a bulk pass notes of a channel, as to its slot. -/
def Noted (channelId : ℕ) (entry : Option (ℕ × Bool) × ChannelRuntimeProjection)
    (slot : Option RuntimeSnapshot) (db : Database) : Prop :=
  match entry.2 with
  | .active =>
    ∃ revision enabled, entry.1 = some (revision, enabled) ∧
      Installed library channelId revision slot db
  | .stopped | .removed => slot = none
  | .activationPending | .degraded => True

variable {projection : ChannelRuntimeProjection} {slot : Option RuntimeSnapshot}

theorem Projected.noted {channelId : ℕ} {enabled : Bool} {db : Database}
    (h : Projected library channelId revision projection slot db) :
    Noted library channelId (some (revision, enabled), projection) slot db := by
  cases projection with
  | active => exact ⟨revision, enabled, rfl, h⟩
  | _ => exact h

theorem Noted.guarded {channelId : ℕ} {entry : Option (ℕ × Bool) × ChannelRuntimeProjection}
    {db db' : Database} (h : Noted library channelId entry slot db)
    (hgd : Database.Guarded channelId db db') : Noted library channelId entry slot db' := by
  obtain ⟨expected, projection⟩ := entry
  cases projection with
  | active =>
    obtain ⟨revision, enabled, hexp, row, snapshot, hslot, hbuilt, hpin⟩ := h
    exact ⟨revision, enabled, hexp, row, snapshot, hslot, hbuilt, hpin.guarded hgd⟩
  | _ => exact h

variable (library) in
/-- The snapshots of a bulk pass were built from rows that are pinned. -/
def Loaded (byId : ExtTreeMap ℕ (ℕ × RuntimeSnapshot)) (db : Database) : Prop :=
  ∀ c revision snapshot, byId[c]? = some (revision, snapshot) →
    ∃ row, FromRow library c revision row snapshot ∧ Pinned c row db

variable {byId : ExtTreeMap ℕ (ℕ × RuntimeSnapshot)}

theorem Loaded.guarded {db db' : Database} (h : Loaded library byId db)
    (hgd : ∀ c, Database.Guarded c db db') : Loaded library byId db' := by
  intro c revision snapshot hent
  obtain ⟨row, hbuilt, hpin⟩ := h c revision snapshot hent
  exact ⟨row, hbuilt, hpin.guarded (hgd c)⟩

variable (library) in
/-- What a bulk pass asserts between two channels; `off` is the channel it works on. -/
def Passing (t : ℕ) (byId : ExtTreeMap ℕ (ℕ × RuntimeSnapshot)) (pending : Pending)
    (off : Option ℕ) (w : World) : Prop :=
  w.Writes t ∧ Loaded library byId w.db ∧
    ∀ c entry, off ≠ some c → pending[c]? = some entry →
      Noted library c entry w.runtimes[c]? w.db

theorem stable_passing {pending : Pending} :
    Stable t scope (Passing library t byId pending scope.slot) := by
  rintro w w' hkp ⟨hwrs, hload, hnoted⟩
  refine ⟨hkp.writes hwrs, hload.guarded hkp.guarded, ?_⟩
  intro c entry hc hent
  rw [hkp.runtimes c hc (.inl hwrs)]
  exact (hnoted c entry hc hent).guarded (hkp.guarded c)

theorem triple_projectOne (hF : Stable t (.on d) F) (howns : ∀ w, F w → w.Owns t d)
    (current : Bool) (entry : Option (ℕ × RuntimeSnapshot)) :
    ChannelTriple t
      (fun w => F w ∧ ∀ revision snapshot, entry = some (revision, snapshot) →
        ∃ row, FromRow library d revision row snapshot ∧ Pinned d row w.db)
      (projectOne library current d entry)
      fun noted w => F w ∧ Noted library d noted w.runtimes[d]? w.db := by
  have hfencing : Stable t (.fencing d) F := hF.mono (Scope.fencing_on d)
  rcases entry with _ | ⟨revision, snapshot⟩
  · refine ((triple_fence hfencing howns).pre fun _ h => h.1).bind
      fun fenced => ?_
    cases current with
    | false => exact triple_done fun _ h => ⟨h.1, trivial⟩
    | true =>
      cases fenced with
      | error error => exact triple_done fun _ h => ⟨h.1, trivial⟩
      | ok value => exact triple_done fun _ h => ⟨h.1, h.2 rfl⟩
  · rintro w ⟨hw, hent⟩
    obtain ⟨row, hbuilt, hpin⟩ := hent revision snapshot rfl
    cases current with
    | false =>
      refine ((triple_fence_keep hfencing howns).bind fun _ => ?_) w hw
      exact triple_done fun _ h => ⟨h, trivial⟩
    | true =>
      have hproj : ChannelTriple t (fun w => F w ∧ Pinned d row w.db)
          (projectRuntimeSnapshotLocked library snapshot) fun projection w =>
            F w ∧ Projected library d revision projection w.runtimes[d]? w.db := by
        unfold projectRuntimeSnapshotLocked
        split_ifs
        · rw [activateRuntimeSnapshot_eq, hbuilt.id_eq]
          exact triple_activateChecked ((hF.and stable_pinned).mono (Scope.fencing_on d))
            (hF.mono (Scope.fencing_on d)) (fun _ h => h.1) howns _
            (triple_activate_installed hF howns hbuilt)
        · rw [hbuilt.id_eq]
          exact (triple_projectStopped hF howns).pre fun _ h => h.1
      refine (hproj.bind fun projection => ?_) w ⟨hw, hpin⟩
      exact triple_done fun _ h => ⟨h.1, h.2.noted⟩

theorem triple_projectEach (current : Bool) (byId : ExtTreeMap ℕ (ℕ × RuntimeSnapshot))
    (ids : List ℕ) (pending : Pending) :
    ChannelTriple t (Passing library t byId pending none)
      (projectEach library current byId ids pending)
      fun pending w => Passing library t byId pending none w := by
  induction ids generalizing pending with
  | nil => exact triple_done fun _ h => h
  | cons d rest ih =>
    have hpassing : Stable t (.bulk d) (Passing library t byId pending (some d)) :=
      stable_passing
    have hon : Stable t (.on d) fun w =>
        Passing library t byId pending (some d) w ∧ w.channelLocks d = some t :=
      (hpassing.mono (Scope.on_bulk d)).and (stable_lock rfl)
    refine ((triple_lock_bulk hpassing.rely).conseq ?_ fun _ _ h => h).bind fun _ => ?_
    · rintro w ⟨hwrs, hload, hnoted⟩
      exact ⟨hwrs, hload, fun c entry _ => hnoted c entry nofun⟩
    refine ((triple_projectOne hon (fun w h => .inl h.1.1) current byId[d]?).conseq ?_
      fun _ _ h => h).bind fun noted => ?_
    · intro w hw
      exact ⟨hw, fun revision snapshot => hw.1.2.1 d revision snapshot⟩
    have hunlock : Stable t { unlocks := some d } (Passing library t byId pending (some d)) :=
      hpassing.mono ⟨.inl rfl, nofun, .inr rfl⟩
    have hnoted : Stable t { unlocks := some d } fun w =>
        Passing library t byId pending (some d) w ∧ Noted library d noted w.runtimes[d]? w.db :=
      hunlock.slot (fun w h => .inl h.1) rfl fun _ _ _ hgd h => h.guarded hgd
    refine ((triple_unlock_bulk hnoted).pre fun w hw => ⟨⟨hw.1.1, hw.2⟩, hw.1.2⟩).bind fun _ => ?_
    refine (ih _).conseq ?_ fun _ _ h => h
    rintro w ⟨⟨hwrs, hload, hothers⟩, hd⟩
    refine ⟨hwrs, hload, fun c entry _ hent => ?_⟩
    rw [getElem?_insert_nat] at hent
    split_ifs at hent with hc
    · cases hent
      exact hc ▸ hd
    · exact hothers c entry (fun h => hc (Option.some.inj h)) hent

theorem mapM_mem {α β : Type} {f : α → Option β} {l : List α} {l' : List β}
    (h : l.mapM f = some l') : ∀ b ∈ l', ∃ a ∈ l, f a = some b := by
  induction l generalizing l' with
  | nil =>
    cases h
    exact nofun
  | cons a l ih =>
    rw [mapM_cons] at h
    obtain ⟨b, hb, h⟩ := bind_eq_some_iff.1 h
    obtain ⟨rest, hrest, h⟩ := bind_eq_some_iff.1 h
    cases h
    intro b' hmem
    rcases mem_cons.1 hmem with rfl | hmem
    · exact ⟨a, mem_cons_self .., hb⟩
    · obtain ⟨a', ha', hf⟩ := ih hrest b' hmem
      exact ⟨a', mem_cons_of_mem _ ha', hf⟩

/-- The snapshots of a bulk load were built from the rows that are stored as they are loaded. -/
theorem triple_loadRuntimeSnapshots :
    ChannelTriple t (World.Writes t) (loadRuntimeSnapshots library) fun result w =>
      w.Writes t ∧ ∀ snapshots, result = .ok snapshots → ∀ snapshot ∈ snapshots,
        ∃ c row, FromRow library c row.revision row snapshot ∧ Pinned c row w.db := by
  have hselect : ChannelTriple t (World.Writes t) (channelOp .selectRuntimeChannels)
      fun result w => w.Writes t ∧ ∀ rows, result = some rows → ∀ entry ∈ rows,
        w.db.channels[entry.1]? = some entry.2.1 := by
    refine @triple_quiet t .selectRuntimeChannels (World.Writes t)
      (fun result w => ∀ rows, result = some rows → ∀ entry ∈ rows,
        w.db.channels[entry.1]? = some entry.2.1) stable_writes rfl rfl ?_
    intro w choice _ _
    simp only [channelApply, World.load]
    split
    · rintro _ ⟨⟩
    · rintro _ ⟨⟩ entry hmem
      obtain ⟨stored, hsto, rfl⟩ := List.mem_map.1 hmem
      exact mem_toList_iff_getElem?_eq_some.1 hsto
  refine hselect.bind fun rows => ?_
  rcases rows with _ | rows
  · exact triple_done fun _ h => ⟨h.1, by rintro _ ⟨⟩⟩
  dsimp only
  split
  · exact triple_done fun _ h => ⟨h.1, by rintro _ ⟨⟩⟩
  rename_i snapshots hsnaps
  refine triple_done fun w hw => ⟨hw.1, ?_⟩
  rintro _ ⟨⟩ snapshot hmem
  obtain ⟨entry, hent, hbuilt⟩ := mapM_mem hsnaps snapshot hmem
  exact ⟨entry.1, entry.2.1, builtFrom_of_runtimeSnapshot hbuilt,
    pinned_stored (hw.2 rows rfl entry hent)⟩

theorem loaded_snapshotsById {db : Database} {snapshots : List RuntimeSnapshot}
    {result : ExtTreeMap ℕ (ℕ × RuntimeSnapshot)}
    (hsnaps : ∀ snapshot ∈ snapshots, ∃ c row, FromRow library c row.revision row snapshot ∧
      Pinned c row db)
    (hbyId : Loaded library byId db) (h : snapshotsById snapshots byId = .ok result) :
    Loaded library result db := by
  induction snapshots generalizing byId with
  | nil =>
    cases h
    exact hbyId
  | cons snapshot rest ih =>
    obtain ⟨-, -, h⟩ := bind_eq_ok.1 h
    obtain ⟨c, row, hbuilt, hpin⟩ := hsnaps snapshot (mem_cons_self ..)
    rw [hbuilt.persisted] at h
    dsimp only at h
    split_ifs at h
    refine ih (fun s hs => hsnaps s (mem_cons_of_mem _ hs)) ?_ h
    intro c' revision s hent
    rw [hbuilt.id_eq, getElem?_insert_nat] at hent
    split_ifs at hent with hc
    · cases hent
      exact ⟨row, hc ▸ hbuilt, hc ▸ hpin⟩
    · exact hbyId c' revision s hent

theorem noted_addStored {ids : List ℕ} {pending result : Pending} {w : World}
    (hpend : ∀ c entry, pending[c]? = some entry → Noted library c entry w.runtimes[c]? w.db)
    (h : addStored ids pending = .ok result) :
    ∀ c entry, result[c]? = some entry → Noted library c entry w.runtimes[c]? w.db := by
  induction ids generalizing pending with
  | nil =>
    cases h
    exact hpend
  | cons channelId rest ih =>
    obtain ⟨-, -, h⟩ := bind_eq_ok.1 h
    refine ih ?_ h
    intro c entry hent
    split_ifs at hent with hcont
    · exact hpend c entry hent
    rw [getElem?_insert_nat] at hent
    split_ifs at hent with hc
    · cases hent
      exact trivial
    · exact hpend c entry hent

/-- What was noted of a channel whose revision and flag are unchanged in what the task just read is
    a true report. -/
theorem Noted.report {w : World} {c : ℕ} {expected : Option (ℕ × Bool)}
    (h : Noted library c (expected, projection) w.runtimes[c]? w.db) (hseen : w.seen t = some w.db)
    (hsame : w.db.authority.channels[c]? = expected) :
    TrueReport library t w c (w.db.authority.observation c).revision projection := by
  cases projection with
  | active =>
    obtain ⟨revision, enabled, hexp, hinst⟩ := h
    dsimp only at hexp
    have hauth : w.db.authority.channels[c]? = some (revision, enabled) :=
      hsame.trans hexp
    obtain ⟨row, hrow, hflds⟩ := map_eq_some_iff.1
      (ExtTreeMap.getElem?_map.symm.trans hauth)
    cases hflds
    have hproj : Projected library c row.revision .active w.runtimes[c]? w.db := hinst
    rw [RuntimeAuthority.observation, hauth]
    exact hproj.report hseen hrow rfl
  | _ => exact h

theorem stable_report (hreads : scope.reads = false) {c : ℕ} (hc : scope.slot ≠ some c)
    {revision : Option ℕ} :
    Stable t scope fun w => w.Writes t ∧ TrueReport library t w c revision projection := by
  rintro w w' hkp ⟨hwrs, hrep⟩
  refine ⟨hkp.writes hwrs, ?_⟩
  have hslot := hkp.runtimes c hc (.inl hwrs)
  cases projection with
  | active =>
    obtain ⟨r, row, snapshot, db, hrev, hruntime, hbuilt, hseen, hrow⟩ := hrep
    exact ⟨r, row, snapshot, db, hrev, hslot.trans hruntime, hbuilt,
      (hkp.seen hreads).trans hseen, hrow⟩
  | stopped | removed => exact hslot.trans hrep
  | activationPending | degraded => exact trivial

variable (library) in
/-- The entries whose channels are as the pass projected them are true reports. -/
def Confirmed (t : ℕ) (authority : RuntimeAuthority)
    (entries : List (ℕ × Option (ℕ × Bool) × ChannelRuntimeProjection)) (w : World) : Prop :=
  w.Writes t ∧ ∀ entry ∈ entries, authority.channels[entry.1]? = entry.2.1 →
    TrueReport library t w entry.1 (authority.observation entry.1).revision entry.2.2

variable {authority : RuntimeAuthority}
  {entries : List (ℕ × Option (ℕ × Bool) × ChannelRuntimeProjection)}

/-- Fencing a channel that is not as the pass projected it leaves the other reports true. -/
theorem stable_confirmed (huniq : ∀ a ∈ entries, ∀ b ∈ entries, a.1 = b.1 → a = b)
    {changed : ℕ × Option (ℕ × Bool) × ChannelRuntimeProjection} (hmem : changed ∈ entries)
    (hchg : authority.channels[changed.1]? ≠ changed.2.1) :
    Stable t (.fencingBulk changed.1) (Confirmed library t authority entries) := by
  rintro w w' hkp ⟨hwrs, hreports⟩
  refine ⟨hkp.writes hwrs, fun entry hent hsame => ?_⟩
  have hne : entry.1 ≠ changed.1 := by
    intro heq
    rw [huniq entry hent changed hmem heq] at hsame
    exact hchg hsame
  have hslot : (Scope.fencingBulk changed.1).slot ≠ some entry.1 := fun h =>
    hne (Option.some.inj h).symm
  exact (stable_report rfl hslot w w' hkp ⟨hwrs, hreports entry hent hsame⟩).2

/-- The second loop of the bulk pass fences what changed and reports the rest as it was noted. -/
theorem triple_confirmEach (huniq : ∀ a ∈ entries, ∀ b ∈ entries, a.1 = b.1 → a = b)
    (rest : List (ℕ × Option (ℕ × Bool) × ChannelRuntimeProjection)) (hrest : rest ⊆ entries) :
    ChannelTriple t (Confirmed library t authority entries) (confirmEach authority rest)
      fun items w => Confirmed library t authority entries w ∧
        ∀ item ∈ items, ∃ entry ∈ entries, item.channelId = entry.1 ∧
          (authority.channels[entry.1]? = entry.2.1 ∧
              item.desired = authority.observation entry.1 ∧ item.runtimeProjection = entry.2.2 ∨
            item.runtimeProjection = .degraded) := by
  induction rest with
  | nil => exact triple_done fun _ h => ⟨h, nofun⟩
  | cons entry rest ih =>
    obtain ⟨channelId, expected, projection⟩ := entry
    obtain ⟨hent, hrest⟩ := cons_subset.1 hrest
    unfold confirmEach
    dsimp only
    split_ifs with hsame
    · refine (ih hrest).bind fun items => ?_
      refine triple_done fun w hw => ⟨hw.1, fun item hmem => ?_⟩
      rcases mem_cons.1 hmem with rfl | hmem
      · exact ⟨_, hent, rfl, .inl ⟨hsame, rfl, rfl⟩⟩
      · exact hw.2 item hmem
    · refine triple_fence_bulk (stable_confirmed huniq hent hsame) (fun _ h => .inl h.1)
        fun _ => ?_
      refine (ih hrest).bind fun items => ?_
      refine triple_done fun w hw => ⟨hw.1, fun item hmem => ?_⟩
      rcases mem_cons.1 hmem with rfl | hmem
      · exact ⟨_, hent, rfl, .inr rfl⟩
      · exact hw.2 item hmem

theorem triple_reconcileAll (current : Bool) :
    ChannelTriple t (World.Writes t) (reconcileAll library current) (TrueItems library t) := by
  have hfail {P : World → Prop} (hP : ∀ w, P w → w.Writes t) (error : PortError) :
      ChannelTriple t P (failClosedBulk error) (TrueItems library t) :=
    (triple_failClosedBulk error).conseq hP fun _ _ h => h
  refine triple_loadRuntimeSnapshots.bind fun loaded => ?_
  rcases loaded with error | snapshots
  · exact hfail (fun _ h => h.1) error
  dsimp only
  rcases hbyId : snapshotsById snapshots ∅ with error | byId
  · exact hfail (fun _ h => h.1) error
  have hstart : ∀ w, (w.Writes t ∧ ∀ snapshots', .ok snapshots = (.ok snapshots' : PortResult _) →
      ∀ snapshot ∈ snapshots', ∃ c row, FromRow library c row.revision row snapshot ∧
        Pinned c row w.db) → Passing library t byId ∅ none w := by
    rintro w ⟨hwrs, hsnaps⟩
    refine ⟨hwrs, loaded_snapshotsById (hsnaps snapshots rfl) ?_ hbyId, ?_⟩
    · intro c revision snapshot h
      simp at h
    · intro c entry _ h
      simp at h
  refine ((triple_keep stable_passing rfl rfl).conseq hstart fun _ _ h => h).bind
    fun runtimeIds => ?_
  rcases runtimeIds.forM validateChannelId with error | valid
  · exact hfail (fun _ h => h.1) error
  refine (triple_projectEach current byId _ ∅).bind fun pending => ?_
  have hauth : ChannelTriple t (Passing library t byId pending none)
      (channelOp .selectRuntimeAuthority) fun result w =>
        Passing library t byId pending none w ∧ ∀ authority, result = some authority →
          authority = w.db.authority ∧ w.seen t = some w.db := by
    refine @triple_quiet t .selectRuntimeAuthority (Passing library t byId pending none)
      (fun result w => ∀ authority, result = some authority →
        authority = w.db.authority ∧ w.seen t = some w.db) stable_passing rfl rfl ?_
    intro w choice _ _
    simp only [channelApply, World.load]
    split
    · rintro _ ⟨⟩
    · rintro _ ⟨⟩
      exact ⟨rfl, Function.update_self ..⟩
  refine hauth.bind fun result => ?_
  rcases result with _ | authority
  · exact hfail (fun _ h => h.1.1) _
  dsimp only
  rcases hadded : addStored authority.channels.keys pending with error | added
  · exact hfail (fun _ h => h.1.1) error
  have hconf : ∀ w, (Passing library t byId pending none w ∧
      ∀ a, some authority = some a → a = w.db.authority ∧ w.seen t = some w.db) →
        Confirmed library t authority added.toList w := by
    rintro w ⟨⟨hwrs, -, hnoted⟩, hread⟩
    obtain ⟨rfl, hseen⟩ := hread authority rfl
    refine ⟨hwrs, fun entry hmem hsame => ?_⟩
    have hent := mem_toList_iff_getElem?_eq_some.1 hmem
    exact (noted_addStored (fun c entry => hnoted c entry (by simp)) hadded _ _ hent).report
      hseen hsame
  have huniq : ∀ a ∈ added.toList, ∀ b ∈ added.toList, a.1 = b.1 → a = b := by
    rintro ⟨c, a⟩ ha ⟨c', b⟩ hb rfl
    rw [mem_toList_iff_getElem?_eq_some] at ha hb
    rw [Option.some.inj (ha.symm.trans hb)]
  refine ((triple_confirmEach huniq added.toList (List.Subset.refl _)).conseq
    hconf fun _ _ h => h).bind fun items => ?_
  refine triple_done fun w hw => ?_
  rintro _ ⟨⟩ item hmem
  obtain ⟨entry, hent, hid, ⟨hsame, hdes, hproj⟩ | hdeg⟩ := hw.2 item hmem
  · rw [TrueItem, hid, hdes, hproj]
    exact hw.1.2 entry hent hsame
  · rw [TrueItem, hdeg]
    exact trivial

theorem triple_reconcile (topology : Bool) (scope : ChannelReconciliationScope) :
    ChannelTriple t (fun _ => True) (reconcile library topology scope) fun result w =>
      ∀ receipt, result = .ok receipt → ∀ item ∈ receipt.items, TrueItem library t w item := by
  have htop : ChannelTriple t (World.Writes t) (topologyCurrent topology)
      fun _ => World.Writes t := by
    cases topology with
    | false => exact triple_done fun _ h => h
    | true => exact triple_keep stable_writes rfl rfl
  refine triple_writeGate.bind fun _ => ?_
  refine htop.bind fun current => ?_
  rcases current with error | current
  · exact triple_done fun _ _ => nofun
  have hitems : ChannelTriple t (World.Writes t) (reconcileItems library current scope)
      (TrueItems library t) := by
    cases scope with
    | all => exact triple_reconcileAll current
    | one channelId => exact triple_reconcileOne current
  refine hitems.bind fun result => ?_
  cases result with
  | error error => exact triple_done fun _ _ => nofun
  | ok items =>
    refine triple_done fun w hw => ?_
    rintro _ ⟨⟩
    exact hw items rfl

end Reconciliation

/-! ## Runs -/

/-- The calls of the ports (`channel.rs`). -/
inductive ChannelCall where
  | mutate (mutation : ChannelMutation)
  | reconcile (topology : Bool) (scope : ChannelReconciliationScope)
  | fenceUntrusted (channelIds : List ℕ)

/-- What a call returns. -/
inductive ChannelOutcome where
  | mutated (result : PortResult ChannelMutationReceipt)
  | reconciled (result : PortResult ChannelReconciliationReceipt)
  | fenced (result : PortResult Unit)

/-- The program of a call. -/
def ChannelCall.program (library : ChannelLibrary) : ChannelCall → ChannelProgram ChannelOutcome
  | .mutate mutation => do return .mutated (← Io.mutate library mutation)
  | .reconcile topology scope => do return .reconciled (← Io.reconcile library topology scope)
  | .fenceUntrusted channelIds => do return .fenced (← fenceUntrustedChannels channelIds)

/-- What happens: a task starts a call, goes on with it, or is dropped; another writer changes the
    tables. -/
inductive ChannelEvent where
  | start (task : ℕ) (call : ChannelCall)
  | turn (task : ℕ) (choice : Choice)
  | drop (task : ℕ)
  | write (change : Database → Database)

/-- The turn of an event. -/
def ChannelEvent.toTurn (library : ChannelLibrary) :
    ChannelEvent → Turn channelInterface ℕ Choice World ChannelOutcome
  | .start task call => .start task (call.program library)
  | .turn task choice => .turn task choice
  | .drop task => .drop task
  | .write change => .outside fun w => { w with db := change w.db }

/-- A step of the tasks. -/
def channelStep (library : ChannelLibrary) (config : Config channelInterface ℕ World ChannelOutcome)
    (event : ChannelEvent) : Config channelInterface ℕ World ChannelOutcome :=
  channelMachine.step config (event.toTurn library)

/-- No call is running. -/
def quietConfig (w : World) : Config channelInterface ℕ World ChannelOutcome :=
  ⟨w, fun _ => none, []⟩

/-- Another writer follows the schema's revision rule. -/
def WriterGuarded (config : Config channelInterface ℕ World ChannelOutcome) : ChannelEvent → Prop
  | .write change => ∀ c, Database.Guarded c config.shared.db (change config.shared.db)
  | _ => True

/-- Whatever a call reports of a runtime is true. -/
def TrueOutcome (library : ChannelLibrary) (t : ℕ) (outcome : ChannelOutcome) (w : World) : Prop :=
  match outcome with
  | .mutated result => TrueMutation library t result w
  | .reconciled result =>
    ∀ receipt, result = .ok receipt → ∀ item ∈ receipt.items, TrueItem library t w item
  | .fenced _ => True

theorem triple_program (library : ChannelLibrary) (t : ℕ) (call : ChannelCall) :
    ChannelTriple t (fun _ => True) (call.program library) (TrueOutcome library t) := by
  cases call with
  | mutate mutation => exact (triple_mutate mutation).bind fun _ => triple_done fun _ h => h
  | reconcile topology scope =>
    exact (triple_reconcile topology scope).bind fun _ => triple_done fun _ h => h
  | fenceUntrusted channelIds =>
    have hfnc : ChannelTriple t (fun _ => True) (fenceUntrustedChannels channelIds)
        fun _ => World.Writes t :=
      triple_writeGate.bind fun _ => triple_fenceEach _ _
    exact hfnc.bind fun _ => triple_done fun _ _ => trivial

theorem admitted_of_guarded {library : ChannelLibrary}
    {config : Config channelInterface ℕ World ChannelOutcome} {event : ChannelEvent}
    (h : WriterGuarded config event) :
    Admitted channelMachine Relies (fun _ _ => True) (TrueOutcome library) config
      (event.toTurn library) := by
  cases event with
  | start task call => exact triple_program library task call
  | turn | drop => trivial
  | write change =>
    intro t
    exact
      { guarded := h
        writes := id
        reads := id
        locks := fun _ _ h => h
        runtimes := fun _ _ _ => rfl
        seen := fun _ => rfl }

open Transition in
/-- Whenever a mutation or a reconciliation reports `Active` for a channel at a revision, the
    installed runtime was built from the stored configuration of exactly that revision, which was
    still stored when it was last read after the activation; whenever it reports `Stopped` or
    `Removed`, no runtime is installed. -/
theorem reports_true (library : ChannelLibrary) (w : World) {events : List ChannelEvent}
    (hwriters : EveryStep (channelStep library) WriterGuarded (quietConfig w) events) :
    ∀ report ∈ (run (channelStep library) (quietConfig w) events).reports,
      TrueOutcome library report.1 report.2.1 report.2.2 := by
  have hrun : ∀ (config : Config channelInterface ℕ World ChannelOutcome)
      (events : List ChannelEvent), run (channelStep library) config events =
        run channelMachine.step config (events.map (ChannelEvent.toTurn library)) := by
    intro config events
    induction events generalizing config with
    | nil => rfl
    | cons event events ih => exact ih _
  have hadmitted : EveryStep channelMachine.step
      (Admitted channelMachine Relies (fun _ _ => True) (TrueOutcome library)) (quietConfig w)
      (events.map (ChannelEvent.toTurn library)) := by
    intro n turn hturn
    rw [List.getElem?_map] at hturn
    obtain ⟨event, hevent, rfl⟩ := map_eq_some_iff.1 hturn
    rw [← map_take, ← hrun]
    exact admitted_of_guarded (hwriters n event hevent)
  rw [hrun]
  exact channel_relyGuarantee.reports (fun _ => trivial) hadmitted

/-! ### Runs with another writer -/

/-- A library that takes every configuration. -/
def acceptingLibrary : ChannelLibrary where
  decode _ := .ok ⟨none, .empty, {}⟩
  encode _ := .ok ""
  resolve := some
  validateChannel _ := true
  trim := id

/-- An enabled row at its first revision. -/
def firstRow (name : String) : ChannelRow := ⟨name, some "virtual", true, none, 1⟩

/-- Two enabled channels and no runtime. -/
def twoChannels : World where
  db := ⟨(∅ : ExtTreeMap ℕ ChannelRow).insert 1 (firstRow "pump") |>.insert 2 (firstRow "valve"), ∅,
    fun _ => [], fun _ => 0⟩
  runtimes := ∅
  gate := .read []
  channelLocks _ := none
  allocationLock := none
  seen _ := none

/-- A bulk pass over two channels with another writer just before the last look at the tables. -/
def bulkPass (change : Database → Database) : List ChannelEvent :=
  .start 0 (.reconcile false .all) :: List.replicate 17 (.turn 0 {}) ++
    .write change :: List.replicate 5 (.turn 0 {})

/-- The writer moves each of the two rows to the other's identity. -/
def swapRows (db : Database) : Database :=
  { db with
    channels := (∅ : ExtTreeMap ℕ ChannelRow).insert 1 (firstRow "valve") |>.insert 2
      (firstRow "pump") }

/-- The items of a report, the name the runtime of a channel was built with and the name the task
    last read. -/
def reportOf (channelId : ℕ) (report : ℕ × ChannelOutcome × World) :
    List ChannelReconciliationItem × Option String × Option String :=
  (match report.2.1 with
    | .reconciled (.ok receipt) => receipt.items
    | _ => [],
   report.2.2.runtimes[channelId]?.map fun snapshot => snapshot.base.name,
   (report.2.2.seen report.1).bind fun db => db.channels[channelId]?.map ChannelRow.name)

/-- The bulk pass reports a channel as active at its revision although the runtime was built from
    the row that now belongs to the other channel. -/
theorem swapped_rows_reported :
    ∃ report ∈ (Transition.run (channelStep acceptingLibrary) (quietConfig twoChannels)
      (bulkPass swapRows)).reports, ¬TrueOutcome acceptingLibrary report.1 report.2.1 report.2.2 := by
  have hreports : (Transition.run (channelStep acceptingLibrary) (quietConfig twoChannels)
      (bulkPass swapRows)).reports.map (reportOf 1) =
        [([⟨1, .present 1 true, .active⟩, ⟨2, .present 1 true, .active⟩], some "pump",
          some "valve")] := by
    decide +kernel
  obtain ⟨⟨t, outcome, w⟩, rest, heq, hreport, -⟩ := map_eq_cons_iff.1 hreports
  refine ⟨(t, outcome, w), by rw [heq]; exact mem_cons_self .., fun htrue => ?_⟩
  obtain ⟨hitems, hbuilt, hread⟩ : _ ∧ w.runtimes[1]?.map (fun s => s.base.name) = some "pump" ∧
      (w.seen t).bind (fun db => db.channels[1]?.map ChannelRow.name) = some "valve" := by
    rw [reportOf, Prod.mk.injEq, Prod.mk.injEq] at hreport
    exact hreport
  have hitem : TrueReport acceptingLibrary t w 1 (some 1) .active := by
    match outcome, htrue, hitems with
    | .reconciled (.ok receipt), htrue, hitems =>
      exact htrue receipt rfl ⟨1, .present 1 true, .active⟩
        (by rw [show receipt.items = _ from hitems]; exact mem_cons_self ..)
  obtain ⟨r, row, snapshot, db, -, hruntime, hfrom, hseen, hrow⟩ := hitem
  rw [hruntime] at hbuilt
  rw [hseen, bind_some, hrow] at hread
  have hname : snapshot.base.name = row.name := hfrom.name_eq
  have hpump : snapshot.base.name = "pump" := Option.some.inj hbuilt
  have hvalve : row.name = "valve" := Option.some.inj hread
  rw [hpump, hvalve] at hname
  exact absurd hname (by decide)

/-- Another writer that disables the second channel as the schema demands. -/
def disableSecond (db : Database) : Database :=
  match db.updateEnabled 2 1 2 false with
  | .ok (_, changed) => changed
  | .error _ => db

/-- The first channel is reported as active, the second is fenced. -/
theorem disabled_meanwhile_reported :
    (∀ report ∈ (Transition.run (channelStep acceptingLibrary) (quietConfig twoChannels)
      (bulkPass disableSecond)).reports,
        TrueOutcome acceptingLibrary report.1 report.2.1 report.2.2) ∧
    (Transition.run (channelStep acceptingLibrary) (quietConfig twoChannels)
      (bulkPass disableSecond)).reports.length = 1 := by
  have hguarded : ∀ db c, Database.Guarded c db (disableSecond db) := by
    intro db c
    unfold disableSecond
    split
    · rename_i h
      exact (Database.raises_updateWhere h).guarded c
    · exact .refl c db
  refine ⟨reports_true acceptingLibrary twoChannels ?_, by decide +kernel⟩
  intro n event hevent
  cases event with
  | write change =>
    have hmem := List.mem_of_getElem? hevent
    simp only [bulkPass, mem_cons, mem_append, mem_replicate, reduceCtorEq, false_or,
      and_false, ChannelEvent.write.injEq, or_false] at hmem
    rw [hmem]
    exact fun c => hguarded _ c
  | _ => trivial

end AetherEdge.Io
