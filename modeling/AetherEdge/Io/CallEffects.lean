import AetherEdge.Io.AutomaticReconciliation
import AetherEdge.Io.ChannelTriples

/-!
# What a call of the adapter leaves

One call at a time, with any tables and any failures at each of its steps. A reconciliation of one
channel only acts on that channel's runtime and reports exactly that channel (`confined_reconcileOne`);
a full pass that returns items has one for every runtime it leaves (`leads_reconcileAll`); a fence
whose slots are not busy removes exactly the runtimes it is given (`call_fenceUntrustedChannels`).
-/

namespace AetherEdge.Io

open Std (ExtTreeMap)
open OrderedMap Program Std.ExtTreeMap

variable {ids : List ℕ}

theorem mem_idSet {c : ℕ} : c ∈ idSet ids ↔ c ∈ ids := by
  rw [idSet, Std.ExtTreeSet.mem_toList, Std.ExtTreeSet.mem_ofList, List.contains_iff_mem]

theorem idSet_sorted (ids : List ℕ) : (idSet ids).Pairwise (· < ·) :=
  Std.ExtTreeSet.ordered_toList.imp fun h => Nat.compare_eq_lt.1 h

/-! ## Runtimes an operation acts on -/

/-- The operation acts on no runtime but those of `S`. -/
def ActsOn (S : ℕ → Prop) (op : ChannelOp) : Prop := ∀ c, op.scope.slot = some c → S c

theorem runtimes_channelApply {t c : ℕ} {op : ChannelOp} {choice : Choice} {w : World}
    (hc : op.scope.slot ≠ some c) :
    (channelApply t op choice w).2.runtimes[c]? = w.runtimes[c]? := by
  by_cases henab : channelEnabled op w = true
  · exact (effect_apply op henab).runtimes hc
  -- only the locks have to wait
  cases op with
  | readGate | writeGate | lockChannel | lockAllocation => rfl
  | _ => exact absurd rfl henab

theorem runtimes_callHandle {S : ℕ → Prop} {moments : ℕ → Moment} {s : CallState} {op : ChannelOp}
    (hop : ActsOn S op) {c : ℕ} (hc : ¬S c) :
    (callHandle moments s op).2.world.runtimes[c]? = s.world.runtimes[c]? :=
  runtimes_channelApply fun h => hc (hop c h)

theorem runtimes_call {α : Type} {S : ℕ → Prop} {p : ChannelProgram α} (hp : p.Calls (ActsOn S))
    (moments : ℕ → Moment) (w : World) {c : ℕ} (hc : ¬S c) :
    (call moments p w).2.runtimes[c]? = w.runtimes[c]? := by
  have hleads : Leads (callHandle moments) (fun s => s.world.runtimes[c]? = w.runtimes[c]?) p
      fun _ s => s.world.runtimes[c]? = w.runtimes[c]? :=
    hp.leads fun s op hop hs => (runtimes_callHandle hop hc).trans hs
  exact hleads ⟨w, 0⟩ rfl

section Calls

variable {S : ℕ → Prop} {d : ℕ} {α β : Type}

/-- The program acts on no runtime but those of `S`, and only ends with values that meet `R`. -/
structure Confined (S : ℕ → Prop) (R : α → Prop) (p : ChannelProgram α) : Prop where
  calls : p.Calls (ActsOn S)
  always : p.Always R

theorem confined_done {R : α → Prop} {value : α} (h : R value) : Confined S R (.done value) :=
  ⟨trivial, h⟩

theorem confined_of_calls {p : ChannelProgram α} (h : p.Calls (ActsOn S)) :
    Confined S (fun _ => True) p :=
  ⟨h, always_of_forall (fun _ => trivial) p⟩

theorem Confined.bind {A : α → Prop} {R : β → Prop} {p : ChannelProgram α}
    {f : α → ChannelProgram β} (hp : Confined S A p) (hf : ∀ value, A value → Confined S R (f value)) :
    Confined S R (p >>= f) where
  calls := calls_bind_of_always hp.calls hp.always fun value h => (hf value h).calls
  always := always_bind (hp.always.mono fun value h => (hf value h).always)

theorem calls_quiet {op : ChannelOp} (hslot : op.scope.slot = none) :
    (channelOp op).Calls (ActsOn S) :=
  calls_call (fun c hc => by rw [hslot] at hc; cases hc) fun _ => trivial

theorem confined_quiet {op : ChannelOp} (hslot : op.scope.slot = none) :
    Confined S (fun _ => True) (channelOp op) :=
  confined_of_calls (calls_quiet hslot)

theorem calls_getChannel : (channelOp (.getChannel d)).Calls (ActsOn S) := calls_quiet rfl

theorem calls_removeChannel (hd : S d) : (channelOp (.removeChannel d)).Calls (ActsOn S) := by
  refine calls_call (fun c hc => ?_) fun _ => trivial
  cases hc
  exact hd

theorem calls_fence (hd : S d) : (fence d).Calls (ActsOn S) := by
  refine calls_bind calls_getChannel fun present => ?_
  cases present with
  | false => trivial
  | true =>
    refine calls_bind (calls_removeChannel hd) fun removed => ?_
    cases removed <;> trivial

theorem confined_fence (hd : S d) : Confined S (fun _ => True) (fence d) :=
  confined_of_calls (calls_fence hd)

theorem calls_fencePresent (hd : S d) : (fencePresent d).Calls (ActsOn S) := by
  refine calls_bind calls_getChannel fun present => ?_
  cases present with
  | false => trivial
  | true => exact calls_fence hd

variable {snapshot : RuntimeSnapshot}

theorem calls_activate (hd : S snapshot.base.id) : (activate snapshot).Calls (ActsOn S) := by
  have hinst : (installed snapshot).Calls (ActsOn S) := by
    refine calls_bind calls_getChannel fun present => ?_
    cases present with
    | true => trivial
    | false =>
      refine calls_call (fun c hc => ?_) fun _ => trivial
      cases hc
      exact hd
  refine calls_bind hinst fun present => ?_
  cases present with
  | false => trivial
  | true =>
    refine calls_bind (calls_quiet rfl) fun connected => ?_
    cases connected with
    | true => trivial
    | false =>
      refine calls_bind (calls_quiet rfl) fun connects => ?_
      cases connects with
      | true => trivial
      | false => exact calls_bind (calls_removeChannel hd) fun _ => trivial

theorem confined_loadChannel : Confined S (fun result => ∀ stored, result = .ok stored →
    stored.channelId = d) (loadChannel d) := by
  refine (confined_quiet rfl).bind fun result _ => ?_
  rcases result with error | row
  · exact confined_done nofun
  refine confined_done fun stored hsto => ?_
  obtain ⟨found, -, -, -, hflds⟩ := storedChannel_ok hsto
  rw [hflds]

theorem confined_optionalTombstoneRevision :
    Confined S (fun _ => True) (optionalTombstoneRevision d) := by
  have hload : Confined S (fun _ => True) (loadTombstoneRevision d) := by
    refine (confined_quiet rfl).bind fun result _ => ?_
    rcases result with error | (_ | revision) <;> exact confined_done trivial
  refine hload.bind fun result _ => ?_
  cases result <;> exact confined_done trivial

variable {library : ChannelLibrary}

theorem id_runtimeSnapshot {row : ChannelRow} {points : PointTable → List Bytes}
    (h : runtimeSnapshot library d row points = some snapshot) : snapshot.base.id = d := by
  obtain ⟨parsed, hpars, rfl⟩ := Option.map_eq_some_iff.1 h
  unfold parseChannelRow at hpars
  split at hpars
  · split_ifs at hpars
    cases hpars
    rfl
  · cases hpars

theorem calls_activateRevision {revision : ℕ} (hd : S d) :
    (activateRevision library d revision).Calls (ActsOn S) := by
  have hload : Confined S (fun result => ∀ snapshot, result = .ok snapshot → snapshot.base.id = d)
      (loadRuntimeSnapshot library d revision) := by
    refine (confined_quiet rfl).bind fun result _ => ?_
    rcases result with _ | ⟨_ | row, points⟩
    · exact confined_done nofun
    · exact confined_done nofun
    dsimp only
    rcases hsnap : runtimeSnapshot library d row points with _ | snapshot
    · exact confined_done nofun
    dsimp only
    split_ifs
    · refine confined_done ?_
      rintro _ ⟨⟩
      exact id_runtimeSnapshot hsnap
    · exact confined_done nofun
  refine calls_bind_of_always hload.calls hload.always fun result hres => ?_
  cases result with
  | error error => trivial
  | ok snapshot =>
    refine calls_activate ?_
    rw [hres snapshot rfl]
    exact hd

theorem calls_projectStopped (hd : S d) : (projectStopped d).Calls (ActsOn S) :=
  calls_bind (calls_fence hd) fun _ => trivial

/-! ## One channel -/

theorem calls_activateChecked (hd : S d) (checked : PortResult Unit)
    {activation : ChannelProgram (PortResult Unit)} (hact : activation.Calls (ActsOn S)) :
    (activateChecked checked d activation).Calls (ActsOn S) := by
  have hdeg : (fence d >>= fun _ => pure ChannelRuntimeProjection.degraded).Calls (ActsOn S) :=
    calls_bind (calls_fence hd) fun _ => trivial
  rcases checked with error | valid
  · exact hdeg
  refine calls_bind (calls_fencePresent hd) fun fenced => ?_
  rcases fenced with error | value
  · trivial
  refine calls_bind hact fun activated => ?_
  cases activated with
  | error error => exact hdeg
  | ok value => trivial

theorem confined_reconcilePresent {initial : StoredChannel} (hd : S initial.channelId) :
    Confined S (fun item => item.channelId = initial.channelId)
      (reconcilePresent library initial) := by
  have hproj : (projectPresent library initial).Calls (ActsOn S) := by
    unfold projectPresent
    split_ifs
    · exact calls_projectStopped hd
    · exact calls_activateChecked hd _ (calls_activateRevision hd)
  refine (confined_of_calls hproj).bind fun projection _ => ?_
  refine confined_loadChannel.bind fun result _ => ?_
  cases result with
  | error error =>
    refine (confined_fence hd).bind fun _ _ => ?_
    split_ifs
    · refine confined_optionalTombstoneRevision.bind fun tombstone _ => ?_
      cases tombstone <;> exact confined_done rfl
    · exact confined_done rfl
  | ok latest =>
    dsimp only
    split_ifs
    · exact confined_done rfl
    · exact (confined_fence hd).bind fun _ _ => confined_done rfl

/-- An item is that of the channel. -/
def Names (d : ℕ) (result : PortResult ChannelReconciliationItem) : Prop :=
  ∀ item, result = .ok item → item.channelId = d

theorem names_ok (desired : ChannelDesiredStateObservation) (projection : ChannelRuntimeProjection) :
    Names d (.ok ⟨d, desired, projection⟩) := by
  rintro _ ⟨⟩
  rfl

theorem confined_reconcileAbsentLocked (hd : S d) :
    Confined S (Names d) (reconcileAbsentLocked d) := by
  refine confined_optionalTombstoneRevision.bind fun tombstone _ => ?_
  cases tombstone with
  | error error => exact confined_done nofun
  | ok lastRevision => exact (confined_fence hd).bind fun _ _ => confined_done (names_ok _ _)

theorem confined_degradedItemLocked (hd : S d) :
    Confined S (Names d) (degradedItemLocked d) := by
  have hdeg (desired : ChannelDesiredStateObservation) : Confined S (Names d)
      (fence d >>= fun _ => pure (.ok ⟨d, desired, .degraded⟩)) :=
    (confined_fence hd).bind fun _ _ => confined_done (names_ok _ _)
  refine confined_loadChannel.bind fun result _ => ?_
  cases result with
  | ok stored => exact hdeg _
  | error error =>
    dsimp only
    split_ifs
    · refine confined_optionalTombstoneRevision.bind fun tombstone _ => ?_
      cases tombstone with
      | error error => exact confined_done nofun
      | ok lastRevision => exact hdeg _
    · exact confined_done nofun

variable (current : Bool)

theorem confined_reconcileItem (hd : S d) :
    Confined S (Names d) (reconcileItem library current d) := by
  cases current with
  | false => exact confined_degradedItemLocked hd
  | true =>
    refine confined_loadChannel.bind fun result hres => ?_
    cases result with
    | ok stored =>
      obtain rfl := hres stored rfl
      refine (confined_reconcilePresent hd).bind fun item hitem => confined_done ?_
      rintro _ ⟨⟩
      exact hitem
    | error error =>
      dsimp only
      split_ifs
      · exact confined_reconcileAbsentLocked hd
      · exact confined_done nofun

theorem calls_topologyCurrent (topology : Bool) : (topologyCurrent topology).Calls (ActsOn S) := by
  cases topology with
  | false => trivial
  | true => exact calls_quiet rfl

/-- A reconciliation of one channel acts on its runtime only, and its receipt has one item, which
    names the channel. -/
theorem confined_reconcileOne (topology : Bool) (d : ℕ) :
    Confined (· = d) (fun result => ∀ receipt, result = .ok receipt →
      ∃ item, receipt.items = [item] ∧ item.channelId = d)
      (reconcile library topology (.one d)) := by
  refine (confined_quiet rfl).bind fun _ _ => ?_
  refine (confined_of_calls (calls_topologyCurrent topology)).bind fun current _ => ?_
  rcases current with error | current
  · exact confined_done nofun
  have hone : Confined (· = d) (fun result => ∀ items, result = .ok items →
      ∃ item, items = [item] ∧ item.channelId = d) (reconcileOne library current d) := by
    unfold reconcileOne
    rcases validateChannelId d with error | valid
    · exact confined_done nofun
    refine (confined_quiet rfl).bind fun _ _ => ?_
    refine (confined_reconcileItem (S := (· = d)) current rfl).bind fun result hres => ?_
    rcases result with error | item
    · exact confined_done nofun
    refine confined_done ?_
    rintro _ ⟨⟩
    exact ⟨item, rfl, hres item rfl⟩
  refine hone.bind fun result hres => ?_
  rcases result with error | items
  · exact confined_done nofun
  refine confined_done ?_
  rintro _ ⟨⟩
  exact hres items rfl

/-! ## The full pass -/

/-- The snapshots are stored under their own identities. -/
def KeyedById (byId : ExtTreeMap ℕ (ℕ × RuntimeSnapshot)) : Prop :=
  ∀ (c revision : ℕ) (snapshot : RuntimeSnapshot),
    byId[c]? = some (revision, snapshot) → snapshot.base.id = c

theorem keyedById_snapshotsById {snapshots : List RuntimeSnapshot}
    {byId result : ExtTreeMap ℕ (ℕ × RuntimeSnapshot)} (hbyId : KeyedById byId)
    (h : snapshotsById snapshots byId = .ok result) : KeyedById result := by
  induction snapshots generalizing byId with
  | nil =>
    cases h
    exact hbyId
  | cons snapshot rest ih =>
    obtain ⟨-, -, h⟩ := bind_eq_ok.1 h
    split at h
    · cases h
    split_ifs at h
    refine ih (fun c revision s hent => ?_) h
    rw [getElem?_insert_nat] at hent
    split_ifs at hent with hc
    · cases hent
      exact hc
    · exact hbyId c revision s hent

theorem calls_projectOne {entry : Option (ℕ × RuntimeSnapshot)} (hd : S d)
    (hent : ∀ revision snapshot, entry = some (revision, snapshot) → snapshot.base.id = d) :
    (projectOne library current d entry).Calls (ActsOn S) := by
  rcases entry with _ | ⟨revision, snapshot⟩
  · refine calls_bind (calls_fence hd) fun fenced => ?_
    cases current <;> trivial
  have hid : S snapshot.base.id := hent revision snapshot rfl ▸ hd
  cases current with
  | false => exact calls_bind (calls_fence hd) fun _ => trivial
  | true =>
    have hproj : (projectRuntimeSnapshotLocked library snapshot).Calls (ActsOn S) := by
      unfold projectRuntimeSnapshotLocked
      split_ifs
      · exact calls_activateChecked hid _ (calls_activate hid)
      · exact calls_projectStopped hid
    exact calls_bind hproj fun _ => trivial

/-- The first loop notes every channel it is given. -/
theorem confined_projectEach {byId : ExtTreeMap ℕ (ℕ × RuntimeSnapshot)} (hbyId : KeyedById byId)
    (hids : ∀ c ∈ ids, S c) (pending : Pending) :
    Confined S (fun result => (∀ c ∈ ids, c ∈ result) ∧ ∀ c ∈ pending, c ∈ result)
      (projectEach library current byId ids pending) := by
  induction ids generalizing pending with
  | nil => exact confined_done ⟨nofun, fun _ h => h⟩
  | cons d rest ih =>
    have hd : S d := hids d (List.mem_cons_self ..)
    refine (confined_quiet rfl).bind fun _ _ => ?_
    refine (confined_of_calls (calls_projectOne current hd (hbyId d))).bind fun entry _ => ?_
    refine (confined_quiet rfl).bind fun _ _ => ?_
    have hrest := ih (fun c hc => hids c (List.mem_cons_of_mem _ hc)) (pending.insert d entry)
    refine ⟨hrest.calls, hrest.always.mono fun result hres => ⟨?_, ?_⟩⟩
    · intro c hc
      rcases List.mem_cons.1 hc with rfl | hc
      · exact hres.2 c mem_insert_self
      · exact hres.1 c hc
    · exact fun c hc => hres.2 c (mem_insert.2 (.inr hc))

theorem mem_addStored {pending result : Pending} (h : addStored ids pending = .ok result) {c : ℕ}
    (hc : c ∈ pending) : c ∈ result := by
  induction ids generalizing pending with
  | nil =>
    cases h
    exact hc
  | cons d rest ih =>
    obtain ⟨-, -, h⟩ := bind_eq_ok.1 h
    refine ih h ?_
    split_ifs
    · exact hc
    · exact mem_insert.2 (.inr hc)

/-- The second loop has an item for every channel that was noted. -/
theorem confined_confirmEach (authority : RuntimeAuthority)
    {entries : List (ℕ × Option (ℕ × Bool) × ChannelRuntimeProjection)}
    (hents : ∀ entry ∈ entries, S entry.1) :
    Confined S (fun items => ∀ entry ∈ entries, ∃ item ∈ items, item.channelId = entry.1)
      (confirmEach authority entries) := by
  induction entries with
  | nil => exact confined_done nofun
  | cons entry rest ih =>
    obtain ⟨d, expected, projection⟩ := entry
    have hd : S d := hents _ (List.mem_cons_self ..)
    have hrest := ih fun entry hent => hents entry (List.mem_cons_of_mem _ hent)
    have hcons (item : ChannelReconciliationItem) (hitem : item.channelId = d) :
        Confined S (fun items => ∀ entry ∈ (d, expected, projection) :: rest,
          ∃ item ∈ items, item.channelId = entry.1)
          (confirmEach authority rest >>= fun items => pure (item :: items)) := by
      refine hrest.bind fun items hitems => confined_done ?_
      intro entry hent
      rcases List.mem_cons.1 hent with rfl | hent
      · exact ⟨item, List.mem_cons_self .., hitem⟩
      · obtain ⟨other, hoth, hid⟩ := hitems entry hent
        exact ⟨other, List.mem_cons_of_mem _ hoth, hid⟩
    unfold confirmEach
    dsimp only
    split_ifs
    · exact hcons _ rfl
    · refine (confined_quiet rfl).bind fun _ _ => ?_
      refine (confined_fence hd).bind fun _ _ => ?_
      refine (confined_quiet rfl).bind fun _ _ => ?_
      exact hcons _ rfl

theorem always_failClosedBulk {α : Type} (error : PortError) :
    (failClosedBulk error : ChannelProgram (PortResult α)).Always fun result =>
      ∀ value, result ≠ .ok value := by
  refine always_bind_of_forall _ fun result => ?_
  cases result <;> exact nofun

/-- Every runtime is in the list. -/
def Covered (ids : List ℕ) (s : CallState) : Prop := ∀ c, s.world.runtimes[c]? ≠ none → c ∈ ids

/-- A pass that acts on the channels of the list keeps the runtimes in it. -/
theorem leads_covered {α : Type} {moments : ℕ → Moment} {p : ChannelProgram α}
    (hp : p.Calls (ActsOn (· ∈ ids))) :
    Leads (callHandle moments) (Covered ids) p fun _ => Covered ids := by
  refine hp.leads fun s op hop hs c hc => ?_
  by_contra hmem
  rw [runtimes_callHandle hop hmem] at hc
  exact hmem (hs c hc)

theorem leads_confined {α : Type} {moments : ℕ → Moment} {R : α → Prop} {p : ChannelProgram α}
    (hp : Confined (· ∈ ids) R p) :
    Leads (callHandle moments) (Covered ids) p fun value s => R value ∧ Covered ids s :=
  hp.always.leads (leads_covered hp.calls)

/-- If there are items, every runtime has one. -/
def Itemised (result : PortResult (List ChannelReconciliationItem)) (s : CallState) : Prop :=
  ∀ items, result = .ok items → Covered (items.map ChannelReconciliationItem.channelId) s

variable (moments : ℕ → Moment)

theorem leads_failClosedBulk {P : CallState → Prop} (error : PortError) :
    Leads (callHandle moments) P (failClosedBulk error) Itemised :=
  fun s _ items hitems => absurd hitems ((always_failClosedBulk error).eval s items)

/-- The second loop of a full pass has an item for every runtime it leaves. -/
theorem leads_confirmEach (authority : RuntimeAuthority)
    (entries : List (ℕ × Option (ℕ × Bool) × ChannelRuntimeProjection)) :
    Leads (callHandle moments) (Covered (entries.map Prod.fst))
      (confirmEach authority entries >>= fun items => pure (Except.ok items)) Itemised := by
  refine (leads_confined (confined_confirmEach authority fun entry hent =>
    List.mem_map_of_mem hent)).bind fun items => ?_
  refine leads_done fun s hs => ?_
  rintro _ ⟨⟩ c hc
  obtain ⟨entry, hent, rfl⟩ := List.mem_map.1 (hs.2 c hc)
  obtain ⟨item, hitem, hid⟩ := hs.1 entry hent
  exact List.mem_map.2 ⟨item, hitem, hid⟩

/-- A full pass that returns items has one for every runtime it leaves. -/
theorem leads_reconcileAll (current : Bool) :
    Leads (callHandle moments) (fun _ => True) (reconcileAll library current) Itemised := by
  have hload : Leads (callHandle moments) (fun _ => True) (loadRuntimeSnapshots library)
      fun _ _ => True := fun _ _ => trivial
  refine hload.bind fun loaded => ?_
  rcases loaded with error | snapshots
  · exact leads_failClosedBulk moments error
  dsimp only
  rcases hbyId : snapshotsById snapshots ∅ with error | byId
  · exact leads_failClosedBulk moments error
  have hkeyed : KeyedById byId := by
    refine keyedById_snapshotsById ?_ hbyId
    intro c revision snapshot h
    simp at h
  have hids : Leads (callHandle moments) (fun _ => True) (channelOp .channelIds) Covered := by
    intro s _ c hc
    refine mem_keys.2 (mem_iff_getElem?.2 ?_)
    exact Option.ne_none_iff_exists'.1 hc
  refine hids.bind fun runtimeIds => ?_
  rcases runtimeIds.forM validateChannelId with error | valid
  · exact leads_failClosedBulk moments error
  generalize hall : idSet (byId.keys ++ runtimeIds) = ids
  have hcov : ∀ s, Covered runtimeIds s → Covered ids s := by
    intro s hs c hc
    rw [← hall]
    exact mem_idSet.2 (List.mem_append_right _ (hs c hc))
  refine ((leads_confined (confined_projectEach current hkeyed (fun _ h => h) ∅)).pre
    hcov).bind fun pending => ?_
  have hquiet : (channelOp .selectRuntimeAuthority).Calls (ActsOn (· ∈ ids)) :=
    calls_quiet rfl
  have hauth : Leads (callHandle moments)
      (fun s => ((∀ c ∈ ids, c ∈ pending) ∧ ∀ c ∈ (∅ : Pending), c ∈ pending) ∧ Covered ids s)
      (channelOp .selectRuntimeAuthority) fun _ s =>
        (∀ c ∈ ids, c ∈ pending) ∧ Covered ids s :=
    fun s hs => ⟨hs.1.1, leads_covered hquiet s hs.2⟩
  refine hauth.bind fun authority => ?_
  rcases authority with _ | authority
  · exact leads_failClosedBulk moments _
  dsimp only
  rcases hadded : addStored authority.channels.keys pending with error | added
  · exact leads_failClosedBulk moments error
  refine (leads_confirmEach moments authority added.toList).conseq ?_ fun _ _ h => h
  rintro s ⟨hpend, hs⟩ c hc
  rw [map_fst_toList_eq_keys, mem_keys]
  exact mem_addStored hadded (hpend c (hs c hc))

/-- The receipt of a full pass has an item for every runtime the pass leaves. -/
theorem call_reconcileAll (topology : Bool) (w : World) {receipt : ChannelReconciliationReceipt}
    (h : (call moments (reconcile library topology .all) w).1 = .ok receipt) {c : ℕ}
    (hc : (call moments (reconcile library topology .all) w).2.runtimes[c]? ≠ none) :
    ∃ item ∈ receipt.items, item.channelId = c := by
  have hleads : Leads (callHandle moments) (fun _ => True) (reconcile library topology .all)
      fun result s => ∀ receipt, result = .ok receipt →
        Covered (receipt.items.map ChannelReconciliationItem.channelId) s := by
    refine leads_call (R := fun _ _ => True) (fun _ _ => trivial) fun _ => ?_
    have htop : Leads (callHandle moments) (fun _ => True) (topologyCurrent topology)
        fun _ _ => True := fun _ _ => trivial
    refine htop.bind fun current => ?_
    rcases current with error | current
    · exact leads_done fun _ _ => nofun
    refine (leads_reconcileAll moments current).bind fun result => ?_
    cases result with
    | error error => exact leads_done fun _ _ => nofun
    | ok items =>
      refine leads_done fun s hs => ?_
      rintro _ ⟨⟩
      exact hs items rfl
  obtain ⟨item, hitem, hid⟩ := List.mem_map.1 (hleads ⟨w, 0⟩ trivial receipt h c hc)
  exact ⟨item, hitem, hid⟩

end Calls

/-! ## Fences -/

section Fences

variable {moments : ℕ → Moment}

/-- No slot is busy. -/
def Unblocked (moments : ℕ → Moment) : Prop :=
  ∀ n op, ((moments n).choice op).busy = false

theorem erase_of_not_mem {m : ExtTreeMap ℕ RuntimeSnapshot} {d : ℕ} (h : m.contains d = false) :
    m.erase d = m := by
  refine ext_getElem? fun c => ?_
  rw [getElem?_erase_nat]
  split_ifs with hc
  · rw [← hc]
    exact (getElem?_eq_none_of_contains_eq_false h).symm
  · rfl

/-- A fence whose slot is not busy succeeds and removes its runtime only. -/
theorem eval_fence (hfree : Unblocked moments) (d : ℕ) (s : CallState) :
    ((fence d).eval (callHandle moments) s).1 = .ok () ∧
      ((fence d).eval (callHandle moments) s).2.world.runtimes = s.world.runtimes.erase d := by
  unfold fence
  simp only [channelOp_bind, eval_call]
  cases hpres : s.world.runtimes.contains d with
  | false =>
    have hget : (callHandle moments s (.getChannel d)).1 = false := hpres
    rw [hget]
    exact ⟨rfl, (erase_of_not_mem hpres).symm⟩
  | true =>
    have hget : (callHandle moments s (.getChannel d)).1 = true := hpres
    rw [hget]
    simp only [if_true, eval_call, callHandle, channelApply, hfree _ _, hpres]
    exact ⟨rfl, rfl⟩

theorem eval_fenceEach (hfree : Unblocked moments) (ids : List ℕ) (s : CallState) :
    ((fenceEach ids none).eval (callHandle moments) s).1 = .ok () ∧
      ((fenceEach ids none).eval (callHandle moments) s).2.world.runtimes =
        eraseAll s.world.runtimes ids := by
  induction ids generalizing s with
  | nil => exact ⟨rfl, rfl⟩
  | cons d rest ih =>
    unfold fenceEach
    simp only [channelOp_bind, eval_call, eval_bind]
    obtain ⟨hok, hruns⟩ := eval_fence hfree d (callHandle moments s (.lockChannel d)).2
    rw [hok]
    refine ⟨(ih _).1, (ih _).2.trans ?_⟩
    exact congrArg (eraseAll · rest) hruns

/-- A fence whose slots are not busy succeeds and removes exactly the runtimes it is given. -/
theorem call_fenceUntrustedChannels (hfree : Unblocked moments) (ids : List ℕ) (w : World) :
    (call moments (fenceUntrustedChannels ids) w).1 = .ok () ∧
      ∀ c, (call moments (fenceUntrustedChannels ids) w).2.runtimes[c]? =
        if c ∈ ids then none else w.runtimes[c]? := by
  obtain ⟨hok, hruns⟩ :=
    eval_fenceEach hfree (idSet ids) (callHandle moments ⟨w, 0⟩ .writeGate).2
  refine ⟨hok, fun c => ?_⟩
  have hworld : (call moments (fenceUntrustedChannels ids) w).2.runtimes =
      eraseAll w.runtimes (idSet ids) := hruns
  rw [hworld, getElem?_eraseAll]
  simp only [mem_idSet]

end Fences

end AetherEdge.Io
