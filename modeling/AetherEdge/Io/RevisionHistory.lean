import AetherEdge.Io.ChannelMutator

/-!
# The revisions of a channel

A channel carries a revision while it is stored and leaves its last one in a tombstone when it is
deleted. This file follows the stored state of one channel through any sequence of mutations, each
meeting any failures of the database and of the runtimes.

* `Advance`: what every statement of the adapter does to the stored state of a channel;
* `revisions_never_return`: the committed revisions increase strictly, an operation with an older
  revision is rejected and changes nothing, and an allocated identity was never deleted.
-/

namespace AetherEdge.Io

open OrderedMap Program

variable {expected : ℕ}

namespace Database

/-- The rows of a channel. -/
def stored (db : Database) (channelId : ℕ) : Option ChannelRow × Option ℕ :=
  (db.channels[channelId]?, db.tombstones[channelId]?)

/-- The last revision committed for the channel: that of its row, or of its tombstone. -/
def current (db : Database) (channelId : ℕ) : Option ℕ :=
  match db.channels[channelId]? with
  | some row => some row.revision
  | none => db.tombstones[channelId]?

/-- The stored state of the channel stays, or its revision grows. A tombstone stays in either
    case. -/
def Advance (channelId : ℕ) (db db' : Database) : Prop :=
  (db.tombstones[channelId]?.isSome → db'.tombstones[channelId]?.isSome) ∧
    (db'.stored channelId = db.stored channelId ∨
      ∃ revision, db'.current channelId = some revision ∧
        ∀ old, db.current channelId = some old → old < revision)

variable {db db' db'' : Database} {channelId : ℕ}

theorem advance_of_same (hrow : db'.channels[channelId]? = db.channels[channelId]?)
    (htomb : db'.tombstones[channelId]? = db.tombstones[channelId]?) :
    Advance channelId db db' := by
  refine ⟨fun h => by rwa [htomb], .inl ?_⟩
  rw [stored, stored, hrow, htomb]

theorem Advance.refl (channelId : ℕ) (db : Database) : Advance channelId db db :=
  advance_of_same rfl rfl

theorem current_congr (h : db'.stored channelId = db.stored channelId) :
    db'.current channelId = db.current channelId := by
  obtain ⟨hrow, htomb⟩ := Prod.mk.injEq .. ▸ h
  rw [current, current, hrow, htomb]

theorem Advance.trans (h : Advance channelId db db') (h' : Advance channelId db' db'') :
    Advance channelId db db'' := by
  refine ⟨fun ht => h'.1 (h.1 ht), ?_⟩
  rcases h'.2 with hsame' | ⟨revision', hcur', hlt'⟩
  · rcases h.2 with hsame | ⟨revision, hcur, hlt⟩
    · exact .inl (hsame'.trans hsame)
    · exact .inr ⟨revision, (current_congr hsame').trans hcur, hlt⟩
  refine .inr ⟨revision', hcur', fun old hold => ?_⟩
  rcases h.2 with hsame | ⟨revision, hcur, hlt⟩
  · exact hlt' old ((current_congr hsame).trans hold)
  · exact lt_trans (hlt old hold) (hlt' revision hcur)

theorem Advance.current_le (h : Advance channelId db db') {old : ℕ}
    (hold : db.current channelId = some old) :
    ∃ new, db'.current channelId = some new ∧ old ≤ new := by
  rcases h.2 with hsame | ⟨revision, hcur, hlt⟩
  · exact ⟨old, (current_congr hsame).trans hold, le_rfl⟩
  · exact ⟨revision, hcur, (hlt old hold).le⟩

/-! ## Statements -/

theorem Raises.advance {c : ℕ} (h : Raises c db db') (channelId : ℕ) :
    Advance channelId db db' := by
  rcases h with rfl | ⟨row, rfl, hlt⟩
  · exact .refl _ _
  by_cases hc : c = channelId
  · subst hc
    refine ⟨fun ht => ht, .inr ⟨row.revision, by simp [current], fun old hold => ?_⟩⟩
    rw [current] at hold
    cases hrow : db.channels[c]? with
    | none =>
      rw [hrow] at hold hlt
      dsimp only at hold
      rwa [tombstone, hold] at hlt
    | some before => rw [hrow] at hold hlt; cases hold; exact hlt
  · exact advance_of_same (by rw [getElem?_insert_nat, if_neg hc]) rfl

theorem advance_deleteDesiredState {c tombstone : ℕ}
    (h : db.deleteDesiredState c expected tombstone = .ok db') (channelId : ℕ) :
    Advance channelId db db' := by
  obtain ⟨row, last, hrow, hlast, -, hchs, htombs⟩ := deleteDesiredState_ok h
  by_cases hc : c = channelId
  · subst hc
    have haft : db'.current c = some last := by
      simp [current, hchs, htombs]
    refine ⟨fun _ => by simp [htombs], .inr ⟨last, haft, fun old hold => ?_⟩⟩
    rw [current, hrow] at hold
    cases hold
    exact hlast
  · refine advance_of_same ?_ ?_
    · rw [hchs, getElem?_erase_nat, if_neg hc]
    · rw [htombs, getElem?_insert_nat, if_neg hc]

end Database

open Database

/-! ## Operations -/

theorem db_select {α : Type} (t : ℕ) (choice : Choice) (w : World) (read : Database → α) :
    (w.select t choice read).2.db = w.db := by
  unfold World.select
  cases choice.sql <;> rfl

theorem select_ok {α : Type} (t : ℕ) (choice : Choice) (w : World) (read : Database → α) {value : α}
    (h : (w.select t choice read).1 = .ok value) : value = read w.db := by
  unfold World.select at h
  cases hsql : choice.sql with
  | some error => rw [hsql] at h; cases h
  | none => rw [hsql] at h; cases h; rfl

theorem db_load {α : Type} (t : ℕ) (choice : Choice) (w : World) (read : Database → α) :
    (w.load t choice read).2.db = w.db := by
  unfold World.load
  cases choice.sql <;> rfl

theorem advance_execute {choice : Choice} {w : World}
    {write : Database → Except SqlError (ℕ × Database)} {channelId : ℕ}
    (hwrite : ∀ answer db', write w.db = .ok (answer, db') → Advance channelId w.db db') :
    Advance channelId w.db (w.execute choice write).2.db := by
  unfold World.execute
  cases choice.sql with
  | some error => exact .refl _ _
  | none =>
    dsimp only
    cases h : write w.db with
    | error error => exact .refl _ _
    | ok result => exact hwrite _ _ h

/-- What an operation of the adapter does to the stored state of any channel. -/
theorem advance_apply (t : ℕ) (op : ChannelOp) (choice : Choice) (w : World) (channelId : ℕ) :
    Advance channelId w.db (channelApply t op choice w).2.db := by
  cases op with
  | selectChannel | selectTombstone | selectOccupied | countRoutes =>
    rw [channelApply, db_select]; exact .refl _ _
  | selectRuntimeChannel | selectRuntimeChannels | selectRuntimeAuthority =>
    rw [channelApply, db_load]; exact .refl _ _
  | insertChannel c name protocol enabled config =>
    exact advance_execute fun _ _ h => (raises_insertChannel h).advance channelId
  | updateChannel | updateEnabled =>
    exact advance_execute fun _ _ h => (raises_updateWhere h).advance channelId
  | deleteChannel c expected tombstone =>
    unfold channelApply
    dsimp only
    cases choice.commit with
    | some error => exact .refl _ _
    | none =>
      cases h : w.db.deleteDesiredState c expected tombstone with
      | error error => exact .refl _ _
      | ok db => exact advance_deleteDesiredState h channelId
  | createChannel | removeChannel =>
    unfold channelApply
    dsimp only
    split <;> exact .refl _ _
  | _ => exact .refl _ _

/-! ## Sequences of mutations -/

/-- The adapter alone with the world: what it meets at each of its operations, and the revisions
    committed so far for the channel that is followed. -/
structure Session where
  world : World
  choices : ℕ → Choice
  now : ℕ
  committed : List ℕ

/-- An operation of a session that follows `channelId`. -/
def Session.answer (channelId : ℕ) (s : Session) (op : ChannelOp) : op.Response × Session :=
  let (response, world) := channelApply 0 op (s.choices s.now) s.world
  let committed :=
    if world.db.stored channelId = s.world.db.stored channelId then s.committed
    else s.committed ++ (world.db.current channelId).toList
  (response, { s with world, now := s.now + 1, committed })

/-- A mutation and what it meets. -/
abbrev Attempt := ChannelMutation × (ℕ → Choice)

/-- One mutation after the others. -/
def Session.attempt (library : ChannelLibrary) (channelId : ℕ) (s : Session) (attempt : Attempt) :
    PortResult ChannelMutationReceipt × Session :=
  let (result, s) := (mutate library attempt.1).eval (Session.answer channelId)
    { s with choices := attempt.2, now := 0 }
  (result, { s with world := channelRelease 0 s.world })

/-- The session after a sequence of mutations. -/
def Session.history (library : ChannelLibrary) (channelId : ℕ) (s : Session) :
    List Attempt → Session :=
  Transition.run (fun s attempt => (s.attempt library channelId attempt).2) s

/-- The mutation expects this revision. -/
def ChannelMutation.Carries (channelId expected : ℕ) : ChannelMutation → Prop
  | .create _ => False
  | .update c e _ | .delete c e | .setEnabled c e _ => c = channelId ∧ e = expected

namespace Session

variable {library : ChannelLibrary} {channelId : ℕ}

/-- The committed revisions increase and the last one is the current one. -/
structure Ordered (channelId : ℕ) (s : Session) : Prop where
  increasing : s.committed.Pairwise (· < ·)
  le_current : ∀ revision ∈ s.committed,
    ∃ current, s.world.db.current channelId = some current ∧ revision ≤ current

/-- What a part of a session does to the channel: more is committed only with a larger
    revision. -/
structure Follows (channelId : ℕ) (s s' : Session) : Prop where
  advance : ∀ c, s.world.db.Advance c s'.world.db
  longer : s.committed.length ≤ s'.committed.length
  larger : s.committed.length < s'.committed.length → ∀ old, s.world.db.current channelId = some old →
    ∃ new, s'.world.db.current channelId = some new ∧ old < new

theorem Follows.refl (channelId : ℕ) (s : Session) : Follows channelId s s :=
  ⟨fun c => .refl c _, le_rfl, fun h => absurd h (lt_irrefl _)⟩

variable {s : Session}

theorem Follows.trans {s' s'' : Session} (h : Follows channelId s s')
    (h' : Follows channelId s' s'') : Follows channelId s s'' := by
  refine ⟨fun c => (h.advance c).trans (h'.advance c), h.longer.trans h'.longer, fun hlt old hold => ?_⟩
  by_cases hfst : s.committed.length < s'.committed.length
  · obtain ⟨mid, hmid, hlt⟩ := h.larger hfst old hold
    obtain ⟨new, hnew, hle⟩ := (h'.advance channelId).current_le hmid
    exact ⟨new, hnew, lt_of_lt_of_le hlt hle⟩
  · obtain ⟨mid, hmid, hle⟩ := (h.advance channelId).current_le hold
    obtain ⟨new, hnew, hlt⟩ := h'.larger (by omega) mid hmid
    exact ⟨new, hnew, lt_of_le_of_lt hle hlt⟩

theorem follows_answer (s : Session) (op : ChannelOp) :
    Follows channelId s (s.answer channelId op).2 := by
  have hadv := advance_apply 0 op (s.choices s.now) s.world
  unfold answer
  dsimp only
  split
  · exact ⟨hadv, le_rfl, fun h => absurd h (lt_irrefl _)⟩
  rename_i hchg
  refine ⟨hadv, by simp, fun _ old hold => ?_⟩
  obtain hsame | ⟨revision, hcur, hlt⟩ := (hadv channelId).2
  · exact absurd hsame hchg
  · exact ⟨revision, hcur, hlt old hold⟩

theorem ordered_answer (h : Ordered channelId s) (op : ChannelOp) :
    Ordered channelId (s.answer channelId op).2 := by
  have hadv := advance_apply 0 op (s.choices s.now) s.world channelId
  unfold answer
  dsimp only
  split
  · refine ⟨h.increasing, fun revision hmem => ?_⟩
    obtain ⟨old, hold, hle⟩ := h.le_current revision hmem
    obtain ⟨new, hnew, hle'⟩ := hadv.current_le hold
    exact ⟨new, hnew, hle.trans hle'⟩
  · rename_i hchg
    obtain hsame | ⟨new, hnew, hlt⟩ := hadv.2
    · exact absurd hsame hchg
    have hbel : ∀ revision ∈ s.committed, revision < new := by
      intro revision hmem
      obtain ⟨old, hold, hle⟩ := h.le_current revision hmem
      exact lt_of_le_of_lt hle (hlt old hold)
    constructor
    · dsimp only
      rw [hnew, Option.toList_some, List.pairwise_append]
      refine ⟨h.increasing, List.pairwise_singleton _ _, fun revision hmem other hoth => ?_⟩
      rw [List.mem_singleton.1 hoth]
      exact hbel revision hmem
    · dsimp only
      rw [hnew, Option.toList_some]
      intro revision hmem
      rcases List.mem_append.1 hmem with hmem | hmem
      · exact ⟨new, rfl, (hbel revision hmem).le⟩
      · exact ⟨new, rfl, (List.mem_singleton.1 hmem).le⟩

theorem follows_eval {α : Type} (p : ChannelProgram α) (s : Session) :
    Follows channelId s (p.eval (answer channelId) s).2 :=
  eval_rel (Follows.refl channelId) Follows.trans follows_answer p s

theorem ordered_eval {α : Type} (p : ChannelProgram α) (h : Ordered channelId s) :
    Ordered channelId (p.eval (answer channelId) s).2 :=
  eval_rel (R := fun s s' => Ordered channelId s → Ordered channelId s') (fun _ h => h)
    (fun h h' hs => h' (h hs)) (fun _ op h => ordered_answer h op) p s h

theorem follows_attempt (s : Session) (attempt : Attempt) :
    Follows channelId s (s.attempt library channelId attempt).2 := by
  have h : Follows channelId _ _ := follows_eval (mutate library attempt.1)
    { s with choices := attempt.2, now := 0 }
  exact ⟨h.advance, h.longer, h.larger⟩

theorem ordered_attempt (h : Ordered channelId s) (attempt : Attempt) :
    Ordered channelId (s.attempt library channelId attempt).2 := by
  have hstart : Ordered channelId { s with choices := attempt.2, now := 0 } :=
    ⟨h.increasing, h.le_current⟩
  have hend := ordered_eval (mutate library attempt.1) hstart
  exact ⟨hend.increasing, hend.le_current⟩

theorem follows_history (s : Session) (attempts : List Attempt) :
    Follows channelId s (s.history library channelId attempts) := by
  have hinv : ∀ (s : Session) (attempt : Attempt), True → True := fun _ _ _ => trivial
  exact Transition.run_rel (Follows.refl channelId) Follows.trans hinv
    (fun s attempt _ => follows_attempt s attempt) trivial attempts

theorem ordered_history (h : Ordered channelId s) (attempts : List Attempt) :
    Ordered channelId (s.history library channelId attempts) := by
  have hevery : Transition.EveryState (fun s a => (Session.attempt library channelId s a).2)
      (Ordered channelId) s attempts := by
    refine Transition.everyState_of_step ?_ h attempts
    exact fun _ attempt h => ordered_attempt h attempt
  exact hevery.last

/-! ## Stale revisions -/

theorem verifyExpectedRevision_stale {actual : ℕ} (h : actual ≠ expected) :
    ∃ error, verifyExpectedRevision expected actual = .error error := by
  unfold verifyExpectedRevision
  cases revisionI64 expected with
  | error error => exact ⟨error, rfl⟩
  | ok _ => exact ⟨_, if_pos h.symm⟩

variable (c : ℕ)

theorem eval_loadChannel (s : Session) :
    ((loadChannel c).eval (answer channelId) s).2.world.db = s.world.db ∧
      ∀ stored, ((loadChannel c).eval (answer channelId) s).1 = .ok stored →
        ∃ row, s.world.db.channels[c]? = some row ∧ stored.revision = row.revision := by
  have hdb : (s.answer channelId (.selectChannel c)).2.world.db = s.world.db :=
    db_select 0 (s.choices s.now) s.world fun db => db.channels[c]?
  unfold loadChannel
  simp only [channelOp_bind, eval_call]
  rcases hread : (s.answer channelId (.selectChannel c)).1 with error | row
  · exact ⟨hdb, fun stored h => by cases h⟩
  refine ⟨hdb, fun stored h => ?_⟩
  obtain ⟨found, hfnd, -, -, hsto⟩ := storedChannel_ok h
  have hrow : row = s.world.db.channels[c]? :=
    select_ok 0 (s.choices s.now) s.world (fun db => db.channels[c]?) hread
  exact ⟨found, hrow ▸ hfnd, by rw [hsto]⟩

/-- After the load of a channel whose revision is another, an error is all that is left. -/
theorem eval_load_stale {c : ℕ} (expected : ℕ)
    (hstale : ∀ row, s.world.db.channels[c]? = some row → row.revision ≠ expected)
    {rest : PortResult StoredChannel → ChannelProgram (PortResult ChannelMutationReceipt)}
    (herr : ∀ error, rest (.error error) = .done (.error error))
    (hok : ∀ stored error, verifyExpectedRevision expected stored.revision = .error error →
      rest (.ok stored) = .done (.error error)) :
    (∃ error, ((loadChannel c >>= rest).eval (answer channelId) s).1 = .error error) ∧
      ((loadChannel c >>= rest).eval (answer channelId) s).2.world.db = s.world.db := by
  obtain ⟨hdb, hload⟩ := eval_loadChannel c s
  rw [eval_bind]
  revert hdb hload
  generalize (loadChannel c).eval (answer channelId) s = loaded
  intro hdb hload
  rcases hres : loaded.1 with error | stored
  · rw [herr]
    exact ⟨⟨error, rfl⟩, hdb⟩
  obtain ⟨row, hrow, hrev⟩ := hload stored hres
  obtain ⟨error, hverify⟩ := verifyExpectedRevision_stale (hrev ▸ hstale row hrow)
  rw [hok stored error hverify]
  exact ⟨⟨error, rfl⟩, hdb⟩

/-- A mutation that carries another revision than the stored one is rejected and writes nothing. -/
theorem attempt_stale {c : ℕ}
    (hstale : ∀ row, s.world.db.channels[c]? = some row → row.revision ≠ expected)
    {mutation : ChannelMutation} (hcar : mutation.Carries c expected) (choices : ℕ → Choice) :
    (∃ error, (s.attempt library channelId (mutation, choices)).1 = .error error) ∧
      (s.attempt library channelId (mutation, choices)).2.world.db = s.world.db := by
  unfold attempt
  dsimp only
  cases mutation with
  | create definition => cases hcar
  | update c' e' patch =>
    obtain ⟨rfl, rfl⟩ := hcar
    simp only [mutate, channelOp_bind, eval_call]
    unfold update
    rcases validateChannelId c' with error | _
    · exact ⟨⟨error, rfl⟩, rfl⟩
    dsimp only
    cases patch.isEmpty with
    | true => exact ⟨⟨_, rfl⟩, rfl⟩
    | false =>
      simp only [Bool.false_eq_true, ↓reduceIte, channelOp_bind, eval_call]
      refine eval_load_stale e' ?_ ?_ ?_
      · exact hstale
      · exact fun error => rfl
      · intro stored error herr
        simp only [herr]
        rfl
  | delete c' e' | setEnabled c' e' enabled =>
    obtain ⟨rfl, rfl⟩ := hcar
    simp only [mutate, delete, setEnabled, channelOp_bind, eval_call]
    rcases validateChannelId c' with error | _
    · exact ⟨⟨error, rfl⟩, rfl⟩
    refine eval_load_stale e' ?_ ?_ ?_
    · exact hstale
    · exact fun error => rfl
    · intro stored error herr
      simp only [herr]
      rfl

/-! ## Allocated identities -/

theorem firstFree_not_mem {l : List ℕ} (h : l.Pairwise (· < ·)) (candidate : ℕ) :
    firstFree candidate l ∉ l ∧ candidate ≤ firstFree candidate l := by
  induction l generalizing candidate with
  | nil => exact ⟨List.not_mem_nil, le_rfl⟩
  | cons occupied rest ih =>
    obtain ⟨hfst, hrest⟩ := List.pairwise_cons.1 h
    rw [firstFree]
    split_ifs with heq hlt
    · obtain ⟨hnot, hle⟩ := ih hrest (candidate + 1)
      refine ⟨fun hmem => ?_, by omega⟩
      rcases List.mem_cons.1 hmem with hhead | htail
      · omega
      · exact hnot htail
    · refine ⟨fun hmem => ?_, le_rfl⟩
      rcases List.mem_cons.1 hmem with hhead | htail
      · omega
      · have := hfst _ htail
        omega
    · obtain ⟨hnot, hle⟩ := ih hrest candidate
      refine ⟨fun hmem => ?_, hle⟩
      rcases List.mem_cons.1 hmem with hhead | htail
      · omega
      · exact hnot htail

theorem occupied_sorted (db : Database) : db.occupied.Pairwise (· < ·) := by
  unfold occupied
  have hsort := List.pairwise_mergeSort' (· ≤ ·)
    ((db.channels.keys ++ db.tombstones.keys).filter fun id => 1 ≤ id ∧ id < maxChannelId)
  have hle := hsort.sublist (List.dedup_sublist _)
  have hne := List.nodup_dedup (((db.channels.keys ++ db.tombstones.keys).filter fun id =>
    1 ≤ id ∧ id < maxChannelId).mergeSort (· ≤ ·))
  exact (hle.and hne).imp fun ⟨hle, hne⟩ => lt_of_le_of_ne hle hne

theorem nextAvailableChannelId_fresh {db : Database} {c : ℕ}
    (h : nextAvailableChannelId db.occupied = .ok c) : db.tombstones[c]? = none := by
  unfold nextAvailableChannelId at h
  dsimp only at h
  split_ifs at h with hmax
  cases h
  obtain ⟨hnot, hle⟩ := firstFree_not_mem (occupied_sorted db) 1
  generalize firstFree 1 db.occupied = c at hmax hnot hle ⊢
  by_contra hsome
  refine hnot ?_
  have hkey : c ∈ db.tombstones.keys := by
    rw [Std.ExtTreeMap.mem_keys]
    exact mem_iff_getElem?.2 (Option.ne_none_iff_exists'.1 hsome)
  simp only [occupied, List.mem_dedup, List.mem_mergeSort, List.mem_filter, List.mem_append,
    decide_eq_true_eq]
  exact ⟨.inr hkey, hle, Nat.lt_of_not_le hmax⟩

/-! ## Receipts -/

theorem always_observed (kind : ChannelMutationKind) (initial : StoredChannel)
    (projection : ChannelRuntimeProjection) :
    (observed kind initial projection).Always fun result =>
      ∀ receipt, result = .ok receipt →
        receipt.channelId = initial.channelId ∧ receipt.kind = kind := by
  refine always_bind_of_forall _ fun seen => ?_
  intro receipt h
  cases h
  exact ⟨rfl, rfl⟩

/-- The receipt of a creation names the channel it created. -/
theorem always_createLocked (definition : ChannelDefinition) :
    (createLocked library c definition).Always fun result =>
      ∀ receipt, result = .ok receipt → receipt.channelId = c ∧ receipt.kind = .create := by
  unfold createLocked
  simp only [channelOp_bind]
  intro present
  cases present with
  | true => intro receipt h; cases h
  | false =>
    rcases hcfg : definitionToConfig library c definition with error | config
    · intro receipt h; cases h
    dsimp only
    rcases validateRuntimeConfig library config with error | _
    · intro receipt h; cases h
    dsimp only
    rcases encodeConfig library config with error | configJson
    · intro receipt h; cases h
    intro inserted
    rcases inserted with error | revision
    · intro receipt h; cases h
    dsimp only
    rcases storedRevision revision with error | revision
    · intro receipt h; cases h
    have hobs := always_observed .create
      (StoredChannel.fromCommittedConfig config configJson revision)
    rw [StoredChannel.fromCommittedConfig, id_definitionToConfig library hcfg] at hobs
    dsimp only [StoredChannel.fromCommittedConfig]
    rw [id_definitionToConfig library hcfg]
    exact always_bind_of_forall _ hobs

/-- A receipt, if there is one, is not of a deletion. -/
def NoDeletion (result : PortResult ChannelMutationReceipt) : Prop :=
  ∀ receipt, result = .ok receipt → receipt.kind ≠ .delete

theorem noDeletion_error (error : PortError) : NoDeletion (.error error) := by
  intro receipt h
  cases h

theorem noDeletion_observed {kind : ChannelMutationKind} (hkind : kind ≠ .delete)
    (initial : StoredChannel) (projection : ChannelRuntimeProjection) :
    (observed kind initial projection).Always NoDeletion := by
  refine always_bind_of_forall _ fun seen => ?_
  intro receipt h
  cases h
  exact hkind

theorem noDeletion_create (definition : ChannelDefinition) :
    (create library definition).Always NoDeletion := by
  have hlock : ∀ c, (createLocked library c definition).Always NoDeletion := by
    intro c
    refine (always_createLocked c definition).mono fun result h receipt hrcpt => ?_
    rw [(h receipt hrcpt).2]
    exact ChannelMutationKind.noConfusion
  unfold create
  cases definition.requestedChannelId with
  | some c =>
    dsimp only
    cases validateChannelId c with
    | error error => exact noDeletion_error error
    | ok _ => exact fun _ => hlock c
  | none =>
    simp only [channelOp_bind]
    intro _ occupied
    rcases occupied with error | occupied
    · exact noDeletion_error _
    dsimp only
    cases nextAvailableChannelId occupied with
    | error error => exact noDeletion_error error
    | ok c => exact fun _ => hlock c

theorem noDeletion_update (expected : ℕ) (patch : ChannelPatch) :
    (update library c expected patch).Always NoDeletion := by
  unfold update
  rcases validateChannelId c with error | _
  · exact noDeletion_error error
  simp only [channelOp_bind]
  split
  · exact noDeletion_error _
  intro _
  refine always_bind_of_forall _ fun loaded => ?_
  rcases loaded with error | stored
  · exact noDeletion_error error
  dsimp only
  split
  · exact noDeletion_error _
  intro affected
  rcases affected with error | affected
  · exact noDeletion_error _
  dsimp only
  split
  · exact noDeletion_error _
  · exact always_bind_of_forall _ fun projection =>
      noDeletion_observed (by decide) _ _

variable (enabled : Bool)

theorem enableKind_ne_delete : enableKind enabled ≠ .delete := by
  cases enabled <;> decide

variable (stored : StoredChannel) (error : PortError)

theorem noDeletion_restored : (restored library stored error).Always NoDeletion :=
  always_bind_of_forall _ fun _ => noDeletion_error error

theorem noDeletion_enableFailed :
    (enableFailed library enabled stored error).Always NoDeletion := by
  cases enabled with
  | true => exact noDeletion_error error
  | false => exact noDeletion_restored stored error

theorem noDeletion_commitEnabled (next : ℕ) :
    (commitEnabled library c enabled stored next).Always NoDeletion := by
  unfold commitEnabled
  split
  · exact noDeletion_error _
  · exact noDeletion_error _
  · simp only [channelOp_bind]
    intro affected
    rcases affected with error | affected
    · exact noDeletion_enableFailed enabled stored _
    dsimp only
    split
    · exact noDeletion_enableFailed enabled stored _
    · exact always_bind_of_forall _ fun projection =>
        noDeletion_observed (enableKind_ne_delete enabled) _ projection

theorem noDeletion_setEnabledChange :
    (setEnabledChange library c enabled stored).Always NoDeletion := by
  unfold setEnabledChange
  rcases nextRevision stored.revision with error | next
  · exact noDeletion_error error
  refine always_bind_of_forall _ fun fenced => ?_
  cases fenced with
  | error error => exact noDeletion_restored stored _
  | ok _ => exact noDeletion_commitEnabled c enabled stored next

theorem noDeletion_setEnabled (expected : ℕ) (enabled : Bool) :
    (setEnabled library c expected enabled).Always NoDeletion := by
  unfold setEnabled
  rcases validateChannelId c with error | _
  · exact noDeletion_error error
  simp only [channelOp_bind]
  intro _
  refine always_bind_of_forall _ fun loaded => ?_
  rcases loaded with error | stored
  · exact noDeletion_error error
  dsimp only
  split
  · exact noDeletion_error _
  split
  · exact always_bind_of_forall _ fun projection =>
      noDeletion_observed (enableKind_ne_delete enabled) _ projection
  · exact noDeletion_setEnabledChange c enabled stored

/-- A receipt of a deletion is backed by a tombstone. -/
def Buried (result : PortResult ChannelMutationReceipt) (s : Session) : Prop :=
  ∀ receipt, result = .ok receipt → receipt.kind = .delete →
    s.world.db.tombstones[receipt.channelId]?.isSome

theorem NoDeletion.buried {result : PortResult ChannelMutationReceipt} (h : NoDeletion result)
    (s : Session) : Buried result s :=
  fun receipt hrcpt hkind => absurd hkind (h receipt hrcpt)

theorem buried_error : (done (.error error) : ChannelProgram _).Ensures (answer channelId) Buried :=
  ensures_done fun s => (noDeletion_error error).buried s

theorem buried_deleteFenced (tombstone : ℕ) :
    (deleteFenced library c stored tombstone).Ensures (answer channelId) Buried := by
  unfold deleteFenced
  intro s
  rw [channelOp_bind, eval_call]
  rcases hdel : (s.answer channelId (.deleteChannel c stored.revision tombstone)).1 with error | _
  · exact ((noDeletion_restored stored error).ensures fun _ s h => h.buried s) _
  intro receipt hrcpt _
  cases hrcpt
  unfold answer channelApply at hdel ⊢
  dsimp only [eval_done] at hdel ⊢
  revert hdel
  cases (s.choices s.now).commit with
  | some error => exact fun h => by cases h
  | none =>
    rcases hdelete : s.world.db.deleteDesiredState c stored.revision tombstone with error | db
    · exact fun h => by cases h
    obtain ⟨row, last, -, -, -, -, htombs⟩ := deleteDesiredState_ok hdelete
    intro _
    dsimp only [pure, eval]
    rw [htombs]
    simp

theorem buried_delete (expected : ℕ) :
    (delete library c expected).Ensures (answer channelId) Buried := by
  unfold delete
  rcases validateChannelId c with error | _
  · exact buried_error error
  simp only [channelOp_bind]
  refine ensures_call fun _ => ensures_bind _ fun loaded => ?_
  rcases loaded with error | stored
  · exact buried_error error
  dsimp only
  split
  · exact buried_error _
  refine ensures_call fun routes => ?_
  rcases routes with error | routes
  · exact buried_error _
  dsimp only
  split
  · exact buried_error _
  refine ensures_bind _ fun fenced => ?_
  cases fenced with
  | error error => exact (noDeletion_restored stored _).ensures fun _ s h => h.buried s
  | ok _ => exact buried_deleteFenced c stored _

/-- Whoever gets the receipt of a deletion has left a tombstone. -/
theorem buried_attempt (s : Session) (attempt : Attempt) :
    Buried (s.attempt library channelId attempt).1 (s.attempt library channelId attempt).2 := by
  obtain ⟨mutation, choices⟩ := attempt
  have hmutate : (mutate library mutation).Ensures (answer channelId) Buried := by
    refine ensures_call fun _ => ?_
    cases mutation with
    | create definition => exact (noDeletion_create definition).ensures fun _ s h => h.buried s
    | update c expected patch =>
      exact (noDeletion_update c expected patch).ensures fun _ s h => h.buried s
    | delete c expected => exact buried_delete c expected
    | setEnabled c expected enabled =>
      exact (noDeletion_setEnabled c expected enabled).ensures fun _ s h => h.buried s
  exact hmutate _

/-- The identity a creation without a requested one takes has no tombstone. -/
theorem attempt_allocated {definition : ChannelDefinition}
    (hnone : definition.requestedChannelId = none) {choices : ℕ → Choice}
    {receipt : ChannelMutationReceipt}
    (h : (s.attempt library channelId (.create definition, choices)).1 = .ok receipt) :
    s.world.db.tombstones[receipt.channelId]? = none := by
  unfold attempt at h
  dsimp only at h
  simp only [mutate, channelOp_bind, eval_call] at h
  unfold create at h
  rw [hnone] at h
  simp only [channelOp_bind, eval_call] at h
  revert h
  generalize hlock : ((({ s with choices := choices, now := 0 } : Session).answer channelId
    .readGate).2.answer channelId .lockAllocation).2 = locked
  have hdb : locked.world.db = s.world.db := by rw [← hlock]; rfl
  rcases hoccupied : (locked.answer channelId .selectOccupied).1 with error | occupied
  · exact fun h => by cases h
  have hread : occupied = locked.world.db.occupied :=
    select_ok 0 (locked.choices locked.now) locked.world Database.occupied hoccupied
  dsimp only
  cases hnext : nextAvailableChannelId occupied with
  | error error => exact fun h => by cases h
  | ok c =>
    intro h
    rw [((always_createLocked c definition).eval _ receipt h).1, ← hdb]
    exact nextAvailableChannelId_fresh (hread ▸ hnext)

end Session

open Session in
/-- Follow any channel through any sequence of mutations. The revisions committed for it, in its row
    and in its tombstone, increase strictly. A mutation that carries a revision from before the last
    commit fails and leaves the tables as they are. An identity that a creation is given without
    asking for one has no tombstone, and no mutation of the sequence deleted it. -/
theorem revisions_never_return (library : ChannelLibrary) (channelId : ℕ) (world : World)
    (history : List Attempt) :
    let start : Session := ⟨world, fun _ => {}, 0, []⟩
    let reached := start.history library channelId history
    reached.committed.Pairwise (· < ·) ∧
    (∀ before later expected obtained, history = before ++ later →
      (start.history library channelId before).world.db.current channelId = some obtained →
      expected ≤ obtained →
      (start.history library channelId before).committed.length < reached.committed.length →
      ∀ mutation choices, ChannelMutation.Carries channelId expected mutation →
        (∃ error, (reached.attempt library channelId (mutation, choices)).1 = .error error) ∧
          (reached.attempt library channelId (mutation, choices)).2.world.db = reached.world.db) ∧
    (∀ definition choices receipt, definition.requestedChannelId = none →
      (reached.attempt library channelId (.create definition, choices)).1 = .ok receipt →
      reached.world.db.tombstones[receipt.channelId]? = none ∧
        ∀ before attempt later deleted, history = before ++ attempt :: later →
          ((start.history library channelId before).attempt library channelId attempt).1 =
            .ok deleted →
          deleted.kind = .delete → deleted.channelId ≠ receipt.channelId) := by
  intro start reached
  have hstart : Ordered channelId start :=
    ⟨.nil, fun revision hmem => by cases hmem⟩
  refine ⟨(ordered_history hstart history).increasing, ?_, ?_⟩
  · intro before later expected obtained hsplit hobtained hle hcommitted mutation choices hcarries
    refine attempt_stale ?_ hcarries choices
    -- the commit since has raised the revision above the expected one
    have hfollows : Follows channelId (start.history library channelId before) reached := by
      have hreached : reached =
          (start.history library channelId before).history library channelId later := by
        show start.history library channelId history = _
        rw [hsplit]
        exact Transition.run_append start before later
      rw [hreached]
      exact follows_history _ later
    obtain ⟨new, hnew, hlt⟩ := hfollows.larger hcommitted obtained hobtained
    intro row hrow heq
    rw [current, hrow] at hnew
    cases hnew
    omega
  · intro definition choices receipt hnone hreceipt
    have hfresh := attempt_allocated hnone hreceipt
    refine ⟨hfresh, fun before attempt later deleted hsplit hdeleted hkind heq => ?_⟩
    -- the tombstone of a deletion is still there
    have hburied := buried_attempt _ attempt deleted hdeleted hkind
    have hreached : reached = (((start.history library channelId before).attempt library channelId
        attempt).2).history library channelId later := by
      show start.history library channelId history = _
      rw [hsplit]
      exact Transition.run_append start before (attempt :: later)
    have hfollows : Follows channelId ((start.history library channelId before).attempt library
        channelId attempt).2 reached := by
      rw [hreached]
      exact follows_history _ later
    have hkept := (hfollows.advance deleted.channelId).1 hburied
    rw [heq, hfresh] at hkept
    cases hkept

end AetherEdge.Io
