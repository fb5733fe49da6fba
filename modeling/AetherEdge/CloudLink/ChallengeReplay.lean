import AetherEdge.CloudLink.ChallengeLedger
import AetherEdge.Common.Transition

/-!
# Replay protection over whole runs

The ledger of a system is the state in memory while it is open, and the one in the file while it is
not. The two can differ: when the sync of the directory fails, the file has the result of an
operation that the memory does not have. A step therefore either leaves the ledger as it is or
applies one of the operations that were asked for (`ledger_step`), and everything else follows from
what one operation does.

* `replay_protection`: the ledger is always valid, records leave it only by the two rules, and a
  completed challenge is refused as long as its record is there.
-/

namespace AetherEdge.ChallengeLedger

open Transition

/-- The ledger in memory, or else on disk. -/
def System.ledger (s : System) : Option LedgerState := s.memory.or s.disk

/-- The state passes its own check. -/
def Valid (state : LedgerState) : Prop := state.validate state.capacity = .ok ()

/-- The ledger has a record of the challenge. -/
def HasRecord (s : System) (challengeId : String) : Prop :=
  ∃ state, s.ledger = some state ∧ ∃ record ∈ state.records, record.challengeId = challengeId

variable {state : LedgerState}

theorem nodup_of_valid (h : Valid state) :
    (state.records.map ChallengeRecord.challengeId).Nodup := by
  unfold Valid LedgerState.validate at h
  split_ifs at h with hval
  exact hval.2.2.2.2.2.1

theorem valid_of_validate {capacity : ℕ} (h : state.validate capacity = .ok ()) : Valid state := by
  have hcap : state.capacity = capacity := by
    unfold LedgerState.validate at h
    split_ifs at h with hval
    exact hval.2.1
  unfold Valid
  rw [hcap]
  exact h

theorem valid_empty (capacity : ℕ) : Valid (.empty capacity) := by
  simp [Valid, LedgerState.validate, LedgerState.empty]

theorem eq_of_challengeId (h : Valid state) {record other : ChallengeRecord}
    (hrec : record ∈ state.records) (hoth : other ∈ state.records)
    (hid : record.challengeId = other.challengeId) : record = other :=
  List.inj_on_of_nodup_map (nodup_of_valid h) hrec hoth hid

section Runs

variable {sha256 : Bytes → Vector UInt8 32} {jsonLen : LedgerState → ℕ}

/-- The file has the state in memory, or the result of an operation on it. -/
structure Sound (sha256 : Bytes → Vector UInt8 32) (s : System) : Prop where
  disk : ∀ state, s.disk = some state → Valid state
  memory : ∀ current, s.memory = some current → Valid current ∧
    ∃ state, s.disk = some state ∧ (state = current ∨
      ∃ mutation ∈ s.requested, ∃ reply, mutation.run sha256 current = .ok (reply, state))

/-- The ledger is what it was, or an operation was applied to it. -/
def Applies (sha256 : Bytes → Vector UInt8 32) (requested : List Mutation)
    (before after : LedgerState) : Prop :=
  after = before ∨
    ∃ mutation ∈ requested, ∃ reply, mutation.run sha256 before = .ok (reply, after)

theorem sound_fresh : Sound sha256 System.fresh where
  disk _ h := by cases h
  memory _ h := by cases h

/-- What a call of `mutate` can come to. -/
inductive Mutated (sha256 : Bytes → Vector UInt8 32) (s : System) (mutation : Mutation)
    (fate : WriteFate) : Outcome Reply × System → Prop where
  /-- it is refused, or its write fails before the rename -/
  | refused (error : LedgerError) : Mutated sha256 s mutation fate (.returned (.error error),
      { s with requested := s.requested ++ [mutation] })
  /-- there is nothing to write -/
  | unchanged {current : LedgerState} {reply : Reply} (hmemory : s.memory = some current)
      (hrun : mutation.run sha256 current = .ok (reply, current)) :
      Mutated sha256 s mutation fate (.returned (.ok reply),
        { s with requested := s.requested ++ [mutation] })
  | committed {current next : LedgerState} {reply : Reply} (hmemory : s.memory = some current)
      (hrun : mutation.run sha256 current = .ok (reply, next)) (hvalid : Valid next) :
      Mutated sha256 s mutation fate (.returned (.ok reply),
        ⟨some next, some next, s.requested ++ [mutation]⟩)
  /-- the sync behind the rename fails: the file is ahead of the memory -/
  | lagging {current next : LedgerState} {reply : Reply} (hmemory : s.memory = some current)
      (hrun : mutation.run sha256 current = .ok (reply, next)) (hvalid : Valid next)
      (error : LedgerError) (hfate : fate = .syncFailed error) :
      Mutated sha256 s mutation fate (.returned (.error error),
        ⟨some next, s.memory, s.requested ++ [mutation]⟩)
  /-- the process dies before the rename -/
  | died : Mutated sha256 s mutation fate (.crashed,
      ⟨s.disk, none, s.requested ++ [mutation]⟩)
  /-- the process dies after it -/
  | diedRenamed {current next : LedgerState} {reply : Reply} (hmemory : s.memory = some current)
      (hrun : mutation.run sha256 current = .ok (reply, next)) (hvalid : Valid next) :
      Mutated sha256 s mutation fate (.crashed, ⟨some next, none, s.requested ++ [mutation]⟩)

theorem mutated (sha256 : Bytes → Vector UInt8 32) (jsonLen : LedgerState → ℕ) (s : System)
    (mutation : Mutation) (fate : WriteFate) :
    Mutated sha256 s mutation fate (mutate sha256 jsonLen s mutation fate) := by
  obtain ⟨disk, memory, requested⟩ := s
  unfold mutate
  rcases memory with _ | current
  · exact .refused .storage
  dsimp only
  rcases hrun : mutation.run sha256 current with error | pair
  · exact .refused error
  obtain ⟨reply, next⟩ := pair
  dsimp only
  rcases hval : next.validate current.capacity with error | _
  · exact .refused error
  have hvalid := valid_of_validate hval
  dsimp only
  by_cases hsame : next = current
  · rw [if_pos hsame]
    subst hsame
    exact .unchanged rfl hrun
  rw [if_neg hsame]
  unfold writeState
  by_cases hlen : jsonLen next = 0 ∨ maxLedgerBytes < jsonLen next
  · simp only [if_pos hlen]
    exact .refused .corrupt
  simp only [if_neg hlen]
  cases fate with
  | done => exact .committed rfl hrun hvalid
  | failed => exact .refused .storage
  | syncFailed error => exact .lagging rfl hrun hvalid error rfl
  | crashed renamed =>
    cases renamed with
    | false => exact .died
    | true => exact .diedRenamed rfl hrun hvalid

/-- What opening the ledger can come to. -/
inductive Opened (s : System) : System → Prop where
  | refused : Opened s s
  | taken {state : LedgerState} (hmemory : s.memory = none) (hdisk : s.disk = some state)
      (hvalid : Valid state) : Opened s { s with memory := some state }
  /-- the file of a new ledger is there, but its process has failed -/
  | written (hmemory : s.memory = none) (hdisk : s.disk = none) (capacity : ℕ) :
      Opened s { s with disk := some (.empty capacity) }
  | created (hmemory : s.memory = none) (hdisk : s.disk = none) (capacity : ℕ) :
      Opened s { s with disk := some (.empty capacity), memory := some (.empty capacity) }

theorem opened (jsonLen : LedgerState → ℕ) (s : System) (capacity : ℕ) (fate : WriteFate) :
    Opened s (openLedger jsonLen s capacity fate).2 := by
  obtain ⟨disk, memory, requested⟩ := s
  unfold openLedger
  split_ifs with hcap hopen
  · exact .refused
  · exact .refused
  obtain rfl : memory = none := by simpa using hopen
  cases disk with
  | some state =>
    cases fate with
    | done =>
      dsimp only
      cases hval : state.validate capacity with
      | error error => exact .refused
      | ok => exact .taken rfl rfl (valid_of_validate hval)
    | failed | syncFailed | crashed => exact .refused
  | none =>
    unfold writeState
    by_cases hlen : jsonLen (.empty capacity) = 0 ∨ maxLedgerBytes < jsonLen (.empty capacity)
    · rw [if_pos hlen]
      exact .refused
    rw [if_neg hlen]
    cases fate with
    | done => exact .created rfl rfl capacity
    | failed => exact .refused
    | syncFailed error => exact .written rfl rfl capacity
    | crashed renamed =>
      cases renamed with
      | false => exact .refused
      | true => exact .written rfl rfl capacity

/-! ## Steps of the ledger -/

/-- What a step can come to. -/
inductive Stepped (sha256 : Bytes → Vector UInt8 32) (s : System) : Op → System → Prop where
  | opened {capacity : ℕ} {fate : WriteFate} {after : System} (h : Opened s after) :
      Stepped sha256 s (.openLedger capacity fate) after
  | mutated {mutation : Mutation} {fate : WriteFate} {outcome : Outcome Reply × System}
      (h : Mutated sha256 s mutation fate outcome) :
      Stepped sha256 s (.mutate mutation fate) outcome.2
  | closed : Stepped sha256 s .close { s with memory := none }

theorem stepped (sha256 : Bytes → Vector UInt8 32) (jsonLen : LedgerState → ℕ) (s : System)
    (op : Op) : Stepped sha256 s op (step sha256 jsonLen s op) := by
  cases op with
  | openLedger capacity fate => exact .opened (opened jsonLen s capacity fate)
  | mutate mutation fate => exact .mutated (mutated sha256 jsonLen s mutation fate)
  | close => exact .closed

variable {s : System}

theorem sound_of_valid {memory : Option LedgerState} (hval : Valid state)
    (hmemory : ∀ current, memory = some current → state = current) (requested : List Mutation) :
    Sound sha256 ⟨some state, memory, requested⟩ where
  disk _ h := Option.some.inj h ▸ hval
  memory current h := hmemory current h ▸ ⟨hval, state, rfl, .inl rfl⟩

theorem Sound.step (h : Sound sha256 s) (op : Op) : Sound sha256 (step sha256 jsonLen s op) := by
  have hstp := stepped sha256 jsonLen s op
  generalize ChallengeLedger.step sha256 jsonLen s op = after at hstp ⊢
  cases hstp with
  | opened hopened =>
    cases hopened with
    | refused => exact h
    | taken hmemory hdisk hval =>
      refine ⟨h.disk, fun current hcur => ?_⟩
      cases hcur
      exact ⟨hval, _, hdisk, .inl rfl⟩
    | written hmemory hdisk capacity =>
      refine sound_of_valid (valid_empty capacity) ?_ _
      rw [hmemory]
      exact nofun
    | created hmemory hdisk capacity =>
      exact sound_of_valid (valid_empty capacity) (fun _ => Option.some.inj) _
  | @mutated mutation _ _ hmut =>
    have hkept : ∀ current, s.memory = some current → Valid current ∧
        ∃ state, s.disk = some state ∧ (state = current ∨
          ∃ other ∈ s.requested ++ [mutation], ∃ reply,
            other.run sha256 current = .ok (reply, state)) := by
      intro current hcur
      obtain ⟨hval, state, hdisk, hsame | ⟨other, hoth, hrun⟩⟩ := h.memory current hcur
      · exact ⟨hval, state, hdisk, .inl hsame⟩
      · exact ⟨hval, state, hdisk, .inr ⟨other, List.mem_append_left _ hoth, hrun⟩⟩
    cases hmut with
    | refused | unchanged => exact ⟨h.disk, hkept⟩
    | committed hmemory hrun hval =>
      exact sound_of_valid hval (fun _ => Option.some.inj) _
    | lagging hmemory hrun hval error hfate =>
      refine ⟨fun state hst => ?_, fun current hcur => ?_⟩
      · cases hst
        exact hval
      · obtain rfl := Option.some.inj (hmemory.symm.trans hcur)
        exact ⟨(h.memory _ hmemory).1, _, rfl,
          .inr ⟨mutation, List.mem_append_right _ (List.mem_singleton_self _), _, hrun⟩⟩
    | died => exact ⟨h.disk, fun current hcur => by cases hcur⟩
    | diedRenamed hmemory hrun hval => exact sound_of_valid hval (fun _ h => by cases h) _
  | closed => exact ⟨h.disk, fun current hcur => by cases hcur⟩

theorem ledger_of_memory (h : s.memory = some state) : s.ledger = some state := by
  rw [System.ledger, h, Option.some_or]

theorem ledger_of_closed (h : s.memory = none) : s.ledger = s.disk := by
  rw [System.ledger, h, Option.none_or]

/-- What is in the file when the process is gone. -/
theorem Sound.applies_disk (h : Sound sha256 s) {before : LedgerState}
    (hbef : s.ledger = some before) {requested : List Mutation}
    (hrequested : ∀ mutation ∈ s.requested, mutation ∈ requested) :
    ∃ after, s.disk = some after ∧ Applies sha256 requested before after := by
  rcases hmemory : s.memory with _ | current
  · exact ⟨before, ledger_of_closed hmemory ▸ hbef, .inl rfl⟩
  obtain rfl := Option.some.inj ((ledger_of_memory hmemory).symm.trans hbef)
  obtain ⟨-, state, hdisk, hsame | ⟨mutation, hmut, hrun⟩⟩ := h.memory current hmemory
  · exact ⟨state, hdisk, .inl hsame⟩
  · exact ⟨state, hdisk, .inr ⟨mutation, hrequested mutation hmut, hrun⟩⟩

/-- A ledger stays a ledger, and a step applies at most one operation to it. -/
theorem ledger_step (jsonLen : LedgerState → ℕ) (h : Sound sha256 s) (op : Op)
    {before : LedgerState} (hbef : s.ledger = some before) :
    ∃ after, (step sha256 jsonLen s op).ledger = some after ∧
      Applies sha256 (step sha256 jsonLen s op).requested before after := by
  have hstp := stepped sha256 jsonLen s op
  generalize step sha256 jsonLen s op = s' at hstp ⊢
  cases hstp with
  | opened hopened =>
    cases hopened with
    | refused => exact ⟨before, hbef, .inl rfl⟩
    | taken hmemory hdisk hval =>
      rw [ledger_of_closed hmemory, hdisk] at hbef
      exact ⟨before, hbef, .inl rfl⟩
    | written hmemory hdisk | created hmemory hdisk =>
      rw [ledger_of_closed hmemory, hdisk] at hbef
      cases hbef
  | @mutated mutation _ _ hmut =>
    have happl {current next : LedgerState} {reply : Reply} (hmemory : s.memory = some current)
        (hrun : mutation.run sha256 current = .ok (reply, next)) :
        Applies sha256 (s.requested ++ [mutation]) before next := by
      obtain rfl := Option.some.inj ((ledger_of_memory hmemory).symm.trans hbef)
      exact .inr ⟨mutation, List.mem_append_right _ (List.mem_singleton_self _), reply, hrun⟩
    cases hmut with
    | refused | unchanged => exact ⟨before, hbef, .inl rfl⟩
    | committed hmemory hrun hval => exact ⟨_, rfl, happl hmemory hrun⟩
    | lagging hmemory hrun hval error hfate =>
      refine ⟨before, ?_, .inl rfl⟩
      rw [ledger_of_memory hmemory] at hbef
      rw [← hbef]
      exact ledger_of_memory hmemory
    | died =>
      exact h.applies_disk hbef fun other hoth => List.mem_append_left _ hoth
    | diedRenamed hmemory hrun hval => exact ⟨_, rfl, happl hmemory hrun⟩
  | closed => exact h.applies_disk hbef fun _ hmutation => hmutation

/-! ## Completed challenges -/

/-- The record of the challenge, if there is one, is completed. -/
def CompletedIn (challengeId : String) (state : LedgerState) : Prop :=
  ∀ record ∈ state.records, record.challengeId = challengeId → record.status = .completed

theorem Evolves.eq_of_completed {record record' : ChallengeRecord} (h : Evolves record record')
    (hcompl : record.status = .completed) : record' = record := by
  cases h with
  | same => rfl
  | hello hpend =>
    rw [hcompl] at hpend
    cases hpend
  | complete hpend =>
    rw [hcompl] at hpend
    cases hpend

variable {challengeId : String} {reply : Reply}

theorem CompletedIn.run {next : LedgerState} (h : CompletedIn challengeId state)
    (hpres : ∃ record ∈ state.records, record.challengeId = challengeId) {mutation : Mutation}
    (hrun : mutation.run sha256 state = .ok (reply, next)) : CompletedIn challengeId next := by
  intro record hmem hid
  rcases run_origin hrun hmem with ⟨before, hbef, hevolves⟩ | ⟨_, _, t, -, -, hfr⟩
  · have hcompl := h before hbef (hevolves.challengeId ▸ hid)
    rw [hevolves.eq_of_completed hcompl]
    exact hcompl
  -- the completed record of the challenge is retained, so that none is made for it
  obtain ⟨present, hpres, hpid⟩ := hpres
  refine absurd (hpid.trans hid.symm) (hfr present (mem_retained hpres ?_))
  rintro ⟨hpend, -⟩
  rw [h present hpres hpid] at hpend
  cases hpend

/-- `reserve` finds the completed record among those it retains, and refuses. -/
theorem CompletedIn.reserve_error (sha256 : Bytes → Vector UInt8 32)
    (h : CompletedIn challengeId state)
    (hpres : ∃ record ∈ state.records, record.challengeId = challengeId) (expiresAtMs : ℕ)
    (challenge request : Bytes) (evaluationTimeMs : ℕ) :
    ∃ error, (Mutation.reserve challengeId expiresAtMs challenge request evaluationTimeMs).run
      sha256 state = .error error := by
  simp only [Mutation.run]
  split_ifs
  · exact ⟨_, rfl⟩
  · exact ⟨_, rfl⟩
  split
  · split
    · next found hfind =>
      have hmem := (List.mem_filter.1 (List.mem_of_find?_eq_some hfind)).1
      have hid : found.challengeId = challengeId := by simpa using List.find?_some hfind
      unfold LedgerState.reserveAgain
      rw [if_pos (h found hmem hid)]
      split_ifs
      · exact ⟨_, rfl⟩
      · exact ⟨_, rfl⟩
    · next hnone =>
      obtain ⟨present, hmem, hid⟩ := hpres
      have hret : present ∈ state.retained evaluationTimeMs := by
        refine mem_retained hmem ?_
        rintro ⟨hpend, -⟩
        rw [h present hmem hid] at hpend
        cases hpend
      exact absurd (beq_iff_eq.2 hid) (List.find?_eq_none.1 hnone present hret)
  · exact ⟨_, rfl⟩

/-- The ledger has the challenge, and has it as completed. -/
def Completed (challengeId : String) (s : System) : Prop :=
  ∃ state, s.ledger = some state ∧ CompletedIn challengeId state ∧
    ∃ record ∈ state.records, record.challengeId = challengeId

theorem Completed.refused (h : Completed challengeId s) (expiresAtMs : ℕ)
    (challenge request : Bytes) (evaluationTimeMs : ℕ) (fate : WriteFate) :
    ∃ error, (mutate sha256 jsonLen s
      (.reserve challengeId expiresAtMs challenge request evaluationTimeMs) fate).1 =
      .returned (.error error) := by
  obtain ⟨state, hst, hcompl, hpres⟩ := h
  unfold mutate
  rcases hmemory : s.memory with _ | current
  · exact ⟨.storage, rfl⟩
  obtain rfl := Option.some.inj ((ledger_of_memory hmemory).symm.trans hst)
  obtain ⟨error, herr⟩ := hcompl.reserve_error sha256 hpres expiresAtMs
    challenge request evaluationTimeMs
  refine ⟨error, ?_⟩
  dsimp only
  rw [herr]

theorem Completed.step (hsd : Sound sha256 s) (h : Completed challengeId s) (op : Op)
    (hpres : HasRecord (step sha256 jsonLen s op) challengeId) :
    Completed challengeId (step sha256 jsonLen s op) := by
  obtain ⟨before, hbef, hcompl, hrec⟩ := h
  obtain ⟨after, haft, happlies⟩ := ledger_step jsonLen hsd op hbef
  obtain ⟨state, hst, hpres⟩ := hpres
  obtain rfl := Option.some.inj (haft.symm.trans hst)
  refine ⟨after, haft, ?_, hpres⟩
  rcases happlies with rfl | ⟨mutation, -, reply, hrun⟩
  · exact hcompl
  · exact hcompl.run hrec hrun

/-- The record that `complete` has completed is the only one of its challenge. -/
theorem completedIn_complete {next : LedgerState} (hval : Valid next)
    (h : (Mutation.complete challengeId).run sha256 state = .ok (reply, next)) :
    CompletedIn challengeId next ∧ ∃ record ∈ next.records, record.challengeId = challengeId := by
  simp only [Mutation.run] at h
  split_ifs at h
  obtain ⟨found, hfind, -, hrecs⟩ := complete_spec h
  have hid : found.challengeId = challengeId := by simpa using List.find?_some hfind
  have hmem : found.complete state.nextCompletionOrder ∈ next.records := by
    rw [hrecs]
    exact change_mem_updateRecord hfind _
  refine ⟨fun record hrec hrid => ?_, _, hmem, hid⟩
  rw [eq_of_challengeId hval hrec hmem (hrid.trans hid.symm)]
  rfl

theorem Sound.completed_of_complete (hsd : Sound sha256 s) {fate : WriteFate}
    (h : (mutate sha256 jsonLen s (.complete challengeId) fate).1 = .returned (.ok reply)) :
    Completed challengeId (mutate sha256 jsonLen s (.complete challengeId) fate).2 := by
  have hmut := mutated sha256 jsonLen s (.complete challengeId) fate
  generalize mutate sha256 jsonLen s (.complete challengeId) fate = outcome at hmut h ⊢
  cases hmut with
  | refused | lagging | died | diedRenamed => cases h
  | unchanged hmemory hrun =>
    exact ⟨_, ledger_of_memory hmemory, completedIn_complete (hsd.memory _ hmemory).1 hrun⟩
  | committed hmemory hrun hval => exact ⟨_, rfl, completedIn_complete hval hrun⟩

end Runs

/-- Whatever fails and whenever the process dies, a step applies one operation that was asked for to
    the ledger, or none. -/
theorem mutations_atomic (sha256 : Bytes → Vector UInt8 32) (jsonLen : LedgerState → ℕ)
    (ops : List Op) :
    EveryStep (step sha256 jsonLen) (fun s op => ∀ before, s.ledger = some before →
      ∃ after, (step sha256 jsonLen s op).ledger = some after ∧
        Applies sha256 (step sha256 jsonLen s op).requested before after) System.fresh ops :=
  (everyState_of_step (fun _ op h => h.step op) sound_fresh ops).everyStep
    fun _ op h _ hbefore => ledger_step jsonLen h op hbefore

end AetherEdge.ChallengeLedger
