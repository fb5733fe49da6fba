import AetherEdge.CloudLink.ChallengeReplay

/-!
# One hello per challenge, one request until it ends

Once `write_state` has renamed the new file into place, the operation has happened. If the sync of
the directory fails after that, `mutate` still returns an error and keeps the old state in memory:
the next operation works on a ledger that no longer is the one in the file, and can store a second
hello over the first (`second_hello_stored`).

Without such a failure the file always has the state in memory, crashes included, and then

* `single_hello`: as long as a record is there its hello never changes, every hello that is handed
  out is the stored one, and every request that is handed out is the pending one until it has
  expired or a challenge was completed.
-/

namespace AetherEdge.ChallengeLedger

open Transition

/-! ## Hellos and requests -/

/-- The request a client may be given, as bytes. -/
def LedgerState.material (state : LedgerState) : Option Bytes :=
  state.pendingRequest.map fun pending => strBytes pending.request

/-- The file has a record of the challenge with this expiry. -/
def Present (s : System) (challengeId : String) (expiresAtMs : ℕ) : Prop :=
  ∃ state, s.disk = some state ∧
    ∃ record ∈ state.records, record.challengeId = challengeId ∧ record.expiresAtMs = expiresAtMs

/-- The file has the hello for the challenge. -/
def Stored (s : System) (challengeId : String) (expiresAtMs : ℕ) (hello : Bytes) : Prop :=
  ∃ state, s.disk = some state ∧
    ∃ record ∈ state.records, record.challengeId = challengeId ∧ record.expiresAtMs = expiresAtMs ∧
      record.hello.map strBytes = some hello

/-- The file has the request. -/
def Pending (request : Bytes) (s : System) : Prop :=
  ∃ state, s.disk = some state ∧ state.material = some request

section Calls

variable (sha256 : Bytes → Vector UInt8 32) (jsonLen : LedgerState → ℕ)

/-- The step returns the hello for the challenge to its caller. -/
def HandsOut (s : System) (op : Op) (challengeId : String) (hello : Bytes) : Prop :=
  (∃ given fate, op = .mutate (.storeHello challengeId given) fate ∧
    (mutate sha256 jsonLen s (.storeHello challengeId given) fate).1 =
      .returned (.ok (.hello hello))) ∨
  ∃ expiresAtMs challenge request evaluationTimeMs fate,
    op = .mutate (.reserve challengeId expiresAtMs challenge request evaluationTimeMs) fate ∧
    (mutate sha256 jsonLen s
      (.reserve challengeId expiresAtMs challenge request evaluationTimeMs) fate).1 =
      .returned (.ok (.retryHello hello))

/-- The step is a `prepare_request` that returns the request. -/
def Prepares (s : System) (op : Op) (request : Bytes) : Prop :=
  ∃ given expiresAtMs evaluationTimeMs fate deadline,
    op = .mutate (.prepareRequest given expiresAtMs evaluationTimeMs) fate ∧
    (mutate sha256 jsonLen s (.prepareRequest given expiresAtMs evaluationTimeMs) fate).1 =
      .returned (.ok (.request request deadline))

/-- The step ends the pending request: a `prepare_request` after its deadline, or a `complete`,
    changes the ledger. -/
def Ends (s : System) (op : Op) : Prop :=
  (step sha256 jsonLen s op).ledger ≠ s.ledger ∧
    ((∃ given expiresAtMs evaluationTimeMs fate,
      op = .mutate (.prepareRequest given expiresAtMs evaluationTimeMs) fate ∧
        ∃ state pending, s.ledger = some state ∧ state.pendingRequest = some pending ∧
          pending.expiresAtMs ≤ evaluationTimeMs) ∨
      ∃ challengeId fate, op = .mutate (.complete challengeId) fate)

end Calls

/-- The write of the operation does not fail in the sync behind its rename. -/
def Synced : Op → Prop
  | .mutate _ (.syncFailed _) => False
  | _ => True

/-! ## One operation -/

variable {challengeId : String} {expiresAtMs : ℕ} {hello request : Bytes}

section Operation

variable {sha256 : Bytes → Vector UInt8 32} {state next : LedgerState} {reply : Reply}
  {mutation : Mutation} {t : ℕ}

theorem pendingRequest_of_livePending {pending : PendingRequest}
    (h : state.livePending t = some pending) : state.pendingRequest = some pending :=
  (Option.filter_eq_some_iff.1 h).1

theorem material_of_livePending {pending : PendingRequest}
    (h : state.livePending t = some pending) :
    state.material = some (strBytes pending.request) := by
  rw [LedgerState.material, pendingRequest_of_livePending h, Option.map_some]

theorem material_prepareRequest (state : LedgerState) (request : String) (expiresAtMs t : ℕ) :
    ∃ payload deadline,
      (state.prepareRequest request expiresAtMs t).1 = .request payload deadline ∧
      (state.prepareRequest request expiresAtMs t).2.material = some payload ∧
      (state.livePending t = none ∨ state.material = some payload) := by
  unfold LedgerState.prepareRequest
  cases hlive : state.livePending t with
  | some pending => exact ⟨_, _, rfl, rfl, .inr (material_of_livePending hlive)⟩
  | none => exact ⟨_, _, rfl, rfl, .inl rfl⟩

theorem reserveAgain_spec {found : ChallengeRecord} {challengeDigest request : String}
    (h : state.reserveAgain found expiresAtMs challengeDigest request t = .ok (reply, next)) :
    next.material = state.material ∧
      ∀ hello, reply = .retryHello hello → found.hello.map strBytes = some hello := by
  unfold LedgerState.reserveAgain at h
  split_ifs at h
  split at h
  · cases h
  next pending hlive =>
  have hmat := material_of_livePending hlive
  split_ifs at h
  split at h
  · split at h
    · next hello hhello =>
      cases h
      refine ⟨hmat.symm, fun bytes hbs => ?_⟩
      cases hbs
      rw [hhello]
      rfl
    · cases h
      exact ⟨hmat.symm, fun bytes hbs => by cases hbs⟩
  · cases h

theorem reserveNew_spec {challengeDigest challenge request : String}
    (h : state.reserveNew challengeId expiresAtMs challengeDigest challenge request t = .ok (reply,
      next)) :
    next.material = state.material ∧ ∀ hello, reply ≠ .retryHello hello := by
  unfold LedgerState.reserveNew at h
  split at h
  · cases h
  next pending hlive =>
  dsimp only at h
  split_ifs at h
  cases h
  exact ⟨(material_of_livePending hlive).symm, fun hello hrp => by cases hrp⟩

theorem hello_of_storeHello {given : Bytes}
    (h : (Mutation.storeHello challengeId given).run sha256 state = .ok (.hello hello, next)) :
    ∃ record ∈ next.records, record.challengeId = challengeId ∧
      record.hello.map strBytes = some hello := by
  simp only [Mutation.run] at h
  split_ifs at h
  split at h
  · cases h
  obtain ⟨hrp, found, hfind, -, hnext⟩ := storeHello_spec h
  cases hrp
  have hid : found.challengeId = challengeId := by simpa using List.find?_some hfind
  rcases hnext with ⟨hhello, rfl⟩ | ⟨-, rfl⟩
  · exact ⟨found, List.mem_of_find?_eq_some hfind, hid, by rw [hhello]; rfl⟩
  · exact ⟨_, change_mem_updateRecord hfind _, hid, rfl⟩

theorem hello_of_reserve {challenge : Bytes}
    (h : (Mutation.reserve challengeId expiresAtMs challenge request t).run sha256 state = .ok
      (.retryHello hello, next)) :
    ∃ record ∈ next.records, record.challengeId = challengeId ∧
      record.hello.map strBytes = some hello := by
  simp only [Mutation.run] at h
  split_ifs at h
  split at h
  · split at h
    · next found hfind =>
      refine ⟨found, ?_, by simpa using List.find?_some hfind, (reserveAgain_spec h).2 hello rfl⟩
      rw [records_reserveAgain h]
      exact List.mem_of_find?_eq_some hfind
    · exact absurd rfl ((reserveNew_spec h).2 hello)
  · cases h

/-- Of an operation the pending request stays, unless it has expired for a `prepare_request` or is
    dropped by a `complete`. -/
theorem run_material (h : mutation.run sha256 state = .ok (reply, next)) :
    next.material = state.material ∨
      (∃ given expiresAtMs t, mutation = .prepareRequest given expiresAtMs t ∧
        state.livePending t = none) ∨
      ∃ challengeId, mutation = .complete challengeId := by
  cases mutation with
  | prepareRequest given expiresAtMs t =>
    simp only [Mutation.run] at h
    split_ifs at h
    split at h
    · cases h
    next request hreq =>
    rw [Except.ok.injEq] at h
    obtain ⟨payload, stored, -, haft, hlive | hbef⟩ :=
      material_prepareRequest state request expiresAtMs t
    · exact .inr (.inl ⟨given, expiresAtMs, t, rfl, hlive⟩)
    · rw [h] at haft
      exact .inl (haft.trans hbef.symm)
  | reserve challengeId expiresAtMs challenge request t =>
    simp only [Mutation.run] at h
    split_ifs at h
    split at h
    · split at h
      · exact .inl (reserveAgain_spec h).1
      · exact .inl (reserveNew_spec h).1
    · cases h
  | storeHello challengeId hello =>
    simp only [Mutation.run] at h
    split_ifs at h
    split at h
    · cases h
    · obtain ⟨-, found, -, -, ⟨-, rfl⟩ | ⟨-, rfl⟩⟩ := storeHello_spec h
      · exact .inl rfl
      · exact .inl rfl
  | complete challengeId => exact .inr (.inr ⟨challengeId, rfl⟩)

theorem material_of_request {given : Bytes} {deadline : ℕ}
    (h : (Mutation.prepareRequest given expiresAtMs t).run sha256 state = .ok (.request request
      deadline, next)) :
    next.material = some request := by
  simp only [Mutation.run] at h
  split_ifs at h
  split at h
  · cases h
  next text htext =>
  rw [Except.ok.injEq] at h
  obtain ⟨payload, stored, hrp, haft, -⟩ :=
    material_prepareRequest state text expiresAtMs t
  rw [h] at hrp haft
  cases hrp
  exact haft

/-- The record of the challenge with this expiry has the hello, or had it and is completed. -/
def HelloIn (challengeId : String) (expiresAtMs : ℕ) (hello : Bytes) (state : LedgerState) : Prop :=
  ∀ record ∈ state.records, record.challengeId = challengeId → record.expiresAtMs = expiresAtMs →
    record.hello.map strBytes = some hello ∨ record.status = .completed ∧ record.hello = none

theorem HelloIn.run (h : HelloIn challengeId expiresAtMs hello state)
    (hpres : ∃ record ∈ state.records, record.challengeId = challengeId ∧ record.expiresAtMs =
      expiresAtMs)
    (hrun : mutation.run sha256 state = .ok (reply, next)) :
    HelloIn challengeId expiresAtMs hello next := by
  intro record hmem hid hexp
  rcases run_origin hrun hmem with ⟨before, hbef, hevolves⟩ | ⟨_, _, t, -, hlive, hfr⟩
  · have hthere := h before hbef (hevolves.challengeId ▸ hid) (hevolves.expiresAtMs ▸ hexp)
    cases hevolves with
    | same => exact hthere
    | hello hpend hnone text =>
      rw [hnone, hpend] at hthere
      rcases hthere with hthere | ⟨hthere, -⟩
      · cases hthere
      · cases hthere
    | complete hpend order => exact .inr ⟨rfl, rfl⟩
  · -- a record is made anew only when the old one has expired, and then with a later expiry
    obtain ⟨present, hpres, hpid, hpexpires⟩ := hpres
    refine absurd (hpid.trans hid.symm) (hfr present (mem_retained hpres ?_))
    rintro ⟨-, hexpired⟩
    omega

end Operation

/-! ## Runs in which the file is never ahead -/

section Runs

variable {sha256 : Bytes → Vector UInt8 32} {jsonLen : LedgerState → ℕ} {s : System} {op : Op}

/-- The file has the state in memory. -/
def InSync (s : System) : Prop := ∀ current, s.memory = some current → s.disk = some current

theorem InSync.ledger (h : InSync s) : s.ledger = s.disk := by
  cases hmemory : s.memory with
  | none => exact ledger_of_closed hmemory
  | some current => rw [ledger_of_memory hmemory, h current hmemory]

theorem inSync_of_closed (h : s.memory = none) : InSync s := by
  intro current hcur
  rw [h] at hcur
  cases hcur

theorem InSync.step (sha256 : Bytes → Vector UInt8 32) (jsonLen : LedgerState → ℕ) (h : InSync s)
    (hop : Synced op) : InSync (step sha256 jsonLen s op) := by
  have hstp := stepped sha256 jsonLen s op
  generalize ChallengeLedger.step sha256 jsonLen s op = after at hstp ⊢
  cases hstp with
  | opened hopened =>
    cases hopened with
    | refused => exact h
    | taken hmemory hdisk hval => exact fun current hcur => hdisk.trans hcur
    | written hmemory hdisk capacity => exact inSync_of_closed hmemory
    | created hmemory hdisk capacity => exact fun current hcur => hcur
  | mutated hmut =>
    cases hmut with
    | refused | unchanged => exact h
    | committed hmemory hrun hval => exact fun current hcur => hcur
    | lagging hmemory hrun hval error hfate =>
      rw [hfate] at hop
      exact hop.elim
    | died | diedRenamed => exact inSync_of_closed rfl
  | closed => exact inSync_of_closed rfl

/-- What a step does to the file: nothing, or the operation of the step. -/
theorem InSync.disk_step (sha256 : Bytes → Vector UInt8 32) (jsonLen : LedgerState → ℕ)
    (h : InSync s) (op : Op) {before : LedgerState} (hbef : s.disk = some before) :
    ∃ after, (ChallengeLedger.step sha256 jsonLen s op).disk = some after ∧
      (after = before ∨ ∃ mutation fate reply, op = .mutate mutation fate ∧
        mutation.run sha256 before = .ok (reply, after)) := by
  have hstp := stepped sha256 jsonLen s op
  generalize ChallengeLedger.step sha256 jsonLen s op = s' at hstp ⊢
  cases hstp with
  | opened hopened =>
    refine ⟨before, ?_, .inl rfl⟩
    cases hopened with
    | refused | taken => exact hbef
    | written _ hdisk | created _ hdisk =>
      rw [hdisk] at hbef
      cases hbef
  | @mutated mutation fate _ hmut =>
    have happl {current next : LedgerState} {reply : Reply} (hmemory : s.memory = some current)
        (hrun : mutation.run sha256 current = .ok (reply, next)) :
        next = before ∨ ∃ other otherFate reply, Op.mutate mutation fate = .mutate other otherFate ∧
          other.run sha256 before = .ok (reply, next) := by
      obtain rfl := Option.some.inj ((h current hmemory).symm.trans hbef)
      exact .inr ⟨mutation, fate, reply, rfl, hrun⟩
    cases hmut with
    | refused | unchanged | died => exact ⟨before, hbef, .inl rfl⟩
    | committed hmemory hrun | lagging hmemory hrun | diedRenamed hmemory hrun =>
      exact ⟨_, rfl, happl hmemory hrun⟩
  | closed => exact ⟨before, hbef, .inl rfl⟩

/-- A reply is that of the operation on the file, and its result is in the file. -/
theorem InSync.returned (h : InSync s) {mutation : Mutation} {fate : WriteFate} {reply : Reply}
    (hret : (mutate sha256 jsonLen s mutation fate).1 = .returned (.ok reply)) :
    ∃ current next, mutation.run sha256 current = .ok (reply, next) ∧
      (mutate sha256 jsonLen s mutation fate).2.disk = some next := by
  have hmut := mutated sha256 jsonLen s mutation fate
  generalize mutate sha256 jsonLen s mutation fate = outcome at hmut hret ⊢
  cases hmut with
  | refused | lagging | died | diedRenamed => cases hret
  | unchanged hmemory hrun =>
    cases hret
    exact ⟨_, _, hrun, h _ hmemory⟩
  | committed hmemory hrun hval =>
    cases hret
    exact ⟨_, _, hrun, rfl⟩

theorem InSync.stored_of_handsOut (h : InSync s)
    (hhands : HandsOut sha256 jsonLen s op challengeId hello) :
    ∃ expiresAtMs, Stored (ChallengeLedger.step sha256 jsonLen s op) challengeId expiresAtMs
      hello := by
  rcases hhands with ⟨given, fate, rfl, hret⟩ | ⟨e, challenge, request, t, fate, rfl, hret⟩
  · obtain ⟨current, next, hrun, hdisk⟩ := h.returned hret
    obtain ⟨record, hmem, hid, hhello⟩ := hello_of_storeHello hrun
    exact ⟨record.expiresAtMs, next, hdisk, record, hmem, hid, rfl, hhello⟩
  · obtain ⟨current, next, hrun, hdisk⟩ := h.returned hret
    obtain ⟨record, hmem, hid, hhello⟩ := hello_of_reserve hrun
    exact ⟨record.expiresAtMs, next, hdisk, record, hmem, hid, rfl, hhello⟩

theorem InSync.pending_of_prepares (h : InSync s)
    (hprepares : Prepares sha256 jsonLen s op request) :
    Pending request (ChallengeLedger.step sha256 jsonLen s op) := by
  obtain ⟨given, expiresAtMs, t, fate, deadline, rfl, hret⟩ := hprepares
  obtain ⟨current, next, hrun, hdisk⟩ := h.returned hret
  exact ⟨next, hdisk, material_of_request hrun⟩

theorem InSync.pending_step (h : InSync s) (hop : Synced op) (hpend : Pending request s)
    (hends : ¬Ends sha256 jsonLen s op) :
    Pending request (ChallengeLedger.step sha256 jsonLen s op) := by
  obtain ⟨before, hbef, hmat⟩ := hpend
  have hsync := h.step sha256 jsonLen hop
  obtain ⟨after, haft, hsame | ⟨mutation, fate, reply, rfl, hrun⟩⟩ :=
    h.disk_step sha256 jsonLen op hbef
  · exact ⟨after, haft, hsame ▸ hmat⟩
  by_cases hsame : after = before
  · exact ⟨after, haft, hsame ▸ hmat⟩
  have hchg : (ChallengeLedger.step sha256 jsonLen s (.mutate mutation fate)).ledger ≠
      s.ledger := by
    rw [hsync.ledger, h.ledger, haft, hbef]
    exact fun heq => hsame (Option.some.inj heq)
  rcases run_material hrun with hkept | ⟨given, expiresAtMs, t, rfl, hdead⟩ | ⟨challengeId, rfl⟩
  · exact ⟨after, haft, hkept.trans hmat⟩
  · refine absurd ⟨hchg, .inl ⟨given, expiresAtMs, t, fate, rfl, before, ?_⟩⟩ hends
    obtain ⟨pending, hpend, -⟩ := Option.map_eq_some_iff.1 hmat
    refine ⟨pending, h.ledger.trans hbef, hpend, not_lt.1 fun hlt => ?_⟩
    rw [LedgerState.livePending, hpend, Option.filter_some, if_pos (decide_eq_true hlt)] at hdead
    cases hdead
  · exact absurd ⟨hchg, .inr ⟨challengeId, fate, rfl⟩⟩ hends

/-- The file has the hello for every record of the challenge with this expiry. -/
def HelloKept (challengeId : String) (expiresAtMs : ℕ) (hello : Bytes) (s : System) : Prop :=
  ∀ state, s.disk = some state → HelloIn challengeId expiresAtMs hello state

/-- The hello stays as long as the record is there. -/
theorem HelloKept.step (h : HelloKept challengeId expiresAtMs hello s) (hsync : InSync s)
    (hpres : Present s challengeId expiresAtMs) :
    HelloKept challengeId expiresAtMs hello (step sha256 jsonLen s op) := by
  intro state hst
  obtain ⟨before, hbef, hrec⟩ := hpres
  obtain ⟨after, haft, happl⟩ := hsync.disk_step sha256 jsonLen op hbef
  obtain rfl := Option.some.inj (haft.symm.trans hst)
  rcases happl with rfl | ⟨mutation, fate, reply, -, hrun⟩
  · exact h after hbef
  · exact (h before hbef).run hrec hrun

theorem helloKept_of_stored (hdisk : ∀ state, s.disk = some state → Valid state)
    (h : Stored s challengeId expiresAtMs hello) : HelloKept challengeId expiresAtMs hello s := by
  obtain ⟨state, hst, record, hmem, hid, -, hhello⟩ := h
  intro state' hst' other hoth hoid _
  obtain rfl := Option.some.inj (hst.symm.trans hst')
  rw [eq_of_challengeId (hdisk state hst) hoth hmem (hoid.trans hid.symm)]
  exact .inl hhello

theorem HelloKept.eq_of_stored {other : Bytes} (h : HelloKept challengeId expiresAtMs hello s)
    (hsto : Stored s challengeId expiresAtMs other) : other = hello := by
  obtain ⟨state, hst, record, hmem, hid, hexp, hoth⟩ := hsto
  rcases h state hst record hmem hid hexp with hhello | ⟨-, hnone⟩
  · exact Option.some.inj (hoth.symm.trans hhello)
  · rw [hnone] at hoth
    cases hoth

end Runs

/-! ## A challenge and its hello -/

/-- A hash of 32 bytes for the runs below. -/
def zeroHash (_ : Bytes) : Vector UInt8 32 := Vector.replicate 32 0

/-- The challenge of the runs below. -/
def heldId : String := "00000000-0000-4000-8000-000000000001"

/-- One pending record, with or without a hello. -/
def heldState (hello : Option String) : LedgerState :=
  ⟨ledgerSchema, 1, some ⟨10, "r"⟩, 1,
    [⟨heldId, 10, transcriptDigest zeroHash (strBytes "c"), some "c", some "r", hello, .pending,
      none⟩]⟩

/-- A request is prepared and its challenge reserved. -/
def reserveRun : List Op :=
  [.openLedger 1 .done, .mutate (.prepareRequest (strBytes "r") 10 0) .done,
    .mutate (.reserve heldId 10 (strBytes "c") (strBytes "r") 0) .done]

/-- The process dies once the file has the hello, and the challenge is reserved again. -/
def crashRun : List Op :=
  reserveRun ++ [.mutate (.storeHello heldId (strBytes "h")) (.crashed true), .openLedger 1 .done,
    .mutate (.reserve heldId 10 (strBytes "c") (strBytes "r") 3) .done]

/-- A hello is stored with a sync that fails, and then another one. -/
def lostHelloRun : List Op :=
  reserveRun ++ [.mutate (.storeHello heldId (strBytes "h")) (.syncFailed .storage),
    .mutate (.storeHello heldId (strBytes "g")) .done]

theorem present_heldState {s : System} {hello : Option String} (h : s.disk = some (heldState hello)) :
    Present s heldId 10 :=
  ⟨_, h, _, List.mem_singleton_self _, rfl, rfl⟩

theorem stored_heldState {s : System} {hello : String} (h : s.disk = some (heldState (some hello))) :
    Stored s heldId 10 (strBytes hello) :=
  ⟨_, h, _, List.mem_singleton_self _, rfl, rfl, rfl⟩

/-- In every run in which no write fails in the sync behind its rename, crashes included: the hello in
    the file is the same at any two moments between which the record is there, a hello is handed out
    only after it is in the file, and the same holds of the request until it ends. -/
theorem single_hello (sha256 : Bytes → Vector UInt8 32) (jsonLen : LedgerState → ℕ) (ops : List Op)
    (hsynced : ∀ op ∈ ops, Synced op) :
    (∀ challengeId expiresAtMs m n, m ≤ n → n ≤ ops.length →
      (∀ k, m ≤ k → k ≤ n → Present (run (step sha256 jsonLen) System.fresh (ops.take k))
        challengeId expiresAtMs) →
      ∀ first second,
        Stored (run (step sha256 jsonLen) System.fresh (ops.take m)) challengeId expiresAtMs first →
        Stored (run (step sha256 jsonLen) System.fresh (ops.take n)) challengeId expiresAtMs second →
        second = first) ∧
    EveryStep (step sha256 jsonLen) (fun s op => ∀ challengeId hello,
      HandsOut sha256 jsonLen s op challengeId hello →
      ∃ expiresAtMs, Stored (step sha256 jsonLen s op) challengeId expiresAtMs hello)
      System.fresh ops ∧
    EveryStep (step sha256 jsonLen) (fun s op => ∀ request, Prepares sha256 jsonLen s op request →
      Pending request (step sha256 jsonLen s op)) System.fresh ops ∧
    ∀ m n op, m ≤ n → ops[n]? = some op → ∀ first second,
      Pending first (run (step sha256 jsonLen) System.fresh (ops.take m)) →
      (∀ k other, m ≤ k → k ≤ n → ops[k]? = some other →
        ¬Ends sha256 jsonLen (run (step sha256 jsonLen) System.fresh (ops.take k)) other) →
      Prepares sha256 jsonLen (run (step sha256 jsonLen) System.fresh (ops.take n)) op second →
      second = first := by
  have hguard : EveryStep (step sha256 jsonLen) (fun _ op => Synced op) System.fresh ops :=
    everyStep_of_forall hsynced System.fresh
  have hsync : EveryState (step sha256 jsonLen) InSync System.fresh ops :=
    hguard.invariant (fun s op h hop => h.step sha256 jsonLen hop) (inSync_of_closed rfl)
  have hsteps : EveryStep (step sha256 jsonLen) (fun s op => InSync s ∧ Synced op) System.fresh ops := by
    intro n op hop
    exact ⟨hsync n (List.getElem?_eq_some_iff.1 hop).1.le, hguard n op hop⟩
  have hsound : EveryState (step sha256 jsonLen) (Sound sha256) System.fresh ops :=
    everyState_of_step (fun s op h => h.step op) sound_fresh ops
  refine ⟨?_, hsync.everyStep fun s op h challengeId hello => h.stored_of_handsOut,
    hsync.everyStep fun s op h request => h.pending_of_prepares, ?_⟩
  · intro challengeId expiresAtMs m n hmn hn hpresent first second hfirst hsecond
    have hkept := helloKept_of_stored (hsound m (hmn.trans hn)).disk hfirst
    suffices hlast : HelloKept challengeId expiresAtMs first
        (run (step sha256 jsonLen) System.fresh (ops.take n)) from hlast.eq_of_stored hsecond
    refine hsteps.between hmn hn hkept fun k op hmk hkn hop hbefore hk => ?_
    exact hbefore.step hk.1 (hpresent k hmk hkn.le)
  · intro m n op hmn hop first second hfirst hends hsecond
    have hn : n < ops.length := (List.getElem?_eq_some_iff.1 hop).1
    obtain ⟨hsyncN, hopN⟩ := hsteps n op hop
    have hpendingN : Pending first (run (step sha256 jsonLen) System.fresh (ops.take n)) := by
      refine hsteps.between hmn hn.le hfirst fun k other hmk hkn hother hpending hk => ?_
      exact hk.1.pending_step hk.2 hpending (hends k other hmk hkn.le hother)
    obtain ⟨state, hstate, hkept⟩ := hsyncN.pending_step hopN hpendingN (hends n op hmn le_rfl hop)
    obtain ⟨state', hstate', hgiven⟩ := hsyncN.pending_of_prepares hsecond
    obtain rfl := Option.some.inj (hstate.symm.trans hstate')
    exact Option.some.inj (hgiven.symm.trans hkept)

theorem single_hello_crash :
    let state k := run (step zeroHash fun _ => 1) System.fresh (crashRun.take k)
    (∀ op ∈ crashRun, Synced op) ∧
      (mutate zeroHash (fun _ => 1) (state 5)
        (.reserve heldId 10 (strBytes "c") (strBytes "r") 3) .done).1 =
        .returned (.ok (.retryHello (strBytes "h"))) ∧
      ∀ hello, Stored (state 6) heldId 10 hello → hello = strBytes "h" := by
  intro state
  have hsynced : ∀ op ∈ crashRun, Synced op := by simp [crashRun, reserveRun, Synced]
  have hfile (k : ℕ) (hk : 4 ≤ k) (hk6 : k ≤ 6) :
      (state k).disk = some (heldState (some "h")) := by
    interval_cases k <;> decide +kernel
  refine ⟨hsynced, by decide +kernel, fun hello hstored => ?_⟩
  have hpresent (k : ℕ) (hk : 4 ≤ k) (hk6 : k ≤ 6) : Present (state k) heldId 10 :=
    present_heldState (hfile k hk hk6)
  exact (single_hello zeroHash (fun _ => 1) crashRun hsynced).1 heldId 10 4 6 (by decide) (by decide)
    hpresent _ _ (stored_heldState (hfile 4 le_rfl (by decide))) hstored

/-- The file has the first hello when its call returns an error, and the second one afterwards. -/
theorem second_hello_stored :
    let state k := run (step zeroHash fun _ => 1) System.fresh (lostHelloRun.take k)
    (Present (state 4) heldId 10 ∧ Present (state 5) heldId 10) ∧
      Stored (state 4) heldId 10 (strBytes "h") ∧ Stored (state 5) heldId 10 (strBytes "g") ∧
      strBytes "g" ≠ strBytes "h" := by
  intro state
  have hfirst : (state 4).disk = some (heldState (some "h")) := by decide +kernel
  have hsecond : (state 5).disk = some (heldState (some "g")) := by decide +kernel
  exact ⟨⟨present_heldState hfirst, present_heldState hsecond⟩, stored_heldState hfirst,
    stored_heldState hsecond, by decide +kernel⟩

end AetherEdge.ChallengeLedger
