import AetherEdge.CloudLink.FileSpoolAppendFailure
import AetherEdge.CloudLink.SpoolIdentity

/-!
# Identities across crashes

Histories of the file spool that begin with an empty file and in which the process may die in
any call, leaving any part of what it was writing. A crash that leaves a whole frame behind
counts as the mutation having happened; one that cuts the creation of the journal short leaves
a file that can never be opened (`Stillborn`).

* `assigned_identity_stable`: over every history, a position of an epoch belongs to one
  content, positions are given out consecutively from one, and a retained batch that is
  enqueued again gets its record back.
-/

namespace AetherEdge.CloudLink

open OrderedMap Framing Transition List
open Std (ExtTreeMap)

/-! ## Journals that were never completed -/

/-- A nonempty proper prefix of a header and a first frame. -/
def Stillborn (file : Bytes) : Prop :=
  ∃ payload, JournalFits payload ∧ file ≠ [] ∧ file <+: journalMagic ++ journalFrame payload ∧
    file ≠ journalMagic ++ journalFrame payload

theorem stillborn_magic : Stillborn journalMagic := by
  refine ⟨[0], ⟨by simp, by decide⟩, by decide, prefix_append _ _, fun h => ?_⟩
  have hlen := congrArg List.length h
  rw [length_append, length_journalFrame] at hlen
  omega

theorem stillborn_take {payload : Bytes} (h : JournalFits payload) {written : ℕ}
    (hpos : 0 < written) (hlt : written < (journalMagic ++ journalFrame payload).length) :
    Stillborn ((journalMagic ++ journalFrame payload).take written) := by
  have hlen : ((journalMagic ++ journalFrame payload).take written).length = written := by
    rw [length_take]; omega
  refine ⟨payload, h, fun hnil => ?_, take_prefix _ _, fun heq => ?_⟩
  · rw [hnil] at hlen
    simp at hlen
    omega
  · rw [heq] at hlen
    omega

section Journals

variable {codec : JournalCodec} {path : String} {file : Bytes}

/-- Recovery of such a file fails and leaves such a file. -/
theorem recover_stillborn (codec : JournalCodec) (path : String) (h : Stillborn file) :
    ∃ e file', recover codec path file = (.error e, file') ∧ Stillborn file' := by
  obtain ⟨payload, hfits, hne, hpre, hwhole⟩ := h
  unfold recover
  by_cases hlen : file.length < journalMagic.length
  · rw [if_pos hlen]
    exact ⟨_, file, rfl, payload, hfits, hne, hpre, hwhole⟩
  -- the header is complete, so a proper prefix of the first frame follows it
  obtain ⟨tail, rfl, htail⟩ : ∃ tail, file = journalMagic ++ tail ∧
      tail <+: journalFrame payload := by
    have htake := prefix_iff_eq_take.1 hpre
    rw [take_append, take_of_length_le (by omega)] at htake
    exact ⟨_, htake, take_prefix _ _⟩
  have hproper : tail ≠ journalFrame payload := fun heq => hwhole (by rw [heq])
  have hfold : ([] : List Bytes).foldlM (applyPayload codec path) ⟨none, 0, false⟩ =
      .ok ⟨none, 0, false⟩ := rfl
  have hscan := Format.scan_torn (F := journalFormat path) (by simp) hfold journalMagic.length
    hfits htail hproper
  rw [Format.log_nil, nil_append] at hscan
  rw [if_neg hlen, take_left, if_neg (by simp), drop_left, hscan]
  refine ⟨_, _, rfl, ?_⟩
  rw [length_nil, Nat.add_zero, take_left]
  exact stillborn_magic

theorem openJournal_stillborn (codec : JournalCodec) (path : String) (h : Stillborn file)
    (streamId : String) (capacity : ℕ) (append : AppendFate) (compaction : CompactFate) :
    ∃ e file', openJournal codec path file streamId capacity append compaction =
      (.returned (.error e), file') ∧ Stillborn file' := by
  obtain ⟨e, file', hrec, hstill⟩ := recover_stillborn codec path h
  obtain ⟨_, -, hne, -⟩ := h
  have hlen : ¬file.length = 0 := fun h0 => hne (eq_nil_of_length_eq_zero h0)
  refine ⟨e, file', ?_, hstill⟩
  rw [openJournal, createOrRecover, if_neg hlen, hrec]

/-- The journal of a new spool is its header and one frame. -/
theorem compactedJournal_initial {streamId : String} {capacity : ℕ}
    (h : compactedJournal codec path (.initial streamId capacity) = .ok file) :
    ∃ payload, JournalFits payload ∧ file = journalMagic ++ journalFrame payload := by
  have hents : compactedEntries (.initial streamId capacity) =
      [checkpoint (.initial streamId capacity)] := rfl
  rw [compactedJournal, hents, mapM_cons] at h
  rcases hp : entryPayload codec (checkpoint (.initial streamId capacity)) with e | payload
  · rw [hp] at h; cases h
  rw [hp] at h
  cases h
  refine ⟨payload, (entryPayload_ok hp).2, ?_⟩
  show journalMagic ++ (journalFormat path).log [payload] = _
  rw [Format.log_singleton]
  rfl

/-- What opening an empty file can lead to: an open new spool, an empty file, a journal that was
    never completed, or the complete journal of a new spool. -/
def CreatedFrom (codec : JournalCodec) (path : String) (streamId : String) (capacity : ℕ) :
    Outcome FileSpool × Bytes → Prop
  | (.returned (.ok opened), _) => opened.isOpen = true ∧
      opened.state = .initial streamId capacity ∧
      Stored codec path opened.file opened.state opened.mutationsSinceCompaction []
  | (_, file) => file = [] ∨ Stillborn file ∨
      Stored codec path file (.initial streamId capacity) 0 []

theorem openJournal_created (path : String) (hcodec : codec.RoundTrips) (streamId : String) (capacity : ℕ)
    (append : AppendFate) (compaction : CompactFate) :
    CreatedFrom codec path streamId capacity
      (openJournal codec path [] streamId capacity append compaction) := by
  rcases hnew : CloudLinkSpoolState.new streamId capacity with e | state
  · rw [openJournal, createOrRecover, if_pos length_nil, hnew]
    exact .inl rfl
  obtain ⟨-, -, -, rfl⟩ := CloudLinkSpoolState.new_ok.1 hnew
  have inv := inv_new hnew
  rcases hfile : compactedJournal codec path (.initial streamId capacity) with e | created
  · rw [openJournal, createOrRecover, if_pos length_nil, hnew]
    simp only [createJournal, hfile]
    exact .inr (.inl stillborn_magic)
  have hsto := (committed_compactedJournal hcodec inv hfile).stored inv
  -- any part of the new journal that reaches the file
  have hpart : ∀ written, created.take written = [] ∨ Stillborn (created.take written) ∨
      Stored codec path (created.take written) (.initial streamId capacity) 0 [] := by
    intro written
    obtain ⟨payload, hfits, rfl⟩ := compactedJournal_initial hfile
    rcases Nat.eq_zero_or_pos written with rfl | hpos
    · exact .inl rfl
    rcases Nat.lt_or_ge written (journalMagic ++ journalFrame payload).length with hlt | hge
    · exact .inr (.inl (stillborn_take hfits hpos hlt))
    · rw [take_of_length_le hge]
      exact .inr (.inr hsto)
  cases append with
  | done =>
    rw [openJournal_new hnew hfile compaction]
    exact ⟨rfl, rfl, hsto⟩
  | failed written source =>
    rw [openJournal, createOrRecover, if_pos length_nil, hnew]
    simp only [createJournal, hfile]
    exact hpart written
  | crashed written =>
    rw [openJournal, createOrRecover, if_pos length_nil, hnew]
    simp only [createJournal, hfile]
    exact hpart written

end Journals

/-! ## Histories -/

/-- No append of a request fails and lets the process go on. -/
def FileOp.NoFailedAppend : FileOp → Prop
  | .mutate _ _ (.failed _ _) => False
  | _ => True

/-- `content` is at `position` of `epoch` in an open spool. -/
def VisibleIn (spool : FileSpool) : Ledger := fun epoch position content =>
  spool.isOpen = true ∧ epoch = spool.state.streamEpoch ∧
    ∃ r, spool.state.records[position]? = some r ∧ r.content = content

/-- `content` was at `position` of `epoch` at some time of the history. -/
def Assigned (codec : JournalCodec) (path : String) (spool : FileSpool) (ops : List FileOp) :
    Ledger := fun epoch position content =>
  ∃ n ≤ ops.length, VisibleIn (run (fileStep codec path) spool (ops.take n)) epoch position content

section Histories

variable {codec : JournalCodec} {path : String}

/-- The ledger is sound and tracks what the file holds; as long as no journal was completed it
    is empty. -/
def Accounted (codec : JournalCodec) (path : String) (ledger : Ledger) (spool : FileSpool) : Prop :=
  ledger.Ok ∧
    ((spool.isOpen = false ∧ (spool.file = [] ∨ Stillborn spool.file) ∧
        ∀ epoch p c, ¬ledger epoch p c) ∨
     ∃ held mutations tail, Stored codec path spool.file held mutations tail ∧
      ledger.Tracks held ∧ (spool.isOpen = true →
        held = spool.state ∧ mutations = spool.mutationsSinceCompaction ∧ tail = []))

/-- What has been seen of an open spool is in the ledger. -/
def Seen (ledger : Ledger) (spool : FileSpool) : Prop :=
  ∀ epoch p c, VisibleIn spool epoch p c → ledger epoch p c

variable {spool : FileSpool} {ledger : Ledger}

theorem Seen.holds (h : Seen ledger spool) (hopen : spool.isOpen = true) :
    ledger.Holds spool.state :=
  fun p r hr => h _ p r.content ⟨hopen, rfl, r, hr, rfl⟩

theorem Accounted.see (h : Accounted codec path ledger spool) :
    Accounted codec path (fun epoch p c => ledger epoch p c ∨ VisibleIn spool epoch p c) spool := by
  cases hopen : spool.isOpen with
  | false =>
    have hnone : (fun epoch p c => ledger epoch p c ∨ VisibleIn spool epoch p c) = ledger := by
      funext epoch p c
      simp [VisibleIn, hopen]
    rw [hnone]
    exact h
  | true =>
    have hview : (fun epoch p c => ledger epoch p c ∨ VisibleIn spool epoch p c) =
        ledger.observe spool.state := by
      funext epoch p c
      simp [VisibleIn, Ledger.observe, hopen]
    rw [hview]
    obtain ⟨hok, ⟨hclosed, -⟩ | ⟨held, mutations, tail, hs, htr, heq⟩⟩ := h
    · rw [hopen] at hclosed; cases hclosed
    · obtain ⟨rfl, rfl, rfl⟩ := heq hopen
      exact ⟨hok.observe htr hs.inv, .inr ⟨_, _, _, hs, htr.observe hs.inv,
        fun _ => ⟨rfl, rfl, rfl⟩⟩⟩

theorem accounted_of_stored (hok : ledger.Ok)
    (hs : Stored codec path spool.file spool.state spool.mutationsSinceCompaction [])
    (htr : ledger.Tracks spool.state) : Accounted codec path ledger spool :=
  ⟨hok, .inr ⟨_, _, _, hs, htr, fun _ => ⟨rfl, rfl, rfl⟩⟩⟩

theorem accounted_of_closed {held : CloudLinkSpoolState} {mutations : ℕ} {tail : Bytes}
    (hok : ledger.Ok) (hs : Stored codec path spool.file held mutations tail)
    (htr : ledger.Tracks held) (hclosed : spool.isOpen = false) :
    Accounted codec path ledger spool :=
  ⟨hok, .inr ⟨held, mutations, tail, hs, htr, fun hopen => by
    rw [hclosed] at hopen; cases hopen⟩⟩

/-- A request, possibly cut short by a crash at any byte of its frame. -/
theorem accounted_mutate (hcodec : codec.RoundTrips) (hok : ledger.Ok)
    (hhld : ledger.Holds spool.state)
    (hs : Stored codec path spool.file spool.state spool.mutationsSinceCompaction [])
    (htr : ledger.Tracks spool.state) {request : SpoolRequest} {compaction : CompactFate}
    {append : AppendFate} (hop : (FileOp.mutate request compaction append).NoFailedAppend) :
    Accounted codec path ledger (mutate codec path spool request compaction append).2 := by
  have hmid : ∀ mid, AfterCompaction codec path spool mid → mid.state = spool.state ∧
      Stored codec path mid.file mid.state mid.mutationsSinceCompaction [] := by
    intro mid haft
    obtain ⟨tail, htail, hmid⟩ := hs.afterCompaction hcodec haft
    obtain rfl : tail = [] := by
      rcases htail with ⟨h, -⟩ | h <;> exact h
    exact ⟨haft.1, hmid⟩
  rcases mutate_cases codec path spool request compaction append with
    ⟨mid, haft, heq⟩ | ⟨mid, next, payload, hreach, haft, heq⟩
  · obtain ⟨hst, hsto⟩ := hmid mid haft
    rw [heq]
    exact accounted_of_stored hok hsto (by rw [hst]; exact htr)
  · obtain ⟨hst, hsto⟩ := hmid mid haft
    obtain ⟨hinv, hnext, hex, entry, hp, hent, happly⟩ := hreach.replays hsto.inv
    have hmidTracks : ledger.Tracks mid.state := by rw [hst]; exact htr
    have hnextTracks : ledger.Tracks next := by
      rw [hnext]
      exact hmidTracks.step (by rw [hst]; exact hhld) hex
    rw [heq]
    cases append with
    | done => exact accounted_of_stored hok (hreach.stored_done hcodec hsto) hnextTracks
    | failed written source => exact absurd hop id
    | crashed written =>
      rcases hsto.committed.take_frame hcodec hsto.inv hinv hp hent happly written with
        ⟨-, htorn⟩ | ⟨-, hwhole⟩
      · exact accounted_of_closed hok htorn hmidTracks rfl
      · exact accounted_of_closed hok hwhole hnextTracks rfl

theorem tracks_initial (h : ∀ epoch p c, ¬ledger epoch p c) (streamId : String) (capacity : ℕ) :
    ledger.Tracks (.initial streamId capacity) := by
  refine ⟨fun epoch p c hc => absurd hc (h epoch p c), fun p r c hr hc => absurd hc (h _ p c),
    fun p h1 hp => ?_⟩
  have hnext : (CloudLinkSpoolState.initial streamId capacity).nextPosition = 1 := rfl
  omega

section

variable (hcodec : codec.RoundTrips) (h : Accounted codec path ledger spool)

include hcodec h

/-- A start of the process, on whatever the last one left. -/
theorem accounted_reopen (streamId : String) (capacity : ℕ) (append : AppendFate)
    (compaction : CompactFate) :
    Accounted codec path ledger
      (fileStep codec path spool (.reopen streamId capacity append compaction)) := by
  simp only [fileStep]
  obtain ⟨hok, ⟨-, hfile, hnone⟩ | ⟨held, mutations, tail, hs, htr, -⟩⟩ := h
  · rcases hfile with hfile | hfile
    · -- the journal is created
      have hcre := openJournal_created path hcodec streamId capacity append compaction
      rw [hfile]
      generalize openJournal codec path [] streamId capacity append compaction = result
        at hcre
      have hclosed : ∀ file, (file = [] ∨ Stillborn file ∨
          Stored codec path file (.initial streamId capacity) 0 []) →
          Accounted codec path ledger { spool with file := file, isOpen := false } := by
        rintro file (hemp | hstill | hsto)
        · exact ⟨hok, .inl ⟨rfl, .inl hemp, hnone⟩⟩
        · exact ⟨hok, .inl ⟨rfl, .inr hstill, hnone⟩⟩
        · exact accounted_of_closed hok hsto (tracks_initial hnone streamId capacity) rfl
      rcases result with ⟨(e | opened) | _, file⟩
      · exact hclosed file hcre
      · obtain ⟨_, hst, hsto⟩ := hcre
        have hnew : ledger.Tracks opened.state := by
          rw [hst]; exact tracks_initial hnone streamId capacity
        exact accounted_of_stored hok hsto hnew
      · exact hclosed file hcre
    · obtain ⟨e, file', hfail, hstill⟩ :=
        openJournal_stillborn codec path hfile streamId capacity append compaction
      rw [hfail]
      exact ⟨hok, .inl ⟨rfl, .inr hstill, hnone⟩⟩
  · have hopened := openJournal_stored hcodec hs streamId capacity append compaction
    generalize openJournal codec path spool.file streamId capacity append compaction = result
      at hopened
    have hclosed : ∀ file, (∃ held' mutations' tail',
        (held' = held ∨ held' = withCapacity held capacity) ∧ (append = .done → tail' = []) ∧
          Stored codec path file held' mutations' tail') →
        Accounted codec path ledger { spool with file := file, isOpen := false } := by
      rintro file ⟨held', mutations', tail', rfl | rfl, -, hs'⟩
      · exact accounted_of_closed hok hs' htr rfl
      · exact accounted_of_closed hok hs' (htr.withCapacity capacity) rfl
    rcases result with ⟨(e | opened) | _, file⟩
    · exact hclosed file hopened
    · obtain ⟨_, hst, hs'⟩ := hopened
      have hsame : ledger.Tracks opened.state := by
        rw [hst]; exact htr.withCapacity capacity
      exact accounted_of_stored hok hs' hsame
    · exact hclosed file hopened

theorem accounted_step (hseen : Seen ledger spool) {op : FileOp} (hop : op.NoFailedAppend) :
    Accounted codec path ledger (fileStep codec path spool op) := by
  have hopened : spool.isOpen = true → ledger.Ok ∧
      Stored codec path spool.file spool.state spool.mutationsSinceCompaction [] ∧
      ledger.Tracks spool.state := by
    intro hopen
    obtain ⟨hok, ⟨hclosed, -⟩ | ⟨held, mutations, tail, hs, htr, heq⟩⟩ := h
    · rw [hopen] at hclosed; cases hclosed
    · obtain ⟨rfl, rfl, rfl⟩ := heq hopen
      exact ⟨hok, hs, htr⟩
  cases op with
  | mutate request compaction append =>
    simp only [fileStep]
    split_ifs with hopen
    · obtain ⟨hok, hs, htr⟩ := hopened hopen
      exact accounted_mutate hcodec hok (hseen.holds hopen) hs htr hop
    · exact h
  | compact fate =>
    simp only [fileStep]
    split_ifs with hopen
    · obtain ⟨hok, hs, htr⟩ := hopened hopen
      have haft := compactLocked_cases codec path spool fate
      obtain ⟨tail, htail, hmid⟩ := hs.afterCompaction hcodec haft
      obtain rfl : tail = [] := by
        rcases htail with ⟨h, -⟩ | h <;> exact h
      exact accounted_of_stored hok hmid (by rw [haft.1]; exact htr)
    · exact h
  | close =>
    obtain ⟨hok, ⟨-, hfile, hnone⟩ | ⟨held, mutations, tail, hs, htr, -⟩⟩ := h
    · exact ⟨hok, .inl ⟨rfl, hfile, hnone⟩⟩
    · exact accounted_of_closed hok hs htr rfl
  | reopen streamId capacity append compaction =>
    exact accounted_reopen hcodec h streamId capacity append compaction

/-- A whole history: everything that was ever visible can be added to the ledger. -/
theorem accounted_run (hseen : Seen ledger spool) (ops : List FileOp)
    (hops : ∀ op ∈ ops, op.NoFailedAppend) :
    Accounted codec path
      (fun epoch p c => ledger epoch p c ∨ Assigned codec path spool ops epoch p c)
      (run (fileStep codec path) spool ops) := by
  induction ops generalizing ledger spool with
  | nil =>
    have heq : (fun epoch p c => ledger epoch p c ∨ Assigned codec path spool [] epoch p c) =
        ledger := by
      funext epoch p c
      refine propext ⟨?_, .inl⟩
      rintro (hc | ⟨n, hn, hvis⟩)
      · exact hc
      · rw [take_nil] at hvis
        exact hseen epoch p c hvis
    rw [heq]
    exact h
  | cons op ops ih =>
    have hstep := (accounted_step hcodec h hseen (hops op mem_cons_self)).see
    have hrest := ih hstep (fun epoch p c hvis => .inr hvis)
      fun op' hop' => hops op' (mem_cons_of_mem _ hop')
    have heq : (fun epoch p c => ledger epoch p c ∨
          Assigned codec path spool (op :: ops) epoch p c) =
        fun epoch p c => (ledger epoch p c ∨ VisibleIn (fileStep codec path spool op) epoch p c) ∨
          Assigned codec path (fileStep codec path spool op) ops epoch p c := by
      funext epoch p c
      refine propext ⟨?_, ?_⟩
      · rintro (hc | ⟨n, hn, hvis⟩)
        · exact .inl (.inl hc)
        · cases n with
          | zero => exact .inl (.inl (hseen epoch p c hvis))
          | succ n => exact .inr ⟨n, Nat.le_of_succ_le_succ hn, hvis⟩
      · rintro ((hc | hvis) | ⟨n, hn, hvis⟩)
        · exact .inl hc
        · exact .inr ⟨1, by simp, hvis⟩
        · exact .inr ⟨n + 1, Nat.succ_le_succ hn, hvis⟩
    rw [heq]
    exact hrest

end

/-- A retained batch that is enqueued again gets its record back, once a compaction that may be
    due has gone through, and nothing else changes. -/
def ReturnsOriginal (codec : JournalCodec) (path : String) (spool : FileSpool) : Prop :=
  spool.isOpen = true → ∀ (p : ℕ) r, spool.state.records[p]? = some r →
    validateEnqueue r.content = .ok () ∧
    ∀ input, validateEnqueue input = .ok () → input.batchId = r.batchId →
      input.digest = r.digest → input.messageKind = r.messageKind → input.payload = r.payload →
      ∀ compaction append mid, compactIfDue codec path spool compaction = (.returned (.ok ()), mid) →
        mutate codec path spool (.enqueue input) compaction append =
          (.returned (.ok (.record r)), mid) ∧ mid.state = spool.state

theorem returnsOriginal_of_inv (inv : spool.isOpen = true → SpoolInv spool.state) :
    ReturnsOriginal codec path spool := by
  intro hopen p r hr
  refine ⟨(inv hopen).content p r hr, ?_⟩
  intro input hv hbt hdig hkind hpay compaction append mid hmid
  have haft := compactIfDue_cases codec path spool compaction
  rw [hmid] at haft
  have henq := enqueue_retained (inv hopen) hr hv hbt hdig hkind hpay
  have hperf : perform mid.state (.enqueue input) =
      (.ok (.record r, .enqueued r mid.state.nextPosition mid.state.dataLoss), mid.state) := by
    rw [haft.1]
    simp only [perform, henq]
  refine ⟨?_, haft.1⟩
  simp only [mutate, hmid, hperf, ne_eq, not_true_eq_false, ↓reduceIte]

/-- **Identities are stable.** Over every history that starts without a journal, with any
    requests, compactions, epoch rotations, restarts and crashes at any byte of a write: an
    epoch and position belong to one content, the positions of an epoch are given out
    consecutively from one, and a retained batch that is enqueued again gets its record back. -/
theorem assigned_identity_stable (hcodec : codec.RoundTrips) {spool : FileSpool}
    (hfile : spool.file = []) (hclosed : spool.isOpen = false) (ops : List FileOp)
    (hops : ∀ op ∈ ops, op.NoFailedAppend) :
    (∀ epoch p c c', Assigned codec path spool ops epoch p c →
      Assigned codec path spool ops epoch p c' → c = c') ∧
    (∀ epoch p c, Assigned codec path spool ops epoch p c →
      1 ≤ p ∧ ∀ q, 1 ≤ q → q < p → ∃ c', Assigned codec path spool ops epoch q c') ∧
    EveryState (fileStep codec path) (ReturnsOriginal codec path) spool ops := by
  have hstart : Accounted codec path (fun _ _ _ => False) spool :=
    ⟨⟨fun _ _ _ _ h => h.elim, fun _ _ _ h => h.elim, fun _ _ _ h => h.elim⟩,
      .inl ⟨hclosed, .inl hfile, fun _ _ _ => id⟩⟩
  have hseen : Seen (fun _ _ _ => False) spool := by
    rintro epoch p c ⟨hopen, -⟩
    rw [hclosed] at hopen
    cases hopen
  have hrun := accounted_run hcodec hstart hseen
  obtain ⟨hok, -⟩ := hrun ops hops
  have hfalse : (fun epoch p c => False ∨ Assigned codec path spool ops epoch p c) =
      Assigned codec path spool ops := by
    funext epoch p c
    exact false_or _
  rw [hfalse] at hok
  refine ⟨hok.unique, fun epoch p c hc => ⟨hok.pos epoch p c hc, hok.consecutive epoch p c hc⟩, ?_⟩
  intro n hn
  apply returnsOriginal_of_inv
  intro hopen
  obtain ⟨-, ⟨hc, -⟩ | ⟨held, mutations, tail, hs, -, heq⟩⟩ :=
    hrun (ops.take n) fun op hop => hops op (mem_of_mem_take hop)
  · rw [hopen] at hc; cases hc
  · obtain ⟨rfl, -⟩ := heq hopen
    exact hs.inv

end Histories

/-- The theorem at a history in which the process dies ten bytes into the first batch's frame,
    starts again and enqueues the batch. -/
theorem assigned_identity_after_crash :
    sampleCodec.RoundTrips ∧
    (∀ epoch p c c',
      Assigned sampleCodec "spool.journal" ⟨[], .initial "telemetry" 4, 0, false⟩
        [.reopen "telemetry" 4 .done .done, .mutate (.enqueue (alternating 0)) .done (.crashed 10),
          .reopen "telemetry" 4 .done .done, .mutate (.enqueue (alternating 0)) .done .done]
        epoch p c →
      Assigned sampleCodec "spool.journal" ⟨[], .initial "telemetry" 4, 0, false⟩
        [.reopen "telemetry" 4 .done .done, .mutate (.enqueue (alternating 0)) .done (.crashed 10),
          .reopen "telemetry" 4 .done .done, .mutate (.enqueue (alternating 0)) .done .done]
        epoch p c' → c = c') :=
  ⟨sampleCodec_roundTrips, (assigned_identity_stable sampleCodec_roundTrips rfl rfl _
    (by simp [FileOp.NoFailedAppend])).1⟩

end AetherEdge.CloudLink
