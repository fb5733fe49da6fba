import AetherEdge.CloudLink.FileSpool
import AetherEdge.CloudLink.SpoolReplay

/-!
# Recovery of the file spool

`Stored` says what a journal file holds: complete frames that replay to a state, and behind
them at most a torn frame. It is kept by compaction (`Stored.afterCompaction`), by appends at
the end of complete frames (`ReachesAppend.stored_done`) and by reopening (`openJournal_stored`).

* `recover_live_throughout`: in every run whose appends succeed, recovery gives exactly the
  state in memory, also when a proper prefix of one more frame follows the journal.
-/

namespace AetherEdge.CloudLink

open OrderedMap Framing Transition List
open Std (ExtTreeMap)

/-! ## What a journal file holds -/

/-- A proper prefix of a frame. -/
def Torn (tail : Bytes) : Prop :=
  ∃ payload, JournalFits payload ∧ tail <+: journalFrame payload ∧ tail ≠ journalFrame payload

theorem torn_nil : Torn [] := by
  refine ⟨[0], ⟨by simp, by decide⟩, nil_prefix, fun h => ?_⟩
  have := congrArg List.length h
  rw [length_journalFrame] at this
  simp at this

variable {payload : Bytes}

theorem torn_take (h : JournalFits payload) {written : ℕ}
    (hw : written < (journalFrame payload).length) :
    Torn ((journalFrame payload).take written) := by
  refine ⟨payload, h, take_prefix _ _, fun heq => ?_⟩
  have := congrArg List.length heq
  rw [length_take] at this
  omega

/-- The file holds a journal that replays to `state`, followed by the torn `tail`. -/
def Stored (codec : JournalCodec) (path : String) (file : Bytes) (state : CloudLinkSpoolState)
    (mutations : ℕ) (tail : Bytes) : Prop :=
  ∃ committed, file = committed ++ tail ∧ Committed codec path committed state mutations ∧
    SpoolInv state ∧ Torn tail

section Stored

variable {codec : JournalCodec} {path : String} {file tail : Bytes} {state : CloudLinkSpoolState}
  {mutations : ℕ}

theorem Committed.stored (h : Committed codec path file state mutations) (inv : SpoolInv state) :
    Stored codec path file state mutations [] :=
  ⟨file, (append_nil _).symm, h, inv, torn_nil⟩

theorem Stored.committed (h : Stored codec path file state mutations []) :
    Committed codec path file state mutations := by
  obtain ⟨committed, rfl, hc, -, -⟩ := h
  rwa [append_nil]

theorem Stored.inv (h : Stored codec path file state mutations tail) : SpoolInv state := by
  obtain ⟨_, -, -, inv, -⟩ := h
  exact inv

/-- Recovery finds the state and cuts the tail off. -/
theorem Stored.recover (h : Stored codec path file state mutations tail) :
    ∃ committed, CloudLink.recover codec path file = (.ok (state, mutations), committed) ∧
      file = committed ++ tail ∧ Committed codec path committed state mutations := by
  obtain ⟨committed, rfl, hc, inv, payload, hfits, htail, hne⟩ := h
  exact ⟨committed, recover_torn hc inv hfits htail hne, rfl, hc⟩

theorem Committed.ne_nil (h : Committed codec path file state mutations) : file.length ≠ 0 := by
  obtain ⟨payloads, -, rfl, -, -⟩ := h
  have hmagic : journalMagic.length = 8 := by decide
  rw [journalFile, length_append, hmagic]
  omega

end Stored

/-! ## Operations keep the journal -/

variable {spool : FileSpool} {next : CloudLinkSpoolState} {compaction : CompactFate}
  {streamId : String} {capacity : ℕ}

section Operations

variable {codec : JournalCodec} {path : String}

/-- The journal after a compaction, which heals a torn tail if it takes place. -/
theorem Stored.afterCompaction (hcod : codec.RoundTrips) {compacted : FileSpool} {tail : Bytes}
    (h : Stored codec path spool.file spool.state spool.mutationsSinceCompaction tail)
    (haft : AfterCompaction codec path spool compacted) :
    ∃ tail', (tail' = tail ∧ compacted.file = spool.file ∨ tail' = []) ∧
      Stored codec path compacted.file compacted.state compacted.mutationsSinceCompaction tail' := by
  obtain ⟨hst, -, ⟨hfile, hmut⟩ | ⟨hfile, hmut⟩⟩ := haft
  · exact ⟨tail, .inl ⟨rfl, hfile⟩, by rw [hst, hfile, hmut]; exact h⟩
  · refine ⟨[], .inr rfl, ?_⟩
    rw [hst, hmut]
    exact (committed_compactedJournal hcod h.inv hfile).stored h.inv

variable {state : CloudLinkSpoolState} {mutations : ℕ}

/-- The journal after one frame: all of it replays, less of it is torn. -/
theorem Committed.take_frame {file : Bytes} {entry : JournalEntry}
    (h : Committed codec path file state mutations) (hcod : codec.RoundTrips)
    (inv : SpoolInv state) (hinv : SpoolInv next)
    (hpay : entryPayload codec entry = .ok payload) (hent : entry.IsMutation)
    (happly : applyMutation path state entry = .ok next) (written : ℕ) :
    (written < (journalFrame payload).length ∧
      Stored codec path (file ++ (journalFrame payload).take written) state mutations
        ((journalFrame payload).take written)) ∨
    ((journalFrame payload).length ≤ written ∧
      Stored codec path (file ++ (journalFrame payload).take written) next
        (saturatingAdd mutations 1) []) := by
  rcases Nat.lt_or_ge written (journalFrame payload).length with hlt | hge
  · exact .inl ⟨hlt, file, rfl, h, inv, torn_take (entryPayload_ok hpay).2 hlt⟩
  · refine .inr ⟨hge, ?_⟩
    rw [take_of_length_le hge]
    exact (h.append hcod hpay hent happly).stored hinv

/-- The state a reopened spool starts with. -/
def withCapacity (state : CloudLinkSpoolState) (capacity : ℕ) : CloudLinkSpoolState :=
  { state with capacity := capacity }

/-- What opening a journal that holds `state` can lead to: an open spool with the state `next`,
    or a failure that leaves a journal holding one of the two. -/
def OpenedFrom (codec : JournalCodec) (path : String) (state next : CloudLinkSpoolState)
    (append : AppendFate) : Outcome FileSpool × Bytes → Prop
  | (.returned (.ok opened), _) => opened.isOpen = true ∧ opened.state = next ∧
      Stored codec path opened.file opened.state opened.mutationsSinceCompaction []
  | (_, file) => ∃ held mutations tail, (held = state ∨ held = next) ∧
      (append = .done → tail = []) ∧ Stored codec path file held mutations tail

/-- The last part of `open`, once the capacity entry is in the journal. -/
theorem openedFrom_compactIfDue (hcod : codec.RoundTrips) {append : AppendFate}
    (hopen : spool.isOpen = true) (hst : spool.state = next)
    (h : Stored codec path spool.file spool.state spool.mutationsSinceCompaction []) :
    OpenedFrom codec path state next append
      (match compactIfDue codec path spool compaction with
      | (.crashed, spool) => (.crashed, spool.file)
      | (.returned (.error e), spool) => (.returned (.error e), spool.file)
      | (.returned (.ok ()), spool) => (.returned (.ok spool), spool.file)) := by
  have haft := compactIfDue_cases codec path spool compaction
  cases hc : compactIfDue codec path spool compaction with
  | mk outcome compacted =>
    rw [hc] at haft
    obtain ⟨tail, htail, hsto⟩ := h.afterCompaction hcod haft
    obtain rfl : tail = [] := by
      rcases htail with ⟨h, -⟩ | h <;> exact h
    have hst' : compacted.state = next := haft.1.trans hst
    cases outcome with
    | crashed => exact ⟨_, _, _, .inr hst', fun _ => rfl, hsto⟩
    | returned result =>
      cases result with
      | error e => exact ⟨_, _, _, .inr hst', fun _ => rfl, hsto⟩
      | ok u => exact ⟨(compactIfDue_isOpen codec path hc).trans hopen, hst', hsto⟩

/-- `open` after a successful check of the recovered state. -/
theorem finishOpen_stored (hcod : codec.RoundTrips) {file : Bytes}
    (h : Committed codec path file state mutations) (inv : SpoolInv state) {changed : Bool}
    (hopen : state.validateOpen streamId capacity = (.ok changed, next)) (append : AppendFate)
    (compaction : CompactFate) :
    OpenedFrom codec path state next append
      (finishOpen codec path file next mutations changed append compaction) := by
  have happly := applyMutation_capacity path hopen
  rcases state.validateOpen_cases streamId capacity with ⟨e, he⟩ | ⟨-, hpos, hle, hsize, he⟩
  · rw [hopen] at he; cases he
  rw [hopen] at he
  cases he
  have hinv := inv_capacity inv hpos hle hsize
  unfold finishOpen
  by_cases hcap : state.capacity = capacity
  · -- nothing is appended
    subst hcap
    simp only [ne_eq, not_true_eq_false, decide_false, Bool.false_eq_true, ↓reduceIte]
    exact openedFrom_compactIfDue hcod rfl rfl (h.stored inv)
  · simp only [ne_eq, hcap, not_false_eq_true, decide_true, ↓reduceIte]
    rcases appendEntry_cases codec path file (.capacity capacity) append with
      ⟨e, ha⟩ | ⟨payload, hp, ⟨-, ha⟩ | ⟨written, source, e, hfate, ha⟩ | ⟨written, hfate, ha⟩⟩
    · rw [ha]
      exact ⟨state, mutations, [], .inl rfl, fun _ => rfl, h.stored inv⟩
    · rw [ha]
      exact openedFrom_compactIfDue hcod rfl rfl
        ((h.append hcod hp trivial happly).stored hinv)
    · have hnot : append ≠ .done := by rw [hfate]; nofun
      rw [ha]
      rcases h.take_frame hcod inv hinv hp trivial happly written with ⟨-, hs⟩ | ⟨-, hs⟩
      · exact ⟨_, _, _, .inl rfl, fun hd => absurd hd hnot, hs⟩
      · exact ⟨_, _, _, .inr rfl, fun hd => absurd hd hnot, hs⟩
    · have hnot : append ≠ .done := by rw [hfate]; nofun
      rw [ha]
      rcases h.take_frame hcod inv hinv hp trivial happly written with ⟨-, hs⟩ | ⟨-, hs⟩
      · exact ⟨_, _, _, .inl rfl, fun hd => absurd hd hnot, hs⟩
      · exact ⟨_, _, _, .inr rfl, fun hd => absurd hd hnot, hs⟩

/-- Reopening a journal, whatever the file system does. -/
theorem openJournal_stored (hcod : codec.RoundTrips) {file tail : Bytes}
    (h : Stored codec path file state mutations tail) (streamId : String) (capacity : ℕ)
    (append : AppendFate) (compaction : CompactFate) :
    OpenedFrom codec path state (withCapacity state capacity) append
      (openJournal codec path file streamId capacity append compaction) := by
  obtain ⟨committed, hrec, hfile, hcomm⟩ := h.recover
  have hne : ¬file.length = 0 := by
    have := hcomm.ne_nil
    rw [hfile, length_append]
    omega
  have hfst : createOrRecover codec path file streamId capacity append =
      (.returned (.ok (state, mutations)), committed) := by
    rw [createOrRecover, if_neg hne, hrec]
  unfold openJournal
  rw [hfst]
  simp only
  rcases state.validateOpen_cases streamId capacity with ⟨e, hv⟩ | ⟨-, -, -, -, hv⟩
  · rw [hv]
    exact ⟨state, mutations, [], .inl rfl, fun _ => rfl, hcomm.stored h.inv⟩
  · rw [hv]
    exact finishOpen_stored hcod hcomm h.inv hv append compaction

end Operations

/-! ## Runs whose appends succeed -/

/-- Whatever the operation appends to the journal is written completely. -/
def FileOp.AppendsSucceed : FileOp → Prop
  | .mutate _ _ append | .reopen _ _ append _ => append = .done
  | .compact _ | .close => True

section Runs

variable {codec : JournalCodec} {path : String}

/-- The journal holds exactly the state in memory; after a failed attempt to open the spool it
    may hold it with the capacity of that attempt. -/
def Durable (codec : JournalCodec) (path : String) (spool : FileSpool) (tail : Bytes) : Prop :=
  ∃ held mutations, Stored codec path spool.file held mutations tail ∧
    withCapacity held spool.state.capacity = spool.state ∧
    (spool.isOpen = true → held = spool.state ∧ mutations = spool.mutationsSinceCompaction)

variable {tail : Bytes}

theorem Durable.stored (h : Durable codec path spool tail) (hopen : spool.isOpen = true) :
    Stored codec path spool.file spool.state spool.mutationsSinceCompaction tail := by
  obtain ⟨held, mutations, hs, -, heq⟩ := h
  obtain ⟨rfl, rfl⟩ := heq hopen
  exact hs

theorem Stored.durable
    (h : Stored codec path spool.file spool.state spool.mutationsSinceCompaction tail) :
    Durable codec path spool tail :=
  ⟨_, _, h, rfl, fun _ => ⟨rfl, rfl⟩⟩

theorem durable_reopen (hcod : codec.RoundTrips) (h : Durable codec path spool tail)
    (streamId : String) (capacity : ℕ) (append : AppendFate) (compaction : CompactFate) :
    ∃ tail', (append = .done → tail' = []) ∧
      Durable codec path (fileStep codec path spool (.reopen streamId capacity append compaction))
        tail' := by
  obtain ⟨held, mutations, hs, hcap, -⟩ := h
  have hopened := openJournal_stored hcod hs streamId capacity append compaction
  simp only [fileStep]
  generalize openJournal codec path spool.file streamId capacity append compaction = result
    at hopened
  have hclosed : ∀ file, (∃ held' mutations' tail',
      (held' = held ∨ held' = withCapacity held capacity) ∧ (append = .done → tail' = []) ∧
        Stored codec path file held' mutations' tail') →
      ∃ tail', (append = .done → tail' = []) ∧
        Durable codec path { spool with file := file, isOpen := false } tail' := by
    rintro file ⟨held', mutations', tail', hheld, hdone, hs'⟩
    refine ⟨tail', hdone, held', mutations', hs', ?_, fun hopen => by cases hopen⟩
    rcases hheld with rfl | rfl
    · exact hcap
    · exact hcap
  match result, hopened with
  | (.crashed, file), hopened => exact hclosed file hopened
  | (.returned (.error e), file), hopened => exact hclosed file hopened
  | (.returned (.ok opened), _), ⟨_, _, hs'⟩ => exact ⟨[], fun _ => rfl, hs'.durable⟩

theorem durable_afterCompaction (hcod : codec.RoundTrips) {compacted : FileSpool}
    (h : Durable codec path spool tail) (hopen : spool.isOpen = true)
    (haft : AfterCompaction codec path spool compacted) :
    ∃ tail', (tail' = tail ∧ compacted.file = spool.file ∨ tail' = []) ∧
      Durable codec path compacted tail' := by
  obtain ⟨tail', htail, hs⟩ := (h.stored hopen).afterCompaction hcod haft
  exact ⟨tail', htail, hs.durable⟩

/-- The frame a request appends to a journal of complete frames replays to the state the
    request leads to. -/
theorem ReachesAppend.replays {mid : FileSpool} {request : SpoolRequest}
    (h : ReachesAppend codec path spool request compaction mid next payload)
    (inv : SpoolInv mid.state) :
    SpoolInv next ∧ next = step mid.state request.op ∧ ¬request.op.Exhausts mid.state ∧
      ∃ entry, entryPayload codec entry = .ok payload ∧ entry.IsMutation ∧
        applyMutation path mid.state entry = .ok next := by
  obtain ⟨-, hne, reply, entry, hperf, hp⟩ := h
  obtain ⟨hstep, hex, happly⟩ := perform_ok path inv hperf
  obtain ⟨hent, happly⟩ := happly hne
  exact ⟨by rw [hstep]; exact step_inv inv _ hex, hstep, hex, entry, hp, hent, happly⟩

theorem ReachesAppend.stored_done (hcod : codec.RoundTrips) {mid : FileSpool}
    {request : SpoolRequest}
    (h : ReachesAppend codec path spool request compaction mid next payload)
    (hmid : Stored codec path mid.file mid.state mid.mutationsSinceCompaction []) :
    Stored codec path (mid.file ++ journalFrame payload) next
      (saturatingAdd mid.mutationsSinceCompaction 1) [] := by
  obtain ⟨hinv, -, -, entry, hp, hent, happly⟩ := h.replays hmid.inv
  exact (hmid.committed.append hcod hp hent happly).stored hinv

theorem durable_step (hcod : codec.RoundTrips) (h : Durable codec path spool []) {op : FileOp}
    (hop : op.AppendsSucceed) : Durable codec path (fileStep codec path spool op) [] := by
  cases op with
  | mutate request compaction append =>
    obtain rfl : append = .done := hop
    simp only [fileStep]
    split_ifs with hopen
    · have hmid : ∀ mid, AfterCompaction codec path spool mid →
          Stored codec path mid.file mid.state mid.mutationsSinceCompaction [] := by
        intro mid haft
        obtain ⟨tail, htail, hmid⟩ := (h.stored hopen).afterCompaction hcod haft
        obtain rfl : tail = [] := by
          rcases htail with ⟨h, -⟩ | h <;> exact h
        exact hmid
      rcases mutate_cases codec path spool request compaction .done with
        ⟨mid, haft, heq⟩ | ⟨mid, next, payload, hreach, haft, heq⟩
      · rw [heq]; exact (hmid mid haft).durable
      · rw [heq]; exact (hreach.stored_done hcod (hmid mid haft)).durable
    · exact h
  | compact fate =>
    simp only [fileStep]
    split_ifs with hopen
    · obtain ⟨tail, htail, hmid⟩ := durable_afterCompaction hcod h hopen
        (compactLocked_cases codec path spool fate)
      obtain rfl : tail = [] := by
        rcases htail with ⟨h, -⟩ | h <;> exact h
      exact hmid
    · exact h
  | close =>
    obtain ⟨held, mutations, hs, hcap, -⟩ := h
    exact ⟨held, mutations, hs, hcap, fun hopen => by cases hopen⟩
  | reopen streamId capacity append compaction =>
    obtain ⟨tail, htail, hd⟩ := durable_reopen hcod h streamId capacity append compaction
    obtain rfl : tail = [] := htail hop
    exact hd

variable {state : CloudLinkSpoolState}

theorem openJournal_of_initial {journal file : Bytes} {append : AppendFate}
    (hnew : CloudLinkSpoolState.new streamId capacity = .ok state)
    (hfst : createOrRecover codec path journal streamId capacity append = (.returned (.ok (state,
      0)), file))
    (compaction : CompactFate) :
    openJournal codec path journal streamId capacity append compaction =
      (.returned (.ok ⟨file, state, 0, true⟩), file) := by
  obtain ⟨hid, hpos, hle, rfl⟩ := CloudLinkSpoolState.new_ok.1 hnew
  have hopen : (CloudLinkSpoolState.initial streamId capacity).validateOpen streamId capacity =
      (.ok false, .initial streamId capacity) := by
    have hsize : (CloudLinkSpoolState.initial streamId capacity).records.size = 0 := rfl
    simp only [CloudLinkSpoolState.validateOpen, validateStreamId, hid, ↓reduceIte, ne_eq]
    rw [if_neg (by simp [CloudLinkSpoolState.initial]), if_neg (by omega)]
    simp [CloudLinkSpoolState.initial]
  unfold openJournal
  rw [hfst]
  simp only [hopen, finishOpen, Bool.false_eq_true, ↓reduceIte, compactIfDue]
  rfl

theorem openJournal_new {file : Bytes}
    (hnew : CloudLinkSpoolState.new streamId capacity = .ok state)
    (hfile : compactedJournal codec path state = .ok file) (compaction : CompactFate) :
    openJournal codec path [] streamId capacity .done compaction =
      (.returned (.ok ⟨file, state, 0, true⟩), file) := by
  refine openJournal_of_initial hnew ?_ compaction
  rw [createOrRecover, if_pos length_nil, hnew]
  simp only [createJournal, hfile]

theorem openJournal_empty (hcod : codec.RoundTrips) {append : AppendFate} {file : Bytes}
    (hopen : openJournal codec path [] streamId capacity append compaction = (.returned (.ok spool), file)) :
    ∃ state, CloudLinkSpoolState.new streamId capacity = .ok state ∧
      compactedJournal codec path state = .ok spool.file ∧ spool = ⟨spool.file, state, 0, true⟩ ∧
      Stored codec path spool.file state 0 [] := by
  rcases hnew : CloudLinkSpoolState.new streamId capacity with e | state
  · simp [openJournal, createOrRecover, hnew] at hopen
  rcases hfile : compactedJournal codec path state with e | created
  · simp [openJournal, createOrRecover, createJournal, hnew, hfile] at hopen
  cases append with
  | failed | crashed =>
    simp [openJournal, createOrRecover, createJournal, hnew, hfile] at hopen
  | done =>
    rw [openJournal_new hnew hfile compaction] at hopen
    cases hopen
    have inv := inv_new hnew
    exact ⟨state, rfl, hfile, rfl, (committed_compactedJournal hcod inv hfile).stored inv⟩

/-- Recovery gives the state in memory and leaves the file alone; a proper prefix of one more
    frame behind the journal is cut off and changes nothing. After a failed attempt to open the
    spool the capacity may be the one of that attempt. -/
def RecoversLive (codec : JournalCodec) (path : String) (spool : FileSpool) : Prop :=
  ∃ held mutations, recover codec path spool.file = (.ok (held, mutations), spool.file) ∧
    (spool.isOpen = true → held = spool.state ∧ mutations = spool.mutationsSinceCompaction) ∧
    withCapacity held spool.state.capacity = spool.state ∧
    ∀ entry payload tail, entryPayload codec entry = .ok payload → tail <+: journalFrame payload →
      tail ≠ journalFrame payload →
      recover codec path (spool.file ++ tail) = (.ok (held, mutations), spool.file)

theorem recoversLive_of_durable (h : Durable codec path spool []) :
    RecoversLive codec path spool := by
  obtain ⟨held, mutations, hs, hcap, hopen⟩ := h
  refine ⟨held, mutations, recover_committed hs.committed hs.inv, hopen, hcap, ?_⟩
  intro entry payload tail hp htail hne
  exact recover_torn hs.committed hs.inv (entryPayload_ok hp).2 htail hne

/-- **Recovery equals memory.** In every run from a newly created journal whose appends succeed,
    with any requests, compactions (completed, failed or cut short), restarts and capacities,
    recovering the journal yields exactly the state in memory, and yields it also when the
    journal is followed by a proper prefix of the next entry's frame. -/
theorem recover_live_throughout (hcodec : codec.RoundTrips) {streamId : String} {capacity : ℕ}
    {compaction : CompactFate} {spool : FileSpool} {file : Bytes}
    (hopen : openJournal codec path [] streamId capacity .done compaction =
      (.returned (.ok spool), file)) (ops : List FileOp) (hops : ∀ op ∈ ops, op.AppendsSucceed) :
    EveryState (fileStep codec path) (RecoversLive codec path) spool ops := by
  have hguard : EveryStep (fileStep codec path) (fun _ op => op.AppendsSucceed) spool ops :=
    fun n op hn => hops op (List.mem_of_getElem? hn)
  have hinit : Durable codec path spool [] := by
    obtain ⟨state, -, -, heq, hs⟩ := openJournal_empty hcodec hopen
    rw [heq]
    exact hs.durable
  have hstep : ∀ s op, Durable codec path s [] → op.AppendsSucceed →
      Durable codec path (fileStep codec path s op) [] := fun s op h hop =>
    durable_step hcodec h hop
  exact (hguard.invariant hstep hinit).imp fun s h => recoversLive_of_durable h

end Runs

/-! ## A journal with the text `serde_json` writes -/

deriving instance DecidableEq for Outcome, FileSpool

/-- A codec that knows the serialized form of the listed entries only. -/
def tableCodec (table : List (JournalEntry × Bytes)) : JournalCodec where
  toVec entry :=
    match table.find? fun row => row.1 == entry with
    | some row => .ok row.2
    | none => .error "entry outside the table"
  fromSlice bytes :=
    match table.find? fun row => row.2 == bytes with
    | some row => .ok row.1
    | none => .error "expected value"

theorem tableCodec_roundTrips {table : List (JournalEntry × Bytes)}
    (h : (table.map Prod.snd).Nodup) : (tableCodec table).RoundTrips := by
  intro entry bytes hvec
  simp only [tableCodec] at hvec ⊢
  cases hfind : table.find? fun row => row.1 == entry with
  | none => rw [hfind] at hvec; cases hvec
  | some row =>
    rw [hfind] at hvec
    cases hvec
    have hrow : row.1 = entry := by simpa using find?_some hfind
    have hmem := mem_of_find?_eq_some hfind
    cases hback : table.find? fun other => other.2 == row.2 with
    | none =>
      have := find?_eq_none.1 hback row hmem
      simp at this
    | some other =>
      have hbs : other.2 = row.2 := by simpa using find?_some hback
      have hoth : other = row :=
        inj_on_of_nodup_map h (mem_of_find?_eq_some hback) hmem hbs
      simp only [hoth, hrow]

/-- The checkpoint of a new spool as JSON. -/
def checkpointJson : String :=
  "\x7b\"operation\":\"checkpoint\",\"stream_id\":\"telemetry\",\"stream_epoch\":1," ++
  "\"next_position\":1,\"capacity\":4,\"last_ack\":null,\"last_acknowledged_position\":0," ++
  "\"data_loss\":null\x7d"

/-- The first enqueue into it as JSON. -/
def enqueuedJson : String :=
  "\x7b\"operation\":\"enqueued\",\"record\":\x7b\"identity\":\x7b\"stream_id\":\"telemetry\"," ++
  "\"stream_epoch\":1,\"position\":1\x7d,\"message_kind\":\"telemetry-batch\",\"batch_id\":\"even\"," ++
  "\"digest\":\"sha256:0000000000000000000000000000000000000000000000000000000000000000\"," ++
  "\"payload\":[123,125],\"created_at_ms\":1,\"expires_at_ms\":null,\"state\":\"queued\"," ++
  "\"offered_session\":null\x7d,\"next_position\":2,\"data_loss\":null\x7d"

/-- The codec at the entries of a short run. -/
def sampleCodec : JournalCodec :=
  tableCodec
    [(checkpoint (.initial "telemetry" 4), strBytes checkpointJson),
     (.enqueued ((CloudLinkSpoolState.initial "telemetry" 4).recordFor (alternating 0)) 2 none,
      strBytes enqueuedJson)]

theorem sampleCodec_roundTrips : sampleCodec.RoundTrips :=
  tableCodec_roundTrips (by decide)

/-- A journal with the sample's checkpoint. -/
def sampleJournal : Bytes := journalFile "spool.journal" [strBytes checkpointJson]

theorem compactedJournal_sample :
    compactedJournal sampleCodec "spool.journal" (.initial "telemetry" 4) = .ok sampleJournal := by
  decide +kernel

theorem recover_live_enqueue_restart :
    sampleCodec.RoundTrips ∧ openJournal sampleCodec "spool.journal" [] "telemetry" 4 .done .done =
        (.returned (.ok ⟨sampleJournal, .initial "telemetry" 4, 0, true⟩), sampleJournal) ∧
      EveryState (fileStep sampleCodec "spool.journal")
        (RecoversLive sampleCodec "spool.journal") ⟨sampleJournal, .initial "telemetry" 4, 0, true⟩
        [.mutate (.enqueue (alternating 0)) .done .done, .close,
          .reopen "telemetry" 4 .done .done] :=
  have hopen := openJournal_new (by decide) compactedJournal_sample .done
  ⟨sampleCodec_roundTrips, hopen,
    recover_live_throughout sampleCodec_roundTrips hopen _ (by simp [FileOp.AppendsSucceed])⟩

end AetherEdge.CloudLink
