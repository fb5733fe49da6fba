import AetherEdge.Outbox.Journal

/-!
# Replay of the outbox journal

Every payload the outbox writes reads back as the change it was written for, so a journal of
complete records has a meaning that does not mention bytes:

* `applyRecord_enqueue`, `applyRecord_acknowledge`, `applyRecord_checkpoint`: replay of one
  payload;
* `replay_compacted`: replay of a compacted journal gives the contents it was made from;
* `Represents`, `recover_represents`, `recover_torn`: recovery of a journal that stands for
  some contents, also with the beginning of one more record behind it.
-/

namespace AetherEdge.Outbox

open OrderedMap Framing ByteCursor Std.ExtTreeMap
open Std (ExtTreeMap)

/-! ## One payload -/

variable {entry : OutboxEntry} {bytes : Bytes}

theorem encodeEnqueue_ok (h : encodeEnqueue entry = .ok bytes) :
    bytes = enqueuePayload entry ∧ RecordFits (enqueuePayload entry) ∧
      (strBytes entry.message.destination).length ≤ u32Max ∧
      entry.message.payload.length ≤ u32Max := by
  unfold encodeEnqueue at h
  split_ifs at h with hdest hpay
  simp only [bind_eq_ok, exists_unit] at h
  obtain ⟨hsize, hbs⟩ := h
  cases hbs
  exact ⟨rfl, validateRecordSize_ok.1 hsize, not_lt.1 hdest, not_lt.1 hpay⟩

variable {ids : List ℕ}

theorem encodeAcknowledge_ok (h : encodeAcknowledge ids = .ok bytes) :
    bytes = acknowledgePayload ids ∧ RecordFits (acknowledgePayload ids) ∧
      ids.length ≤ u32Max := by
  unfold encodeAcknowledge at h
  split_ifs at h with hcnt
  simp only [bind_eq_ok, exists_unit] at h
  obtain ⟨hsize, hbs⟩ := h
  cases hbs
  exact ⟨rfl, validateRecordSize_ok.1 hsize, not_lt.1 hcnt⟩

theorem toNat_ofNat_u32 {n : ℕ} (h : n ≤ u32Max) : (UInt32.ofNat n).toNat = n :=
  UInt32.toNat_ofNat_of_lt' (lt_of_le_of_lt h (by norm_num [u32Max]))

theorem toNat_ofNat_u64 {n : ℕ} (h : n ≤ u64Max) : (UInt64.ofNat n).toNat = n :=
  UInt64.toNat_ofNat_of_lt' (lt_of_le_of_lt h (by norm_num [u64Max]))

theorem run_readEnqueue (hid : entry.id ≤ u64Max)
    (hdest : (strBytes entry.message.destination).length ≤ u32Max)
    (hpay : entry.message.payload.length ≤ u32Max) {fields : Bytes}
    (hflds : enqueuePayload entry = opEnqueue :: fields) :
    readEnqueue.run fields = .ok (entry, []) := by
  have hcre : entry.message.createdAt.toNat ≤ u64Max :=
    Nat.le_pred_of_lt entry.message.createdAt.toNat_lt
  have hatts : entry.attempts.toNat ≤ u32Max := Nat.le_pred_of_lt entry.attempts.toNat_lt
  have hlast := run_readBytes (rfl : entry.message.payload.length = _) []
  rw [List.append_nil] at hlast
  cases hflds
  simp only [readEnqueue, StateT.run_bind, run_readU64 hid, run_readU64 hcre,
    run_readU32 hatts, run_readU32 hdest, run_readU32 hpay, ok_bind,
    toNat_ofNat_u32 hdest, toNat_ofNat_u32 hpay, run_readBytes rfl, hlast,
    run_decodeDestination, run_finish]
  rw [toNat_ofNat_u64 hid, UInt64.ofNat_toNat, UInt32.ofNat_toNat]
  rfl

theorem applyEnqueue_fresh {recovered : Recovered} (hfr : entry.id ∉ recovered.entries)
    (hid : entry.id + 1 ≤ u64Max) :
    applyEnqueue recovered entry = .ok (recovered.insert entry hid) := by
  unfold applyEnqueue
  rw [if_neg hfr, dif_pos hid]
  rfl

theorem applyRecord_enqueue {recovered : Recovered} (h : encodeEnqueue entry = .ok bytes)
    (hfr : entry.id ∉ recovered.entries) (hid : entry.id + 1 ≤ u64Max) :
    applyRecord recovered bytes = .ok (recovered.insert entry hid) := by
  obtain ⟨rfl, -, hdest, hpay⟩ := encodeEnqueue_ok h
  have hread := run_readEnqueue (Nat.le_of_succ_le hid) hdest hpay rfl
  show (applyOperation recovered).run' (opEnqueue :: _) = _
  simp only [applyOperation, StateT.run'_eq, StateT.run_bind, run_readU8, ok_bind, if_true, hread,
    applyEnqueue_fresh hfr hid]
  rfl

theorem run_applyAcknowledge (hids : ∀ id ∈ ids, id ≤ u64Max) (recovered : Recovered) :
    (applyAcknowledge recovered ids.length).run (ids.flatMap (leBytes 8)) =
      .ok (recovered.removeAll ids, []) := by
  induction ids generalizing recovered with
  | nil => rfl
  | cons id ids ih =>
    have hid := hids id List.mem_cons_self
    have hrest := ih (fun other h => hids other (List.mem_cons_of_mem id h)) (recovered.remove id)
    simp only [List.length_cons, applyAcknowledge, List.flatMap_cons, StateT.run_bind,
      run_readU64 hid, ok_bind, toNat_ofNat_u64 hid, hrest]
    rfl

theorem applyRecord_acknowledge (h : encodeAcknowledge ids = .ok bytes)
    (hids : ∀ id ∈ ids, id ≤ u64Max) (recovered : Recovered) :
    applyRecord recovered bytes = .ok (recovered.removeAll ids) := by
  obtain ⟨rfl, -, hcnt⟩ := encodeAcknowledge_ok h
  have hne : opAcknowledge ≠ opEnqueue := by decide
  show (applyOperation recovered).run' (opAcknowledge :: _) = _
  simp only [applyOperation, StateT.run'_eq, StateT.run_bind, run_readU8, ok_bind, if_neg hne,
    if_true, run_readU32 hcnt, toNat_ofNat_u32 hcnt, run_applyAcknowledge hids, run_finish]
  rfl

theorem applyRecord_checkpoint {nextId : ℕ} (hpos : 0 < nextId) (hmax : nextId ≤ u64Max)
    (recovered : Recovered) :
    applyRecord recovered (encodeCheckpoint nextId) = .ok (recovered.advance nextId hmax) := by
  have hne : opCheckpoint ≠ opEnqueue := by decide
  have hne' : opCheckpoint ≠ opAcknowledge := by decide
  have hread := run_readU64 hmax []
  rw [List.append_nil] at hread
  have hnonzero : UInt64.ofNat nextId ≠ 0 := by
    intro h0
    have := congrArg UInt64.toNat h0
    rw [toNat_ofNat_u64 hmax] at this
    exact hpos.ne' this
  show (applyOperation recovered).run' (opCheckpoint :: _) = _
  simp only [applyOperation, StateT.run'_eq, StateT.run_bind, run_readU8, ok_bind, if_neg hne,
    if_neg hne', if_true, hread, run_finish, applyCheckpoint, if_neg hnonzero]
  simp only [toNat_ofNat_u64 hmax]
  rfl

/-! ## A compacted journal -/

theorem recordFits_checkpoint (nextId : ℕ) : RecordFits (encodeCheckpoint nextId) := by
  refine ⟨List.cons_ne_nil _ _, ?_⟩
  simp only [encodeCheckpoint, List.length_cons, length_leBytes]
  norm_num [maxRecordLen]

theorem recordFits_encodeEnqueue (h : encodeEnqueue entry = .ok bytes) : RecordFits bytes := by
  obtain ⟨rfl, hfits, -⟩ := encodeEnqueue_ok h
  exact hfits

/-- Replaying entries with new identifiers below the next one files them all. -/
theorem foldlM_enqueues (recovered : Recovered) {l : List (ℕ × OutboxEntry)}
    {payloads : List Bytes} (henc : (l.map Prod.snd).mapM encodeEnqueue = .ok payloads)
    (hdist : l.Pairwise fun a b => a.1 ≠ b.1)
    (hkeyed : ∀ e ∈ l, e.2.id = e.1) (hbel : ∀ e ∈ l, e.1 < recovered.nextId)
    (hfr : ∀ e ∈ l, e.1 ∉ recovered.entries) :
    (∀ bytes ∈ payloads, RecordFits bytes) ∧
    ∃ filed : Recovered, payloads.foldlM applyRecord recovered = .ok filed ∧
      filed.nextId = recovered.nextId ∧
      filed.entries = l.foldl (fun entries e => entries.insert e.1 e.2) recovered.entries := by
  induction l generalizing payloads recovered with
  | nil =>
    cases henc
    exact ⟨by simp, recovered, rfl, rfl, rfl⟩
  | cons e l ih =>
    simp only [List.map_cons, List.mapM_cons, bind_eq_ok] at henc
    obtain ⟨bytes, hbs, rest, hrest, hcons⟩ := henc
    cases hcons
    obtain ⟨hne, hdist⟩ := List.pairwise_cons.1 hdist
    have hid : e.2.id = e.1 := hkeyed e List.mem_cons_self
    have hlt : e.1 < recovered.nextId := hbel e List.mem_cons_self
    have hmax : e.2.id + 1 ≤ u64Max := by
      have := recovered.nextId_le
      omega
    have hnew : e.2.id ∉ recovered.entries := hid ▸ hfr e List.mem_cons_self
    -- the entry does not move the next identifier, which is already past it
    have hnext : (recovered.insert e.2 hmax).nextId = recovered.nextId := by
      show max recovered.nextId (e.2.id + 1) = recovered.nextId
      omega
    have hents : (recovered.insert e.2 hmax).entries = recovered.entries.insert e.1 e.2 := by
      show recovered.entries.insert e.2.id e.2 = _
      rw [hid]
    obtain ⟨hfits, filed, hfold, hfiled, hall⟩ :=
      ih (recovered.insert e.2 hmax) hrest hdist
        (fun x hx => hkeyed x (List.mem_cons_of_mem e hx))
        (fun x hx => by rw [hnext]; exact hbel x (List.mem_cons_of_mem e hx))
        (fun x hx hmem => by
          rw [hents, mem_insert, Nat.compare_eq_eq] at hmem
          rcases hmem with heq | hmem
          · exact hne x hx heq
          · exact hfr x (List.mem_cons_of_mem e hx) hmem)
    refine ⟨List.forall_mem_cons.2 ⟨recordFits_encodeEnqueue hbs, hfits⟩, filed, ?_,
      hfiled.trans hnext, ?_⟩
    · rw [List.foldlM_cons, applyRecord_enqueue hbs hnew hmax]
      exact hfold
    · rw [hall, hents, List.foldl_cons]

variable {contents : Recovered}

theorem replay_compacted {records : List Bytes} (h : compactedRecords contents = .ok records) :
    (∀ bytes ∈ records, RecordFits bytes) ∧
      records.foldlM applyRecord Recovered.empty = .ok contents := by
  simp only [compactedRecords, bind_eq_ok] at h
  obtain ⟨entries, henc, hcons⟩ := h
  cases hcons
  have hadv : (Recovered.empty.advance contents.nextId contents.nextId_le).nextId =
      contents.nextId := Nat.max_eq_right contents.nextId_pos
  have hget : ∀ e ∈ contents.entries.toList, contents.entries[e.1]? = some e.2 :=
    fun e he => mem_toList_iff_getElem?_eq_some.1 he
  obtain ⟨hfits, filed, hfold, hnext, hents⟩ :=
    foldlM_enqueues (Recovered.empty.advance contents.nextId contents.nextId_le) henc
      (pairwise_fst_ne_toList contents.entries)
      (fun e he => contents.keyed e.1 e.2 (hget e he))
      (fun e he => by rw [hadv]; exact contents.below e.1 (mem_of_getElem? (hget e he)))
      (fun e _ => not_mem_empty)
  have hfiled : filed = contents := by
    apply Recovered.ext
    · rw [hnext, hadv]
    · rw [hents]
      exact foldl_insert_toList contents.entries
  refine ⟨List.forall_mem_cons.2 ⟨recordFits_checkpoint _, hfits⟩, ?_⟩
  rw [List.foldlM_cons, applyRecord_checkpoint contents.nextId_pos contents.nextId_le, ok_bind,
    hfold, hfiled]

/-! ## Recovery -/

/-- `file` is a journal of complete records whose replay gives `contents`. -/
def Represents (file : Bytes) (contents : Recovered) : Prop :=
  ∃ records : List Bytes, (∀ bytes ∈ records, RecordFits bytes) ∧
    file = fileHeader ++ recordFormat.log records ∧
    records.foldlM applyRecord Recovered.empty = .ok contents

theorem length_fileHeader : fileHeader.length = fileHeaderLen := by decide +kernel

theorem represents_header : Represents fileHeader Recovered.empty :=
  ⟨[], by simp, by simp, rfl⟩

theorem represents_compacted {records : List Bytes} (h : compactedRecords contents = .ok records) :
    Represents (fileHeader ++ recordFormat.log records) contents :=
  ⟨records, (replay_compacted h).1, rfl, (replay_compacted h).2⟩

variable {file : Bytes}

theorem Represents.append {payload : Bytes} {next : Recovered} (h : Represents file contents)
    (hfits : RecordFits payload) (happly : applyRecord contents payload = .ok next) :
    Represents (file ++ recordFrame payload) next := by
  obtain ⟨records, hall, rfl, hfold⟩ := h
  refine ⟨records ++ [payload], ?_, ?_, ?_⟩
  · intro bytes hmem
    rcases List.mem_append.1 hmem with hmem | hmem
    · exact hall bytes hmem
    · rw [List.mem_singleton.1 hmem]; exact hfits
  · rw [Format.log_append, Format.log_singleton, List.append_assoc]
    rfl
  · rw [List.foldlM_append, hfold, ok_bind, List.foldlM_cons, happly]
    rfl

/-- A file that starts with the header is recovered by the loop over its records. -/
theorem recover_header (rest : Bytes) :
    recover (fileHeader ++ rest) =
      match recordFormat.scan applyRecord Recovered.empty fileHeaderLen rest with
      | .error e => .error e
      | .ok (recovered, validLen) => .ok (recovered, (fileHeader ++ rest).take validLen) := by
  have hlen : (fileHeader ++ rest).length = fileHeaderLen + rest.length := by
    rw [List.length_append, length_fileHeader]
  have hpos : 0 < fileHeaderLen := by decide
  have hmagic : (fileHeader ++ rest).take 8 = fileMagic := by
    rw [fileHeader, List.append_assoc, List.take_left' (by decide +kernel)]
  have hver : ofLeBytes (((fileHeader ++ rest).drop 8).take 4) = fileVersion := by
    rw [fileHeader, List.append_assoc, List.drop_left' (by decide +kernel), List.append_assoc,
      List.take_left' (length_leBytes 4 _)]
    exact ofLeBytes_leBytes (by norm_num [fileVersion])
  have hdrop : (fileHeader ++ rest).drop fileHeaderLen = rest :=
    List.drop_left' length_fileHeader
  unfold recover
  rw [if_neg (by omega), if_neg (by omega), if_neg (not_not.2 hmagic), if_neg (not_not.2 hver)]
  exact hdrop ▸ rfl

/-- Recovery stops in front of what the reader takes for an incomplete record, and cuts the
    file back to there. -/
theorem recover_stop (h : Represents file contents) {rest : Bytes}
    (hread : readRecord file.length rest = .torn) :
    recover (file ++ rest) = .ok (contents, file) := by
  obtain ⟨records, hall, rfl, hfold⟩ := h
  have hlen : (fileHeader ++ recordFormat.log records).length =
      fileHeaderLen + (recordFormat.log records).length := by
    rw [List.length_append, length_fileHeader]
  rw [hlen] at hread
  have hscan := Format.scan_stop (F := recordFormat) hall hfold fileHeaderLen hread
  rw [List.append_assoc, recover_header, hscan]
  simp only [← hlen, ← List.append_assoc, List.take_left]

/-- A journal of complete records followed by the beginning of one more recovers to the
    contents of the complete ones, and is cut back to them. -/
theorem recover_torn (h : Represents file contents) {payload tail : Bytes}
    (hfits : RecordFits payload) (htail : tail <+: recordFrame payload)
    (hne : tail ≠ recordFrame payload) : recover (file ++ tail) = .ok (contents, file) :=
  recover_stop h (readRecord_torn hfits file.length htail hne)

theorem recover_represents (h : Represents file contents) :
    recover file = .ok (contents, file) := by
  have hfits := recordFits_checkpoint 1
  have htorn := recover_torn h hfits List.nil_prefix (Format.frame_ne_nil (F := recordFormat) hfits).symm
  rwa [List.append_nil] at htorn

end AetherEdge.Outbox
