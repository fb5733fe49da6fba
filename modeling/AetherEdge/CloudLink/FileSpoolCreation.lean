import AetherEdge.CloudLink.FileSpoolIdentity

/-!
# A crash in the creation of the journal

`open` (`libs/aether-store-local/src/file_cloudlink_spool.rs`) writes the journal of a new spool in
place, while a compaction writes it beside the old one and renames it. So a crash can leave a part of
the header and the first checkpoint.

* `reopened_iff`: from which of these parts the spool is opened again.
-/

namespace AetherEdge.CloudLink

open Framing

variable {codec : JournalCodec} {path streamId : String} {capacity : ℕ}

/-- Opening the file succeeds and gives an open spool with nothing in it. -/
def OpensEmpty (codec : JournalCodec) (path streamId : String) (capacity : ℕ) (file : Bytes) : Prop :=
  ∀ compaction, ∃ opened file', openJournal codec path file streamId capacity .done compaction =
    (.returned (.ok opened), file') ∧ opened.isOpen = true ∧
      opened.state = .initial streamId capacity

/-- The file that a crash leaves when `written` bytes of the new journal have reached it. -/
def crashedCreation (codec : JournalCodec) (path streamId : String) (capacity written : ℕ) : Bytes :=
  (openJournal codec path [] streamId capacity (.crashed written) .done).2

theorem crashedCreation_eq {state : CloudLinkSpoolState} {created : Bytes}
    (hnew : CloudLinkSpoolState.new streamId capacity = .ok state)
    (hcre : compactedJournal codec path state = .ok created) (written : ℕ) :
    crashedCreation codec path streamId capacity written = created.take written := by
  simp [crashedCreation, openJournal, createOrRecover, createJournal, hnew, hcre]

/-- After a crash in its creation a spool opens again exactly when none or all of the bytes of its
    journal were written. -/
theorem reopened_iff (hcodec : codec.RoundTrips) {state : CloudLinkSpoolState} {created : Bytes}
    (hnew : CloudLinkSpoolState.new streamId capacity = .ok state)
    (hcreated : compactedJournal codec path state = .ok created) (written : ℕ) :
    OpensEmpty codec path streamId capacity (crashedCreation codec path streamId capacity written) ↔
      written = 0 ∨ created.length ≤ written := by
  rw [crashedCreation_eq hnew hcreated]
  obtain ⟨-, -, -, rfl⟩ := CloudLinkSpoolState.new_ok.1 hnew
  constructor
  · intro hopens
    by_contra hpart
    rw [not_or, Nat.not_le] at hpart
    obtain ⟨payload, hfits, rfl⟩ := compactedJournal_initial hcreated
    have hstill := stillborn_take hfits (Nat.pos_of_ne_zero hpart.1) hpart.2
    obtain ⟨opened, file, hopened, -⟩ := hopens .done
    obtain ⟨e, file', hfailed, -⟩ :=
      openJournal_stillborn codec path hstill streamId capacity .done .done
    rw [hfailed] at hopened
    cases hopened
  · rintro (rfl | hall) compaction
    · exact ⟨_, _, openJournal_new hnew hcreated compaction, rfl, rfl⟩
    have inv := inv_new hnew
    have hcommitted := committed_compactedJournal hcodec inv hcreated
    have hfirst : createOrRecover codec path created streamId capacity .done =
        (.returned (.ok (.initial streamId capacity, 0)), created) := by
      rw [createOrRecover, if_neg hcommitted.ne_nil, recover_committed hcommitted inv]
    rw [List.take_of_length_le hall]
    exact ⟨_, _, openJournal_of_initial hnew hfirst compaction, rfl, rfl⟩

/-- The first eight bytes are the header: the next `open` finds no checkpoint behind it. -/
theorem header_only_not_reopened :
    crashedCreation sampleCodec "spool.journal" "telemetry" 4 8 = journalMagic ∧
      openJournal sampleCodec "spool.journal" journalMagic "telemetry" 4 .done .done =
        (.returned (.error (corrupt "spool.journal" "journal contains no checkpoint")),
          journalMagic) := by
  decide +kernel

/-- Nothing of the journal is written, or all of it. -/
theorem none_or_all_written_reopened :
    OpensEmpty sampleCodec "spool.journal" "telemetry" 4
        (crashedCreation sampleCodec "spool.journal" "telemetry" 4 0) ∧
      OpensEmpty sampleCodec "spool.journal" "telemetry" 4
        (crashedCreation sampleCodec "spool.journal" "telemetry" 4 sampleJournal.length) := by
  have hnew : CloudLinkSpoolState.new "telemetry" 4 = .ok (.initial "telemetry" 4) := by decide
  constructor
  · exact (reopened_iff sampleCodec_roundTrips hnew compactedJournal_sample 0).2 (.inl rfl)
  · exact (reopened_iff sampleCodec_roundTrips hnew compactedJournal_sample _).2 (.inr le_rfl)

end AetherEdge.CloudLink
