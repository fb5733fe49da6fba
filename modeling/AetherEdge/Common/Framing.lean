import AetherEdge.Common.Basic

/-!
# Append-only logs of framed payloads

A log is a concatenation of frames, each holding one payload. A reader that stops at an
incomplete frame at the end recovers what was written completely:

* `Format`: a frame layout together with what its reader promises (`read_frame`,
  `read_torn`);
* `Format.scan`: the recovery loop, folding the payloads into a state;
* `Format.scan_frames`, `Format.scan_torn`: on a log of complete frames, and on one that ends
  in a proper prefix of a frame, the loop computes the fold over the complete frames and the
  length they take.
-/

namespace AetherEdge.Framing

open List

/-- What a reader finds at the start of the unread part of a log. -/
inductive Read (ε : Type) where
  /-- the log ends inside a frame -/
  | torn
  | corrupt (error : ε)
  /-- a payload, in a frame of the given length -/
  | payload (bytes : Bytes) (length : ℕ)

/-- A frame layout. `read offset rest` looks at the unread part `rest` of a log, which starts
    at `offset`. -/
structure Format (ε : Type) where
  frame : Bytes → Bytes
  /-- the payloads the writer accepts -/
  Fits : Bytes → Prop
  read : ℕ → Bytes → Read ε
  read_frame : ∀ offset bytes rest, Fits bytes →
    read offset (frame bytes ++ rest) = .payload bytes (frame bytes).length
  read_torn : ∀ offset bytes tail, Fits bytes → tail ≠ [] → tail <+: frame bytes →
    tail ≠ frame bytes → read offset tail = .torn
  read_bound : ∀ offset rest bytes length, read offset rest = .payload bytes length →
    0 < length ∧ length ≤ rest.length

namespace Format

variable {ε σ : Type} (F : Format ε) (apply : σ → Bytes → Except ε σ)

/-- The recovery loop: fold `apply` over the payloads up to the end of the log or to a torn
    frame, and return the final state with the length of the part that was read. -/
def scan (s : σ) (offset : ℕ) (rest : Bytes) : Except ε (σ × ℕ) :=
  if rest = [] then .ok (s, offset)
  else
    match _hread : F.read offset rest with
    | .torn => .ok (s, offset)
    | .corrupt e => .error e
    | .payload bytes length =>
      match apply s bytes with
      | .error e => .error e
      | .ok s => scan s (offset + length) (rest.drop length)
termination_by rest.length
decreasing_by
  have := F.read_bound _ _ _ _ _hread
  simp only [List.length_drop]
  omega

/-- The frames of the payloads. -/
def log (payloads : List Bytes) : Bytes := payloads.flatMap F.frame

@[simp] theorem log_nil : F.log [] = [] := rfl

@[simp] theorem log_cons (bytes : Bytes) (payloads : List Bytes) :
    F.log (bytes :: payloads) = F.frame bytes ++ F.log payloads := rfl

theorem log_append (payloads more : List Bytes) :
    F.log (payloads ++ more) = F.log payloads ++ F.log more :=
  flatMap_append

theorem log_singleton (bytes : Bytes) : F.log [bytes] = F.frame bytes := by simp

variable {F apply}

theorem scan_nil (s : σ) (offset : ℕ) : F.scan apply s offset [] = .ok (s, offset) := by
  rw [scan]; rfl

theorem frame_ne_nil {bytes : Bytes} (h : F.Fits bytes) : F.frame bytes ≠ [] := by
  intro hnil
  have hread := F.read_frame 0 bytes [] h
  have := F.read_bound _ _ _ _ hread
  rw [hnil] at this
  exact absurd this.1 (lt_irrefl 0)

variable {s s' : σ} {offset : ℕ}

theorem scan_of_ne_nil {rest : Bytes} (hne : rest ≠ []) :
    F.scan apply s offset rest =
      match F.read offset rest with
      | .torn => .ok (s, offset)
      | .corrupt e => .error e
      | .payload bytes length =>
        apply s bytes >>= fun s => F.scan apply s (offset + length) (rest.drop length) := by
  rw [scan, if_neg hne]
  split
  · next h => rw [h]
  · next h => rw [h]
  · next h => rw [h]; rfl

theorem scan_frame {bytes : Bytes} (h : F.Fits bytes) (rest : Bytes) :
    F.scan apply s offset (F.frame bytes ++ rest) =
      apply s bytes >>= fun s => F.scan apply s (offset + (F.frame bytes).length) rest := by
  have hne : F.frame bytes ++ rest ≠ [] := by simp [frame_ne_nil h]
  rw [scan_of_ne_nil hne, F.read_frame offset bytes rest h]
  simp only [drop_left]

variable {payloads : List Bytes} (hfits : ∀ bytes ∈ payloads, F.Fits bytes)

include hfits

/-- The loop over complete frames is the fold over their payloads. -/
theorem scan_log (rest : Bytes) :
    F.scan apply s offset (F.log payloads ++ rest) =
      payloads.foldlM apply s >>= fun s =>
        F.scan apply s (offset + (F.log payloads).length) rest := by
  induction payloads generalizing s offset with
  | nil => exact congrArg (F.scan apply s · rest) (Nat.add_zero offset).symm
  | cons bytes payloads ih =>
    obtain ⟨hbs, hfits⟩ := forall_mem_cons.1 hfits
    rw [log_cons, append_assoc, scan_frame hbs, foldlM_cons, bind_assoc]
    simp only [ih hfits, length_append, Nat.add_assoc]

/-- A payload that cannot be applied fails the recovery, whatever follows it. -/
theorem scan_fails {e : ε} (hfold : payloads.foldlM apply s = .error e) (offset : ℕ)
    (rest : Bytes) : F.scan apply s offset (F.log payloads ++ rest) = .error e := by
  rw [scan_log hfits, hfold]; rfl

variable (hfold : payloads.foldlM apply s = .ok s') (offset : ℕ)

include hfold

theorem scan_frames :
    F.scan apply s offset (F.log payloads) = .ok (s', offset + (F.log payloads).length) := by
  have h : F.scan apply s offset (F.log payloads ++ []) = _ := scan_log hfits []
  rw [hfold, append_nil] at h
  exact h.trans (scan_nil ..)

/-- The loop stops in front of what the reader takes for an incomplete frame. -/
theorem scan_stop {rest : Bytes}
    (hread : F.read (offset + (F.log payloads).length) rest = .torn) :
    F.scan apply s offset (F.log payloads ++ rest) =
      .ok (s', offset + (F.log payloads).length) := by
  rw [scan_log hfits, hfold, ok_bind]
  by_cases hne : rest = []
  · rw [hne, scan_nil]
  · rw [scan_of_ne_nil hne, hread]

/-- A log that ends inside a frame is read up to the last complete frame. -/
theorem scan_torn {bytes tail : Bytes} (hbs : F.Fits bytes) (htail : tail <+: F.frame bytes)
    (hne : tail ≠ F.frame bytes) :
    F.scan apply s offset (F.log payloads ++ tail) =
      .ok (s', offset + (F.log payloads).length) := by
  by_cases hnil : tail = []
  · rw [hnil, append_nil]
    exact scan_frames hfits hfold offset
  · exact scan_stop hfits hfold offset (F.read_torn _ bytes tail hbs hnil htail hne)

end Format

end AetherEdge.Framing
