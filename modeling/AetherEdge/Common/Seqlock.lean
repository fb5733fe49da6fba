import AetherEdge.Common.Transition
import Mathlib.Algebra.Group.Nat.Defs
import Mathlib.Logic.Function.Basic
import Mathlib.Tactic.Common

/-!
# Sequence locks

A record that is written and read field by field, one atomic access at a time, under a sequence
counter: a write makes the counter odd, stores the fields and makes it even again; a reader
takes the counter, loads the fields and takes the counter again, and accepts what it has loaded
if the counter was even and is the same.

Writers and readers interleave freely. `Orderly` is the invariant of the runs in which writes do
not overlap, are not cut off and do not bypass the counter (`Disciplined`):

* `Orderly.step`: a disciplined step keeps it;
* `Orderly.accepted`: what a reader accepts is the record of the last finished write, as long as
  the counter has not come round during the attempt.
-/

namespace AetherEdge.Seqlock

open Transition Function List

/-- The accesses of a record of type `α`. A store is of type `β`; a load takes one field of the
    record over into what has been loaded so far. -/
structure Protocol (α β : Type) where
  /-- the width of the counter -/
  bits : ℕ
  bits_pos : 0 < bits
  store : α → β → α
  /-- the stores of a write -/
  stores : α → List β
  stores_eq : ∀ old new, (stores new).foldl store old = new
  /-- what a reader starts from -/
  blank : α
  loads : List (α → α → α)
  loads_eq : ∀ data start, loads.foldl (fun got load => load data got) start = data

/-- A record and its counter. -/
structure Cell (α : Type) where
  seq : ℕ
  data : α

/-- A writer between two of its accesses. -/
inductive Writer (α β : Type) where
  | idle
  /-- the call has not touched the cell yet -/
  | waiting (record : α)
  /-- the counter is odd, and these stores are left -/
  | writing (record : α) (left : List β)

/-- A reader between two of its accesses. -/
inductive Reader (α : Type) where
  /-- the last attempt is over, with this result -/
  | idle (result : Option α)
  /-- the counter was `seq1`, when `since` writes had finished -/
  | loading (seq1 : ℕ) (left : List (α → α → α)) (got : α) (since : ℕ)

/-- The cell, its writers and one reader. -/
structure State (α β : Type) where
  cell : Cell α
  writers : ℕ → Writer α β
  reader : Reader α
  /-- the records of the finished writes, latest first -/
  finished : List α

/-- One call or one atomic access. -/
inductive Op (α β : Type) where
  | call (writer : ℕ) (record : α)
  | advance (writer : ℕ)
  /-- the writer dies -/
  | crash (writer : ℕ)
  /-- a store that bypasses the counter -/
  | poke (value : β)
  | load

variable {α β : Type} (P : Protocol α β)

/-- The counter plus one, in its width. -/
def Protocol.bump (seq : ℕ) : ℕ := (seq + 1) % 2 ^ P.bits

/-- The next access of a writer. -/
def advance (s : State α β) (writer : ℕ) : State α β :=
  match s.writers writer with
  | .idle => s
  | .waiting record =>
    { s with
      cell := { s.cell with seq := P.bump s.cell.seq }
      writers := update s.writers writer (.writing record (P.stores record)) }
  | .writing record (value :: left) =>
    { s with
      cell := { s.cell with data := P.store s.cell.data value }
      writers := update s.writers writer (.writing record left) }
  | .writing record [] =>
    { s with
      cell := { s.cell with seq := P.bump s.cell.seq }
      writers := update s.writers writer .idle
      finished := record :: s.finished }

/-- The next load of the reader. -/
def load (s : State α β) : Reader α :=
  match s.reader with
  | .idle _ =>
    if s.cell.seq % 2 = 0 then .loading s.cell.seq P.loads P.blank s.finished.length
    else .idle none
  | .loading seq1 (next :: left) got since => .loading seq1 left (next s.cell.data got) since
  | .loading seq1 [] got _ => .idle (if s.cell.seq = seq1 then some got else none)

/-- The transition function. -/
def step (s : State α β) : Op α β → State α β
  | .call writer record =>
    match s.writers writer with
    | .idle => { s with writers := update s.writers writer (.waiting record) }
    | _ => s
  | .advance writer => advance P s writer
  | .crash writer => { s with writers := update s.writers writer .idle }
  | .poke value => { s with cell := { s.cell with data := P.store s.cell.data value } }
  | .load => { s with reader := load P s }

/-- What a step hands to the caller of the reader. -/
def accepted (s : State α β) : Op α β → Option α
  | .load =>
    match s.reader with
    | .loading seq1 [] got _ => if s.cell.seq = seq1 then some got else none
    | _ => none
  | _ => none

/-- The writes that have finished during the attempt that the reader is making. -/
def writesDuring (s : State α β) : ℕ :=
  match s.reader with
  | .idle _ => 0
  | .loading _ _ _ since => s.finished.length - since

/-- A whole attempt at one moment. -/
def Protocol.read (cell : Cell α) : Option α :=
  if cell.seq % 2 = 0 then some (P.loads.foldl (fun got load => load cell.data got) P.blank)
  else none

/-! ## The invariant -/

/-- No write is going on. -/
def State.Quiet (s : State α β) : Prop := ∀ writer record left, s.writers writer ≠ .writing record left

/-- What holds while writes neither overlap nor break off. -/
structure Orderly (s : State α β) : Prop where
  bound : s.cell.seq < 2 ^ P.bits
  parity : s.cell.seq % 2 = 0 ↔ s.Quiet
  unique : ∀ w w' record record' left left', s.writers w = .writing record left →
    s.writers w' = .writing record' left' → w = w'
  /-- the stores of the write that is going on have been made up to those left -/
  stored : ∀ w record left, s.writers w = .writing record left →
    ∃ old before, P.stores record = before ++ left ∧ s.cell.data = before.foldl P.store old
  settled : s.Quiet → s.finished.head? = some s.cell.data
  /-- the counter has moved by two for every write finished since, and by one for one that is
      going on; if there is neither, the loads saw the record that is there now -/
  reading : ∀ seq1 left got since, s.reader = .loading seq1 left got since →
    seq1 < 2 ^ P.bits ∧ since ≤ s.finished.length ∧
    (s.Quiet → s.cell.seq = (seq1 + 2 * (s.finished.length - since)) % 2 ^ P.bits) ∧
    (¬s.Quiet → s.cell.seq = (seq1 + 2 * (s.finished.length - since) + 1) % 2 ^ P.bits) ∧
    (s.Quiet → s.finished.length = since → ∃ before, P.loads = before ++ left ∧
      got = before.foldl (fun got load => load s.cell.data got) P.blank)

/-- The steps that keep it: a write begins when no other is going on, no writer dies in the
    middle of a write, and no store bypasses the counter. -/
def Disciplined (s : State α β) : Op α β → Prop
  | .call _ _ => True
  | .advance writer => ∀ record, s.writers writer = .waiting record → s.Quiet
  | .crash writer => ∀ record left, s.writers writer ≠ .writing record left
  | .poke _ => False
  | .load => True

variable {P} {s : State α β}

theorem two_dvd_two_pow (P : Protocol α β) : 2 ∣ 2 ^ P.bits := Nat.pow_dvd_pow 2 P.bits_pos

theorem bump_mod_two (P : Protocol α β) (seq : ℕ) : P.bump seq % 2 = (seq + 1) % 2 :=
  Nat.mod_mod_of_dvd _ (two_dvd_two_pow P)

theorem bump_lt (P : Protocol α β) (seq : ℕ) : P.bump seq < 2 ^ P.bits :=
  Nat.mod_lt _ (Nat.two_pow_pos _)

/-- A step of the counter commutes with its wrap-around. -/
theorem bump_mod (P : Protocol α β) (seq : ℕ) :
    P.bump (seq % 2 ^ P.bits) = (seq + 1) % 2 ^ P.bits := by
  rw [Protocol.bump, Nat.mod_add_mod]

/-- A counter that is back where it was has not moved, or has come round. -/
theorem eq_zero_of_add_mod_eq {m a d : ℕ} (ha : a < m) (hd : d < m) (h : (a + d) % m = a) :
    d = 0 := by
  rcases Nat.lt_or_ge (a + d) m with hlt | hge
  · rw [Nat.mod_eq_of_lt hlt] at h
    omega
  · rw [Nat.mod_eq_sub_mod hge, Nat.mod_eq_of_lt (by omega)] at h
    omega

variable {writer : ℕ}

section

variable (h : Orderly P s)

include h

/-- A reader accepts the record of the last finished write. -/
theorem Orderly.accepted {op : Op α β} {got : α} (hacc : accepted s op = some got)
    (hbd : writesDuring s < 2 ^ (P.bits - 1)) : s.finished.head? = some got := by
  cases op with
  | load =>
    cases hrdr : s.reader with
    | idle => simp [Seqlock.accepted, hrdr] at hacc
    | loading seq1 left loaded since =>
      cases left with
      | cons => simp [Seqlock.accepted, hrdr] at hacc
      | nil =>
        simp only [Seqlock.accepted, hrdr, Option.ite_none_right_eq_some,
          Option.some.injEq] at hacc
        obtain ⟨hseq, rfl⟩ := hacc
        obtain ⟨hlt, hsince, hquiet, hbusy, hload⟩ := h.reading seq1 [] loaded since hrdr
        have hpow : 2 ^ P.bits = 2 * 2 ^ (P.bits - 1) := by
          have := P.bits_pos
          rw [← Nat.pow_succ']
          congr 1
          omega
        simp only [writesDuring, hrdr] at hbd
        by_cases hq : s.Quiet
        · -- fewer than half of the counter's range: it has not moved
          have hzero : 2 * (s.finished.length - since) = 0 :=
            eq_zero_of_add_mod_eq hlt (by omega) ((hquiet hq).symm.trans hseq)
          obtain ⟨before, hloads, hgot⟩ := hload hq (by omega)
          rw [append_nil] at hloads
          rw [hgot, ← hloads, P.loads_eq, h.settled hq]
        · have hzero : 2 * (s.finished.length - since) + 1 = 0 := by
            refine eq_zero_of_add_mod_eq hlt (by omega) ?_
            rw [← Nat.add_assoc]
            exact (hbusy hq).symm.trans hseq
          omega
  | call | advance | crash | poke => cases hacc

/-- Steps that leave the cell and the writes that are going on alone. -/
theorem Orderly.of_sameWrites {writers : ℕ → Writer α β}
    (hsame : ∀ w record left, writers w = .writing record left ↔ s.writers w = .writing record
      left) :
    Orderly P { s with writers := writers } := by
  have hquiet : State.Quiet { s with writers := writers } ↔ s.Quiet := by
    unfold State.Quiet
    simp only [ne_eq, hsame]
  constructor
  · exact h.bound
  · rw [hquiet]; exact h.parity
  · intro w w' record record' left left' hw hw'
    exact h.unique w w' record record' left left' ((hsame _ _ _).1 hw) ((hsame _ _ _).1 hw')
  · intro w record left hw
    exact h.stored w record left ((hsame _ _ _).1 hw)
  · rw [hquiet]; exact h.settled
  · rw [hquiet]; exact h.reading

theorem Orderly.call (writer : ℕ) (record : α) : Orderly P (step P s (.call writer record)) := by
  simp only [step]
  cases hwtr : s.writers writer with
  | waiting => exact h
  | writing => exact h
  | idle =>
    refine h.of_sameWrites fun w record' left => ?_
    by_cases hw : w = writer
    · subst hw
      simp [hwtr]
    · rw [update_of_ne hw]

theorem Orderly.crash (writer : ℕ)
    (hcrash : ∀ record left, s.writers writer ≠ .writing record left) :
    Orderly P (step P s (.crash writer)) := by
  refine h.of_sameWrites fun w record left => ?_
  by_cases hw : w = writer
  · subst hw
    simp [hcrash record left]
  · rw [update_of_ne hw]

variable {record : α}

omit h in
theorem orderly_of_busy {left : List β} (hwtr : s.writers writer = .writing record left)
    (honly : ∀ w record' left', s.writers w = .writing record' left' → w = writer)
    (hbd : s.cell.seq < 2 ^ P.bits) (hodd : ¬s.cell.seq % 2 = 0)
    (hsto : ∃ old before, P.stores record = before ++ left ∧
      s.cell.data = before.foldl P.store old)
    (hreading : ∀ seq1 left got since, s.reader = .loading seq1 left got since →
      seq1 < 2 ^ P.bits ∧ since ≤ s.finished.length ∧
      s.cell.seq = (seq1 + 2 * (s.finished.length - since) + 1) % 2 ^ P.bits) : Orderly P s := by
  have hbusy : ¬s.Quiet := fun hq => hq writer record left hwtr
  refine ⟨hbd, ⟨fun heven => absurd heven hodd, fun hq => absurd hq hbusy⟩, ?_, ?_,
    fun hq => absurd hq hbusy, ?_⟩
  · intro w w' record₁ record₂ left₁ left₂ hw hw'
    rw [honly w _ _ hw, honly w' _ _ hw']
  · intro w record' left' hw
    obtain rfl := honly w record' left' hw
    obtain ⟨rfl, rfl⟩ := Writer.writing.inj (hwtr.symm.trans hw)
    exact hsto
  · intro seq1 left got since hrdr
    obtain ⟨hlt, hsince, hseq⟩ := hreading seq1 left got since hrdr
    exact ⟨hlt, hsince, fun hq => absurd hq hbusy, fun _ => hseq, fun hq => absurd hq hbusy⟩

omit h in
theorem eq_of_update {state : Writer α β} {w : ℕ} {left : List β}
    (hw : update s.writers writer state w = .writing record left)
    (honly : s.writers w = .writing record left → w = writer) : w = writer := by
  by_contra hne
  rw [update_of_ne hne] at hw
  exact hne (honly hw)

theorem Orderly.begin (hwtr : s.writers writer = .waiting record) (hquiet : s.Quiet) :
    Orderly P (advance P s writer) := by
  simp only [advance, hwtr]
  refine orderly_of_busy (update_self ..) (fun w record' left hw => ?_) (bump_lt P _) ?_
    ⟨s.cell.data, [], rfl, rfl⟩ ?_
  · exact eq_of_update hw fun hold => absurd hold (hquiet w record' left)
  · have heven := h.parity.2 hquiet
    show ¬P.bump s.cell.seq % 2 = 0
    rw [bump_mod_two]
    omega
  · intro seq1 left got since hrdr
    obtain ⟨hlt, hsince, hseq, -, -⟩ := h.reading seq1 left got since hrdr
    refine ⟨hlt, hsince, ?_⟩
    show P.bump s.cell.seq = _
    rw [hseq hquiet, bump_mod]

theorem Orderly.store {value : β} {left : List β}
    (hwtr : s.writers writer = .writing record (value :: left)) :
    Orderly P (advance P s writer) := by
  simp only [advance, hwtr]
  have hbusy : ¬s.Quiet := fun hq => hq writer record _ hwtr
  refine orderly_of_busy (update_self ..) (fun w record' left hw => ?_) h.bound
    (fun heven => hbusy (h.parity.1 heven)) ?_ ?_
  · exact eq_of_update hw fun hold => h.unique _ _ _ _ _ _ hold hwtr
  · obtain ⟨old, before, hstores, hdata⟩ := h.stored writer record _ hwtr
    refine ⟨old, before ++ [value], ?_, ?_⟩
    · rw [hstores, append_assoc, singleton_append]
    · rw [foldl_append, ← hdata]
      rfl
  · intro seq1 left' got since hrdr
    obtain ⟨hlt, hsince, -, hseq, -⟩ := h.reading seq1 left' got since hrdr
    exact ⟨hlt, hsince, hseq hbusy⟩

theorem Orderly.finish (hwtr : s.writers writer = .writing record []) :
    Orderly P (advance P s writer) := by
  simp only [advance, hwtr]
  have hbusy : ¬s.Quiet := fun hq => hq writer record _ hwtr
  have hodd : ¬s.cell.seq % 2 = 0 := fun heven => hbusy (h.parity.1 heven)
  have hquiet : ∀ w record' left, update s.writers writer .idle w ≠
      .writing record' left := by
    intro w record' left hw
    obtain rfl := eq_of_update hw fun hold => h.unique _ _ _ _ _ _ hold hwtr
    rw [update_self] at hw
    cases hw
  have hdata : s.cell.data = record := by
    obtain ⟨old, before, hstores, hdata⟩ := h.stored writer record [] hwtr
    rw [append_nil] at hstores
    rw [hdata, ← hstores, P.stores_eq]
  constructor
  · exact bump_lt P _
  · show P.bump s.cell.seq % 2 = 0 ↔ _
    rw [bump_mod_two]
    exact ⟨fun _ => hquiet, fun _ => by omega⟩
  · intro w w' record₁ record₂ left₁ left₂ hw
    exact absurd hw (hquiet w record₁ left₁)
  · intro w record' left hw
    exact absurd hw (hquiet w record' left)
  · intro _
    rw [head?_cons, hdata]
  · intro seq1 left got since hrdr
    obtain ⟨hlt, hsince, -, hseq, -⟩ := h.reading seq1 left got since hrdr
    refine ⟨hlt, Nat.le_succ_of_le hsince, fun _ => ?_, fun hq => absurd hquiet hq, fun _ heq => ?_⟩
    · show P.bump s.cell.seq = (seq1 + 2 * (s.finished.length + 1 - since)) % 2 ^ P.bits
      rw [hseq hbusy, bump_mod]
      congr 1
      omega
    · change s.finished.length + 1 = since at heq
      omega

theorem Orderly.load : Orderly P (step P s .load) := by
  refine ⟨h.bound, h.parity, h.unique, h.stored, h.settled, ?_⟩
  intro seq1 left got since hrdr
  change Seqlock.load P s = _ at hrdr
  unfold Seqlock.load at hrdr
  split at hrdr
  · -- the attempt begins
    split_ifs at hrdr with heven
    injection hrdr with hseq hleft hgot hsince
    subst hseq hleft hgot hsince
    have hquiet := h.parity.1 heven
    refine ⟨h.bound, Nat.le_refl _, fun _ => ?_, fun hq => absurd hquiet hq, fun _ _ => ⟨[], rfl, rfl⟩⟩
    show s.cell.seq = (s.cell.seq + 2 * (s.finished.length - s.finished.length)) % 2 ^ P.bits
    rw [Nat.sub_self, Nat.mul_zero, Nat.add_zero, Nat.mod_eq_of_lt h.bound]
  · next seq1' next left' got' since' hloading =>
    injection hrdr with hseq hleft hgot hsince
    subst hseq hleft hgot hsince
    obtain ⟨hlt, hsince, hquiet, hbusy, hload⟩ := h.reading _ _ _ _ hloading
    refine ⟨hlt, hsince, hquiet, hbusy, fun hq heq => ?_⟩
    obtain ⟨before, hloads, hgot⟩ := hload hq heq
    refine ⟨before ++ [next], ?_, ?_⟩
    · rw [hloads, append_assoc, singleton_append]
    · rw [foldl_append]
      exact congrArg (next s.cell.data) hgot
  · cases hrdr

theorem Orderly.step {op : Op α β} (hop : Disciplined s op) : Orderly P (step P s op) := by
  cases op with
  | call writer record => exact h.call writer record
  | crash writer => exact h.crash writer hop
  | poke => exact absurd hop id
  | load => exact h.load
  | advance writer =>
    show Orderly P (advance P s writer)
    cases hwtr : s.writers writer with
    | idle => simp only [advance, hwtr]; exact h
    | waiting record => exact h.begin hwtr (hop record hwtr)
    | writing record left =>
      cases left with
      | nil => exact h.finish hwtr
      | cons value left => exact h.store hwtr

/-- The steps of a history with one writer that neither dies nor bypasses the counter. -/
def ByWriter (writer : ℕ) : Op α β → Prop
  | .call w _ => w = writer
  | .advance w => w = writer
  | .crash _ => False
  | .poke _ => False
  | .load => True

/-- A single writer keeps to the discipline. -/
theorem orderly_of_byWriter (halone : ∀ w ≠ writer, s.writers w = .idle) {ops : List (Op α β)}
    (hops : ∀ op ∈ ops, ByWriter writer op) :
    EveryState (step P) (fun s => Orderly P s ∧ ∀ w ≠ writer, s.writers w = .idle) s ops := by
  refine (everyStep_of_forall hops s).invariant ?_ ⟨h, halone⟩
  rintro s op ⟨h, halone⟩ hop
  cases op with
  | call w record =>
    obtain rfl : w = writer := hop
    refine ⟨h.call w record, fun w' hw' => ?_⟩
    simp only [step]
    split
    · show update s.writers w _ w' = _
      rw [update_of_ne hw']
      exact halone w' hw'
    · exact halone w' hw'
  | advance w =>
    obtain rfl : w = writer := hop
    have hquiet : ∀ record, s.writers w = .waiting record → s.Quiet := by
      intro record hwaiting w' record' left hwriting
      by_cases hw' : w' = w
      · rw [hw', hwaiting] at hwriting
        cases hwriting
      · rw [halone w' hw'] at hwriting
        cases hwriting
    refine ⟨h.step hquiet, fun w' hw' => ?_⟩
    simp only [step, advance]
    split
    · exact halone w' hw'
    all_goals
      show update s.writers w _ w' = _
      rw [update_of_ne hw']
      exact halone w' hw'
  | crash | poke => exact absurd hop id
  | load => exact ⟨h.load, halone⟩

end

/-! ## Whole writes -/

/-- The steps of a whole write. -/
def Protocol.write (P : Protocol α β) (writer : ℕ) (record : α) : List (Op α β) :=
  .call writer record :: List.replicate ((P.stores record).length + 2) (.advance writer)

theorem run_stores (s : State α β) (writer : ℕ) (record : α) (left : List β) :
    run (step P) { s with writers := update s.writers writer (.writing record left) }
        (List.replicate left.length (.advance writer)) =
      { s with
        cell := { s.cell with data := left.foldl P.store s.cell.data }
        writers := update s.writers writer (.writing record []) } := by
  induction left generalizing s with
  | nil => rfl
  | cons value left ih =>
    rw [length_cons, replicate_succ, run_cons]
    have hstep : step P { s with
          writers := update s.writers writer (.writing record (value :: left)) }
        (.advance writer) =
        { { s with cell := { s.cell with data := P.store s.cell.data value } } with
          writers := update s.writers writer (.writing record left) } := by
      simp [step, advance]
    rw [hstep]
    exact ih { s with cell := { s.cell with data := P.store s.cell.data value } }

theorem run_write (hidle : s.writers writer = .idle) (record : α) :
    run (step P) s (P.write writer record) =
      { s with
        cell := ⟨P.bump (P.bump s.cell.seq), record⟩
        finished := record :: s.finished } := by
  unfold Protocol.write
  have hcall : step P s (.call writer record) =
      { s with writers := update s.writers writer (.waiting record) } := by
    simp [step, hidle]
  have hbegin : step P { s with writers := update s.writers writer (.waiting record) }
      (.advance writer) =
      { { s with cell := ⟨P.bump s.cell.seq, s.cell.data⟩ } with
        writers := update s.writers writer (.writing record (P.stores record)) } := by
    simp [step, advance]
  rw [run_cons, hcall, replicate_succ, run_cons, hbegin, replicate_succ', run_append,
    run_stores { s with cell := ⟨P.bump s.cell.seq, s.cell.data⟩ }]
  simp only [run_cons, run_nil, step, advance, update_self, update_idem,
    P.stores_eq]
  rw [← hidle, update_eq_self]

/-- Without a write going on, an attempt gets the record of the last finished write. -/
theorem Orderly.read_eq (h : Orderly P s) (hquiet : s.Quiet) : P.read s.cell = s.finished.head? := by
  rw [Protocol.read, if_pos (h.parity.2 hquiet), P.loads_eq, h.settled hquiet]

end AetherEdge.Seqlock
