import AetherEdge.Io.ChannelMutator

/-!
# What the tasks of the commissioning adapter rely on

A task owns a channel while it holds the projection gate alone, or holds it with others and also
holds the channel's lock. `Keeps` is what a step leaves to a task: its locks, the runtimes of the
channels it owns, what it read of the tables, and tables that follow the schema's revision rule.
`Effect` says what an operation makes of the world: such a step for the other tasks
(`Effect.keeps_of_ne`), and for its own up to its scope (`Effect.keeps`). On this rest the triples
of the operations.
-/

namespace AetherEdge.Io

open Std (ExtTreeMap)
open OrderedMap

/-! ## Ownership -/

namespace World

/-- The task holds the gate alone. -/
def Writes (t : ℕ) (w : World) : Prop := w.gate = .write t

/-- The task holds the gate with others. -/
def Reads (t : ℕ) (w : World) : Prop := ∃ holders, w.gate = .read holders ∧ t ∈ holders

/-- The task owns the runtime of the channel. -/
def Owns (t channelId : ℕ) (w : World) : Prop :=
  w.Writes t ∨ w.Reads t ∧ w.channelLocks channelId = some t

theorem Owns.unique {t u channelId : ℕ} {w : World} (ht : w.Owns t channelId)
    (hu : w.Owns u channelId) : t = u := by
  rcases ht with ht | ⟨⟨holders, ht, -⟩, hlock⟩
  · rcases hu with hu | ⟨⟨holders, hu, -⟩, -⟩
    · exact Gate.write.inj (ht.symm.trans hu)
    · cases ht.symm.trans hu
  · rcases hu with hu | ⟨-, hlock'⟩
    · cases ht.symm.trans hu
    · exact Option.some.inj (hlock.symm.trans hlock')

end World

/-! ## Steps -/

/-- What an operation may change of what its own task has: one runtime, what it read, one lock. -/
structure Scope where
  slot : Option ℕ := none
  reads : Bool := false
  unlocks : Option ℕ := none

namespace Scope

/-- The scope of the other tasks: nothing. -/
def others : Scope := {}

/-- A scope that allows less. -/
def Within (a b : Scope) : Prop :=
  (a.slot = none ∨ a.slot = b.slot) ∧ (a.reads = true → b.reads = true) ∧
    (a.unlocks = none ∨ a.unlocks = b.unlocks)

theorem others_within (scope : Scope) : others.Within scope :=
  ⟨.inl rfl, nofun, .inl rfl⟩

end Scope

/-- What a step leaves to the task `t`, up to a scope. -/
structure Keeps (t : ℕ) (scope : Scope) (w w' : World) : Prop where
  guarded : ∀ c, Database.Guarded c w.db w'.db
  writes : w.Writes t → w'.Writes t
  reads : w.Reads t → w'.Reads t
  locks : ∀ c, scope.unlocks ≠ some c → w.channelLocks c = some t → w'.channelLocks c = some t
  runtimes : ∀ c, scope.slot ≠ some c → w.Owns t c → w'.runtimes[c]? = w.runtimes[c]?
  seen : scope.reads = false → w'.seen t = w.seen t

/-- What other tasks do meanwhile. -/
def Relies (t : ℕ) (w w' : World) : Prop := Keeps t .others w w'

namespace Keeps

variable {t : ℕ} {scope : Scope} {w w' w'' : World}

theorem refl (t : ℕ) (scope : Scope) (w : World) : Keeps t scope w w where
  guarded c := .refl c _
  writes := id
  reads := id
  locks _ _ := id
  runtimes _ _ _ := rfl
  seen _ := rfl

theorem owns (h : Keeps t scope w w') {c : ℕ} (hc : scope.unlocks ≠ some c)
    (howns : w.Owns t c) : w'.Owns t c := by
  rcases howns with hwrs | ⟨hreads, hlock⟩
  · exact .inl (h.writes hwrs)
  · exact .inr ⟨h.reads hreads, h.locks c hc hlock⟩

theorem trans (h : Relies t w w') (h' : Relies t w' w'') : Relies t w w'' where
  guarded c := (h.guarded c).trans (h'.guarded c)
  writes hw := h'.writes (h.writes hw)
  reads hr := h'.reads (h.reads hr)
  locks c hc hl := h'.locks c hc (h.locks c hc hl)
  runtimes c hc hown := (h'.runtimes c hc (h.owns nofun hown)).trans (h.runtimes c hc hown)
  seen hr := (h'.seen hr).trans (h.seen hr)

theorem mono (h : Keeps t scope w w') {scope' : Scope} (hle : scope.Within scope') :
    Keeps t scope' w w' where
  guarded := h.guarded
  writes := h.writes
  reads := h.reads
  locks c hc hl := by
    refine h.locks c ?_ hl
    rcases hle.2.2 with hnone | hsame
    · rw [hnone]
      exact nofun
    · rwa [hsame]
  runtimes c hc hown := by
    refine h.runtimes c ?_ hown
    rcases hle.1 with hnone | hsame
    · rw [hnone]
      exact nofun
    · rwa [hsame]
  seen hr := by
    refine h.seen ?_
    cases hreads : scope.reads with
    | false => rfl
    | true => rw [hle.2.1 hreads] at hr; cases hr

end Keeps

/-! ## Operations as steps -/

/-- What an operation may change. -/
def ChannelOp.scope : ChannelOp → Scope
  | .selectChannel _ | .selectTombstone _ | .selectOccupied | .countRoutes _
  | .selectRuntimeChannel _ | .selectRuntimeChannels | .selectRuntimeAuthority => { reads := true }
  | .createChannel snapshot => { slot := some snapshot.base.id, reads := true }
  | .removeChannel c => { slot := some c }
  | .unlockChannel c => { unlocks := some c }
  | _ => {}

/-- The task owns what the operation changes. -/
def ChannelOp.Permitted (op : ChannelOp) (t : ℕ) (w : World) : Prop :=
  (∀ c, op.scope.slot = some c → w.Owns t c) ∧
    ∀ c, op.scope.unlocks = some c → w.channelLocks c = some t

/-- What an operation of the task `t` makes of the world. -/
inductive Effect (t : ℕ) (w : World) : ChannelOp → World → Prop where
  | same (op : ChannelOp) : Effect t w op w
  | enter (hgate : w.gate.readable = true) :
    Effect t w .readGate { w with gate := w.gate.join t }
  | exclude (hgate : w.gate = .read []) : Effect t w .writeGate { w with gate := .write t }
  | lock (c : ℕ) (hfree : w.channelLocks c = none) :
    Effect t w (.lockChannel c)
      { w with channelLocks := Function.update w.channelLocks c (some t) }
  | unlock (c : ℕ) :
    Effect t w (.unlockChannel c) { w with channelLocks := Function.update w.channelLocks c none }
  | allocate (op : ChannelOp) (holder : Option ℕ) : Effect t w op { w with allocationLock := holder }
  | see (op : ChannelOp) (hreads : op.scope.reads = true) (seen : Option Database) :
    Effect t w op { w with seen := Function.update w.seen t seen }
  | write (op : ChannelOp) (db : Database) (hguarded : ∀ c, Database.Guarded c w.db db) :
    Effect t w op { w with db }
  | install (snapshot : RuntimeSnapshot) :
    Effect t w (.createChannel snapshot)
      { w with
        runtimes := w.runtimes.insert snapshot.base.id snapshot
        seen := Function.update w.seen t none }
  | remove (c : ℕ) : Effect t w (.removeChannel c) { w with runtimes := w.runtimes.erase c }

section Apply

variable {t u : ℕ} {w w' : World} {choice : Choice} {op : ChannelOp}

theorem effect_select {α : Type} (hreads : op.scope.reads = true) (read : Database → α) :
    Effect t w op (w.select t choice read).2 := by
  unfold World.select
  split
  · exact .same op
  · exact .see op hreads _

theorem effect_load {α : Type} (hreads : op.scope.reads = true) (read : Database → α) :
    Effect t w op (w.load t choice read).2 := by
  unfold World.load
  split
  · exact .same op
  · exact .see op hreads _

theorem effect_execute {write : Database → Except SqlError (ℕ × Database)}
    (hwrite : ∀ answer db, write w.db = .ok (answer, db) → ∀ c, Database.Guarded c w.db db) :
    Effect t w op (w.execute choice write).2 := by
  unfold World.execute
  split
  · exact .same op
  split
  · exact .same op
  · rename_i h
    exact .write op _ (hwrite _ _ h)

theorem effect_apply (op : ChannelOp) (henab : channelEnabled op w = true) :
    Effect t w op (channelApply t op choice w).2 := by
  cases op with
  | readGate => exact .enter henab
  | writeGate => exact .exclude (eq_of_beq henab)
  | lockChannel c => exact .lock c (Option.isNone_iff_eq_none.1 henab)
  | unlockChannel c => exact .unlock c
  | lockAllocation => exact .allocate _ _
  | selectChannel | selectTombstone | selectOccupied | countRoutes => exact effect_select rfl _
  | selectRuntimeChannel | selectRuntimeChannels | selectRuntimeAuthority => exact effect_load rfl _
  | insertChannel c name protocol enabled config =>
    exact effect_execute fun _ _ h => (Database.raises_insertChannel h).guarded
  | updateChannel | updateEnabled =>
    exact effect_execute fun _ _ h => (Database.raises_updateWhere h).guarded
  | deleteChannel c expected tombstone =>
    unfold channelApply
    dsimp only
    split
    · exact .same _
    · exact .same _
    · rename_i h
      exact .write _ _ (Database.guarded_deleteDesiredState h)
  | createChannel snapshot =>
    unfold channelApply
    dsimp only
    split
    · exact .see _ rfl none
    · exact .install snapshot
  | removeChannel c =>
    unfold channelApply
    dsimp only
    split
    · exact .same _
    · exact .remove c
  | project | getChannel | channelIds | isConnected | connect => exact .same _

namespace Effect

variable (h : Effect t w op w')

include h

theorem guarded (c : ℕ) : Database.Guarded c w.db w'.db := by
  cases h with
  | write op db hgd => exact hgd c
  | _ => exact .refl c _

theorem writes (hu : w.Writes u) : w'.Writes u := by
  cases h with
  | enter hgate =>
    rw [hu] at hgate
    cases hgate
  | exclude hgate => cases hgate.symm.trans hu
  | _ => exact hu

theorem reads (hu : w.Reads u) : w'.Reads u := by
  obtain ⟨holders, hgate, hmem⟩ := hu
  cases h with
  | enter _ => exact ⟨t :: holders, by rw [hgate, Gate.join], List.mem_cons_of_mem _ hmem⟩
  | exclude hgate' =>
    cases hgate.symm.trans hgate'
    cases hmem
  | _ => exact ⟨holders, hgate, hmem⟩

theorem locks {c : ℕ} (hc : op ≠ .unlockChannel c) (hu : w.channelLocks c = some u) :
    w'.channelLocks c = some u := by
  cases h with
  | lock c' hfree =>
    have hne : c ≠ c' := by
      rintro rfl
      cases hfree.symm.trans hu
    exact (Function.update_of_ne hne _ _).trans hu
  | unlock c' =>
    have hne : c ≠ c' := by
      rintro rfl
      exact hc rfl
    exact (Function.update_of_ne hne _ _).trans hu
  | _ => exact hu

theorem runtimes {c : ℕ} (hc : op.scope.slot ≠ some c) : w'.runtimes[c]? = w.runtimes[c]? := by
  cases h with
  | install snapshot =>
    exact (getElem?_insert_nat ..).trans (if_neg fun heq => hc (congrArg some heq))
  | remove c' => exact (getElem?_erase_nat ..).trans (if_neg fun heq => hc (congrArg some heq))
  | _ => rfl

theorem seen (hu : u ≠ t ∨ op.scope.reads = false) : w'.seen u = w.seen u := by
  cases h with
  | see op hreads seen =>
    rw [hreads] at hu
    exact Function.update_of_ne (hu.resolve_right nofun) _ _
  | install snapshot => exact Function.update_of_ne (hu.resolve_right nofun) _ _
  | _ => rfl

/-- An operation leaves to its own task what is not in its scope. -/
theorem keeps : Keeps t op.scope w w' where
  guarded := h.guarded
  writes := h.writes
  reads := h.reads
  locks c hc hu := by
    refine h.locks ?_ hu
    rintro rfl
    exact hc rfl
  runtimes c hc _ := h.runtimes hc
  seen hreads := h.seen (.inr hreads)

/-- An operation of a task that owns what it changes leaves to the others what they have. -/
theorem keeps_of_ne (hperm : op.Permitted t w) (hne : u ≠ t) :
    Relies u w w' where
  guarded := h.guarded
  writes := h.writes
  reads := h.reads
  locks c _ hu := by
    refine h.locks ?_ hu
    rintro rfl
    exact hne (Option.some.inj (hu.symm.trans (hperm.2 c rfl)))
  runtimes c _ howns := h.runtimes fun hc => hne (howns.unique (hperm.1 c hc))
  seen _ := h.seen (.inl hne)

end Effect

end Apply

/-! ## The machine keeps the rules -/

theorem keeps_release {t u : ℕ} {w : World} (hne : u ≠ t) : Relies u w (channelRelease t w) where
  guarded c := .refl c _
  writes h := by
    rw [World.Writes, channelRelease, h, Gate.leave, if_neg hne]
  reads h := by
    obtain ⟨holders, hgate, hmem⟩ := h
    refine ⟨holders.filter (· ≠ t), ?_, List.mem_filter.2 ⟨hmem, decide_eq_true hne⟩⟩
    rw [channelRelease, hgate, Gate.leave]
  locks c _ h := by
    refine Eq.trans (if_neg fun heq => ?_) h
    exact hne (Option.some.inj (h.symm.trans heq))
  runtimes _ _ _ := rfl
  seen _ := Function.update_of_ne hne _ _

theorem channel_relyGuarantee :
    RelyGuarantee channelMachine Relies (fun _ _ => True) where
  refl t w := .refl t _ w
  trans _ _ _ _ h h' := Keeps.trans h h'
  idle_rely _ _ _ _ _ := trivial
  release_rely _ _ _ hne := keeps_release hne
  release_idle _ _ := trivial

/-! ## Triples -/

/-- The triples of one task of the adapter. -/
abbrev ChannelTriple {α : Type} (t : ℕ) (P : World → Prop) (p : ChannelProgram α)
    (Q : α → World → Prop) : Prop := Triple channelMachine Relies t P p Q

/-- An assertion of the task that steps of the scope leave true. -/
def Stable (t : ℕ) (scope : Scope) (P : World → Prop) : Prop :=
  ∀ w w', Keeps t scope w w' → P w → P w'

section Stable

variable {t : ℕ} {scope scope' : Scope} {P Q : World → Prop}

theorem Stable.mono (h : Stable t scope' P) (hle : scope.Within scope') : Stable t scope P :=
  fun w w' hkp => h w w' (hkp.mono hle)

theorem Stable.rely (h : Stable t scope P) : Stable t .others P :=
  h.mono (Scope.others_within scope)

theorem Stable.and (hP : Stable t scope P) (hQ : Stable t scope Q) :
    Stable t scope fun w => P w ∧ Q w :=
  fun w w' hkp h => ⟨hP w w' hkp h.1, hQ w w' hkp h.2⟩

end Stable

section Operations

variable {t : ℕ} {op : ChannelOp} {P : World → Prop} {R : op.Response → World → Prop}

theorem triple_op (hP : Stable t .others P) (hperm : ∀ w, P w → op.Permitted t w)
    (hR : ∀ w choice, P w → channelEnabled op w = true → Keeps t op.scope w (channelApply t op
      choice w).2 → R (channelApply t op choice w).1 (channelApply t op choice w).2) :
    ChannelTriple t P (channelOp op) R := by
  refine triple_call (fun w w' => hP w w') ?_ fun response => triple_done fun _ h => h
  intro w hw henab choice
  refine ⟨fun u hu => ?_, ?_⟩
  · exact (effect_apply op henab).keeps_of_ne (hperm w hw) hu
  · exact hR w choice hw henab (effect_apply op henab).keeps

/-- The rule of an operation that changes no runtime and gives up no lock. -/
theorem triple_quiet (hP : Stable t op.scope P) (hslot : op.scope.slot = none)
    (hunlocks : op.scope.unlocks = none)
    (hR : ∀ w choice, P w → channelEnabled op w = true → R (channelApply t op choice w).1
      (channelApply t op choice w).2) :
    ChannelTriple t P (channelOp op) fun response w => P w ∧ R response w := by
  refine triple_op hP.rely (fun w _ => ⟨?_, ?_⟩) fun w choice hw henab hkp => ⟨?_, ?_⟩
  · rw [hslot]
    exact nofun
  · rw [hunlocks]
    exact nofun
  · exact hP _ _ hkp hw
  · exact hR w choice hw henab

/-- An operation that only keeps what is asserted. -/
theorem triple_keep (hP : Stable t op.scope P) (hslot : op.scope.slot = none)
    (hunlocks : op.scope.unlocks = none) :
    ChannelTriple t P (channelOp op) fun _ w => P w :=
  (triple_quiet (R := fun _ _ => True) hP hslot hunlocks fun _ _ _ _ => trivial).conseq
    (fun _ h => h) fun _ _ h => h.1

end Operations

end AetherEdge.Io
