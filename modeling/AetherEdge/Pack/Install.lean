import AetherEdge.Common.Transition

/-!
# Pack installers side by side

`install_artifact` (`tools/aether/src/pack_artifact.rs`) publishes a Pack by a rename, then reads
`global.yaml`, validates a candidate and renames it over the file, and on failure removes what it
published. No lock covers these steps: of two installers that read the same document the second
rename drops the Pack of the first.

* `installs_consistent`: however installers overlap, when none renames a candidate made from another
  document than the one there, removes a tree that is in use or fails after its second rename,
  every Pack with a receipt is active whenever no installer is at work;
* `others_stay_active`: however they overlap, a Pack that nobody installs stays active.

A root stands for the path it resolves to, a tree for what loading it finds.
-/

namespace AetherEdge.Pack

open Transition

/-- A directory of the packs directory: the Pack that `load_pack_manifest` finds there, if any, and
    the digest of the files. -/
structure Tree where
  id : Option String
  digest : String
  deriving DecidableEq

/-- The `packs` of `global.yaml`: identity and root. -/
abbrev Document := List (String × String)

/-- What `install_artifact` (lines 289-424) takes from its artifact. -/
structure Artifact where
  id : String
  digest : String
  /-- `<packs>/<id>/<version>` -/
  root : String

/-- What the artifact is published as. -/
def Artifact.tree (artifact : Artifact) : Tree := ⟨some artifact.id, artifact.digest⟩

/-- `parse_active_packs_config` (`aether-pack/src/lib.rs`, lines 307-374) accepts the document. -/
def Loadable (trees : String → Option Tree) (document : Document) : Prop :=
  (document.map Prod.fst).Nodup ∧ (document.map Prod.snd).Nodup ∧
    ∀ entry ∈ document, (trees entry.2).bind Tree.id = some entry.1

instance (trees : String → Option Tree) (document : Document) : Decidable (Loadable trees document) :=
  inferInstanceAs (Decidable (_ ∧ _ ∧ _))

/-- `update_active_pack_value` (lines 823-864). -/
def updateActivePackValue (id root : String) : Document → Document
  | [] => [(id, root)]
  | entry :: rest =>
    if entry.1 = id then (id, root) :: rest else entry :: updateActivePackValue id root rest

/-- What an installer does next; `new` is `published_new`. -/
inductive Phase where
  | loading
  | inspecting
  | verifying
  | publishing
  | reading (new : Bool)
  | validating (new : Bool) (candidate : Document)
  | replacing (new : Bool) (candidate : Document)
  | resolving
  | rollingBack
  | failed
  | receipt
  deriving DecidableEq

/-- The installer has not begun, or it has returned. -/
def Phase.Idle (phase : Phase) : Prop := phase = .loading ∨ phase = .failed ∨ phase = .receipt

/-- How an operation ends; a removal that fails leaves a part of the tree. -/
inductive Outcome where
  | done
  | failed (left : Option Tree)
  deriving DecidableEq

/-- What is left of a removed tree. -/
def Outcome.left : Outcome → Option Tree
  | .done => none
  | .failed left => left

/-- The files, and where each installer is. -/
structure State (ι : Type) where
  global : Document
  trees : String → Option Tree
  phase : ι → Phase

variable {ι : Type} [DecidableEq ι]

/-- The installer goes on to its next operation. -/
def State.goto (s : State ι) (i : ι) (phase : Phase) : State ι :=
  { s with phase := Function.update s.phase i phase }

/-- The way out of `activate_pack_atomically`'s errors. -/
def abandon (new : Bool) : Phase := if new then .rollingBack else .failed

/-- One operation of the installer `i`: lines 310 (`loading`), 337 (`inspecting`), 341-350
    (`verifying`), 368 (`publishing`), 773-781 (`reading`), 784 (`validating`), 807 (`replacing`),
    396 (`rollingBack`), 417 (`resolving`). -/
def step (artifact : ι → Artifact) (s : State ι) : ι × Outcome → State ι
  | (i, outcome) =>
    let root := (artifact i).root
    match s.phase i with
    | .loading =>
      s.goto i (if outcome = .done ∧ Loadable s.trees s.global then .inspecting else .failed)
    | .inspecting =>
      s.goto i (if outcome = .done then
        if (s.trees root).isSome then .verifying else .publishing else .failed)
    | .verifying =>
      s.goto i (if outcome = .done ∧ s.trees root = some (artifact i).tree then .reading false
        else .failed)
    | .publishing =>
      if outcome = .done ∧ s.trees root = none then
        { s with trees := Function.update s.trees root (artifact i).tree }.goto i (.reading true)
      else s.goto i .failed
    | .reading new =>
      s.goto i (if outcome = .done then
        .validating new (updateActivePackValue (artifact i).id root s.global) else abandon new)
    | .validating new candidate =>
      s.goto i (if outcome = .done ∧ Loadable s.trees candidate then .replacing new candidate
        else abandon new)
    | .replacing new candidate =>
      if outcome = .done then { s with global := candidate }.goto i .resolving
      else s.goto i (abandon new)
    | .resolving =>
      s.goto i (if outcome = .done ∧ (s.trees root).isSome then .receipt else .failed)
    | .rollingBack =>
      { s with trees := Function.update s.trees root outcome.left }.goto i .failed
    | .failed | .receipt => s

/-- `global.yaml` loads, and each Pack with a receipt is active with the root of an installer of
    it that has a receipt. -/
def Consistent (artifact : ι → Artifact) (s : State ι) : Prop :=
  Loadable s.trees s.global ∧ ∀ i, s.phase i = .receipt → ∃ j, s.phase j = .receipt ∧
    (artifact j).id = (artifact i).id ∧ ((artifact j).id, (artifact j).root) ∈ s.global

/-- The installer relies on the tree at its root. -/
def Phase.Adopted : Phase → Prop
  | .reading _ | .validating _ _ | .replacing _ _ | .resolving => True
  | _ => False

instance : DecidablePred Phase.Adopted := fun phase => by
  cases phase <;> unfold Phase.Adopted <;> infer_instance

/-- An installer renames a candidate made from the document that is there (no other has renamed
    since it read), removes no tree that the document names or another relies on, and does not fail
    after its rename. -/
def Undisturbed (artifact : ι → Artifact) (s : State ι) (action : ι × Outcome) : Prop :=
  match s.phase action.1 with
  | .replacing _ candidate => action.2 = .done →
    candidate = updateActivePackValue (artifact action.1).id (artifact action.1).root s.global
  | .rollingBack => (artifact action.1).root ∉ s.global.map Prod.snd ∧
    ∀ j, (s.phase j).Adopted → (artifact j).root ≠ (artifact action.1).root
  | .resolving => action.2 = .done
  | _ => True

instance {n : ℕ} (artifact : Fin n → Artifact) (s : State (Fin n)) (action : Fin n × Outcome) :
    Decidable (Undisturbed artifact s action) := by
  unfold Undisturbed
  cases s.phase action.1 <;> infer_instance

/-! ## The document -/

theorem mem_updateActivePackValue (id root : String) (document : Document) :
    (id, root) ∈ updateActivePackValue id root document := by
  induction document with
  | nil => exact List.mem_singleton_self _
  | cons entry rest ih => grind [updateActivePackValue]

theorem mem_updateActivePackValue_of_ne {id root : String} {document : Document}
    {entry : String × String} (hentry : entry ∈ document) (hne : entry.1 ≠ id) :
    entry ∈ updateActivePackValue id root document := by
  induction document with
  | nil => cases hentry
  | cons first rest ih => grind [updateActivePackValue]

theorem eq_or_mem_of_mem_updateActivePackValue {id root : String} {document : Document}
    {entry : String × String} (h : entry ∈ updateActivePackValue id root document) :
    entry = (id, root) ∨ entry ∈ document := by
  induction document with
  | nil => exact .inl (List.mem_singleton.1 h)
  | cons first rest ih => grind [updateActivePackValue]

section Loadable

variable {trees : String → Option Tree} {document : Document} {id root : String}

theorem loadable_cons {entry : String × String} : Loadable trees (entry :: document) ↔
    (∀ other ∈ document, other.1 ≠ entry.1 ∧ other.2 ≠ entry.2) ∧
      (trees entry.2).bind Tree.id = some entry.1 ∧ Loadable trees document := by
  simp only [Loadable, List.map_cons, List.nodup_cons, List.mem_map, List.forall_mem_cons]
  grind

theorem Loadable.update {tree : Option Tree} (h : Loadable trees document)
    (hroot : root ∉ document.map Prod.snd) :
    Loadable (Function.update trees root tree) document := by
  refine ⟨h.1, h.2.1, fun entry hentry => ?_⟩
  have hne : entry.2 ≠ root := fun heq => hroot (heq ▸ List.mem_map_of_mem hentry)
  rw [Function.update_of_ne hne]
  exact h.2.2 entry hentry

/-- Nothing is named where there is no tree. -/
theorem Loadable.root_not_mem (h : Loadable trees document) (hnone : trees root = none) :
    root ∉ document.map Prod.snd := by
  intro hmem
  obtain ⟨entry, hentry, rfl⟩ := List.mem_map.1 hmem
  have htree := h.2.2 entry hentry
  rw [hnone] at htree
  cases htree

/-- A document that loads still does with a Pack activated that is in place. -/
theorem Loadable.activate (h : Loadable trees document)
    (htree : (trees root).bind Tree.id = some id) :
    Loadable trees (updateActivePackValue id root document) := by
  induction document with
  | nil => exact loadable_cons.2 ⟨nofun, htree, h⟩
  | cons first rest ih =>
    obtain ⟨hfirst, hplaced, hrest⟩ := loadable_cons.1 h
    rw [updateActivePackValue]
    split_ifs with hid
    · -- another entry with the root would have the identity of the first
      refine loadable_cons.2 ⟨fun other hother => ⟨hid ▸ (hfirst other hother).1, ?_⟩, htree, hrest⟩
      intro hroot
      have hother' := hrest.2.2 other hother
      rw [hroot, htree] at hother'
      exact (hfirst other hother).1 ((Option.some.inj hother').symm.trans hid.symm)
    · refine loadable_cons.2 ⟨fun other hother => ?_, hplaced, ih hrest⟩
      obtain rfl | hmem := eq_or_mem_of_mem_updateActivePackValue hother
      · refine ⟨fun heq => hid heq.symm, fun hroot => hid ?_⟩
        rw [← hroot, htree] at hplaced
        exact (Option.some.inj hplaced).symm
      · exact hfirst other hmem

end Loadable

/-! ## Installers that overlap -/

/-- The installer has replaced `global.yaml`. -/
def Phase.Activated : Phase → Prop
  | .resolving | .receipt => True
  | _ => False

/-- What holds however undisturbed installers overlap. -/
structure Safe (artifact : ι → Artifact) (s : State ι) : Prop where
  loadable : Loadable s.trees s.global
  placed : ∀ i, (s.phase i).Adopted → s.trees (artifact i).root = some (artifact i).tree
  backed : ∀ i, (s.phase i).Activated → ∃ j, (s.phase j).Activated ∧
    (artifact j).id = (artifact i).id ∧ ((artifact j).id, (artifact j).root) ∈ s.global

variable {artifact : ι → Artifact} {s t : State ι} {i : ι} {phase : Phase}

omit [DecidableEq ι] in
/-- The tree that an installer relies on has its identity. -/
theorem Safe.identity (h : Safe artifact s) (hadopted : (s.phase i).Adopted) :
    (s.trees (artifact i).root).bind Tree.id = some (artifact i).id := by
  rw [h.placed i hadopted]
  rfl

/-- An operation before the rename and behind it: the document is kept. -/
theorem Safe.goto (h : Safe artifact s) {trees : String → Option Tree}
    (hload : Loadable trees s.global)
    (hplaced : ∀ j, j ≠ i → (s.phase j).Adopted → trees (artifact j).root = some (artifact j).tree)
    (hself : phase.Adopted → trees (artifact i).root = some (artifact i).tree)
    (hactivated : phase.Activated ↔ (s.phase i).Activated) :
    Safe artifact ({ s with trees := trees }.goto i phase) := by
  have hat : (Function.update s.phase i phase) i = phase := Function.update_self ..
  have hother {j : ι} (hne : j ≠ i) : Function.update s.phase i phase j = s.phase j :=
    Function.update_of_ne hne ..
  have hsame (j : ι) : (Function.update s.phase i phase j).Activated ↔ (s.phase j).Activated := by
    obtain rfl | hne := eq_or_ne j i
    · rw [hat, hactivated]
    · rw [hother hne]
  refine ⟨hload, fun j hj => ?_, fun k hk => ?_⟩
  · change (Function.update s.phase i phase j).Adopted at hj
    obtain rfl | hne := eq_or_ne j i
    · exact hself (hat ▸ hj)
    · exact hplaced j hne (hother hne ▸ hj)
  · obtain ⟨j, hj, hrest⟩ := h.backed k ((hsame k).1 hk)
    exact ⟨j, (hsame j).2 hj, hrest⟩

/-- The rename. -/
theorem Safe.replace (h : Safe artifact s) (hadopted : (s.phase i).Adopted)
    (hbefore : ¬ (s.phase i).Activated) :
    Safe artifact ({ s with
      global := updateActivePackValue (artifact i).id (artifact i).root s.global }.goto i
        .resolving) := by
  have hat : (Function.update s.phase i .resolving) i = .resolving := Function.update_self ..
  have hother {j : ι} (hne : j ≠ i) : Function.update s.phase i .resolving j = s.phase j :=
    Function.update_of_ne hne ..
  have hnew : ((artifact i).id, (artifact i).root) ∈
      updateActivePackValue (artifact i).id (artifact i).root s.global :=
    mem_updateActivePackValue ..
  refine ⟨h.loadable.activate (h.identity hadopted), fun j hj => ?_, fun k hk => ?_⟩
  · change (Function.update s.phase i .resolving j).Adopted at hj
    obtain rfl | hne := eq_or_ne j i
    · exact h.placed j hadopted
    · exact h.placed j (hother hne ▸ hj)
  · change (Function.update s.phase i .resolving k).Activated at hk
    obtain rfl | hne := eq_or_ne k i
    · exact ⟨k, hk, rfl, hnew⟩
    obtain ⟨j, hj, hid, hmem⟩ := h.backed k (hother hne ▸ hk)
    -- an entry of another identity is kept, one of the same is now that of `i`
    by_cases heq : (artifact j).id = (artifact i).id
    · refine ⟨i, ?_, heq ▸ hid, hnew⟩
      show (Function.update s.phase i .resolving i).Activated
      rw [hat]
      trivial
    · refine ⟨j, ?_, hid, mem_updateActivePackValue_of_ne hmem heq⟩
      show (Function.update s.phase i .resolving j).Activated
      rwa [hother fun hji => heq (hji ▸ rfl)]

theorem safe_step (h : Safe artifact s) {action : ι × Outcome}
    (hguard : Undisturbed artifact s action) : Safe artifact (step artifact s action) := by
  obtain ⟨i, outcome⟩ := action
  unfold Undisturbed at hguard
  have hplaced := h.placed i
  -- the operations that change no file
  have hgoto {phase : Phase} (hself : phase.Adopted → s.trees (artifact i).root = some (artifact i).tree)
      (hactivated : phase.Activated ↔ (s.phase i).Activated) : Safe artifact (s.goto i phase) :=
    h.goto h.loadable (fun j _ => h.placed j) hself hactivated
  have habandon {new : Bool} (hbefore : ¬ (s.phase i).Activated) :
      Safe artifact (s.goto i (abandon new)) := by
    cases new <;> exact hgoto nofun ⟨nofun, fun hi => absurd hi hbefore⟩
  cases hphase : s.phase i <;> simp only [step, hphase] <;>
    simp only [hphase] at hguard <;> rw [hphase] at hgoto habandon hplaced
  case loading | inspecting => split_ifs <;> exact hgoto nofun Iff.rfl
  case verifying =>
    split_ifs with hok
    · exact hgoto (fun _ => hok.2) Iff.rfl
    · exact hgoto nofun Iff.rfl
  case publishing =>
    split_ifs with hok
    · refine h.goto (h.loadable.update (h.loadable.root_not_mem hok.2)) ?_
        (fun _ => Function.update_self ..) (by rw [hphase]; exact Iff.rfl)
      intro j _ hj
      have htree := h.placed j hj
      rw [Function.update_of_ne]
      · exact htree
      · intro hroot
        rw [hroot, hok.2] at htree
        cases htree
    · exact hgoto nofun Iff.rfl
  case reading | validating =>
    split_ifs
    · exact hgoto hplaced Iff.rfl
    · exact habandon id
  case replacing =>
    split_ifs with hok
    · rw [hguard hok]
      exact h.replace (by rw [hphase]; trivial) (by rw [hphase]; exact id)
    · exact habandon id
  case resolving =>
    rw [if_pos ⟨hguard, by rw [hplaced trivial]; rfl⟩]
    exact hgoto nofun Iff.rfl
  case rollingBack =>
    refine h.goto (h.loadable.update hguard.1) (fun j _ hj => ?_) nofun
      (by rw [hphase]; exact Iff.rfl)
    rw [Function.update_of_ne (hguard.2 j hj)]
    exact h.placed j hj
  case failed | receipt => exact h

/-- Installers that overlap undisturbed leave a document that loads and has every Pack with a
    receipt. -/
theorem installs_consistent (artifact : ι → Artifact) (s : State ι)
    (hload : Loadable s.trees s.global) (hstart : ∀ i, s.phase i = .loading)
    (actions : List (ι × Outcome))
    (hundisturbed : EveryStep (step artifact) (Undisturbed artifact) s actions) :
    EveryState (step artifact) (fun t => (∀ i, (t.phase i).Idle) → Consistent artifact t) s
      actions := by
  have hsafe : Safe artifact s := by
    refine ⟨hload, fun i hi => ?_, fun i hi => ?_⟩
    · rw [hstart] at hi
      exact hi.elim
    · rw [hstart] at hi
      exact hi.elim
  have hrun : EveryState (step artifact) (Safe artifact) s actions :=
    hundisturbed.invariant (fun _ _ h ha => safe_step h ha) hsafe
  refine hrun.imp fun t ht hidle => ⟨ht.loadable, fun i hi => ?_⟩
  obtain ⟨j, hj, hrest⟩ := ht.backed i (by rw [hi]; trivial)
  obtain hphase | hphase | hphase := hidle j
  · exact (hphase ▸ hj).elim
  · exact (hphase ▸ hj).elim
  · exact ⟨j, hphase, hrest⟩

/-- A pump and a valve. -/
def pumpAndValve (second : Bool) : Artifact :=
  if second then ⟨"valve", "1f", "/packs/valve/1.0.0"⟩ else ⟨"pump", "2e", "/packs/pump/1.0.0"⟩

/-- Nothing is installed or begun. -/
def nothingInstalled : State Bool := ⟨[], fun _ => none, fun _ => .loading⟩

/-- A pump and two versions of a valve. -/
def andNewerValve (i : Fin 3) : Artifact :=
  if i = 2 then ⟨"valve", "3d", "/packs/valve/2.0.0"⟩ else pumpAndValve (i = 1)

/-- All load, inspect and publish together. The pump is activated, the newer valve fails to rename
    and rolls back as the older one reads, and this one is activated. -/
def overlapping : List (Fin 3 × Outcome) :=
  [(0, .done), (1, .done), (2, .done), (1, .done), (0, .done), (2, .done), (2, .done), (1, .done),
    (0, .done), (0, .done), (0, .done), (0, .done), (2, .done), (2, .done), (1, .done),
    (2, .failed none), (0, .done), (2, .done), (1, .done), (1, .done), (1, .done)]

theorem overlapping_consistent :
    let start : State (Fin 3) := ⟨[], fun _ => none, fun _ => .loading⟩
    EveryState (step andNewerValve) (fun t => (∀ i, (t.phase i).Idle) → Consistent andNewerValve t)
      start overlapping ∧
      ∀ i, (run (step andNewerValve) start overlapping).phase i =
        if i = 2 then .failed else .receipt := by
  refine ⟨installs_consistent _ _ (by decide) (fun _ => rfl) _ ?_, by decide +kernel⟩
  simp only [overlapping, everyStep_cons, everyStep_nil]
  and_intros <;> decide +kernel

/-- The first installer reads `global.yaml`, the second installs its Pack, and the first replaces the
    document by its candidate. -/
theorem overlapping_installs_lose_pack :
    let t := run (step pumpAndValve) nothingInstalled (List.replicate 4 (false, .done) ++
      List.replicate 7 (true, .done) ++ List.replicate 3 (false, .done))
    (∀ i, t.phase i = .receipt) ∧ t.global = [("pump", "/packs/pump/1.0.0")] ∧
      ¬ Consistent pumpAndValve t := by
  unfold Consistent
  decide +kernel

/-! ## Packs that nobody installs -/

/-- The installer will not rename a document without the entry, nor remove its tree. -/
def Spares (entry : String × String) (root : String) : Phase → Prop
  | .reading new => new = true → root ≠ entry.2
  | .validating new candidate | .replacing new candidate =>
    (new = true → root ≠ entry.2) ∧ entry ∈ candidate
  | .rollingBack => root ≠ entry.2
  | _ => True

/-- The entry and its tree are spared. -/
def Spared (artifact : ι → Artifact) (entry : String × String) (tree : Tree) (s : State ι) : Prop :=
  entry ∈ s.global ∧ s.trees entry.2 = some tree ∧ ∀ i, Spares entry (artifact i).root (s.phase i)

theorem spared_step {entry : String × String} {tree : Tree} (hother : ∀ i, entry.1 ≠ (artifact i).id)
    (h : Spared artifact entry tree s) (action : ι × Outcome) :
    Spared artifact entry tree (step artifact s action) := by
  obtain ⟨i, outcome⟩ := action
  obtain ⟨hentry, htree, hspares⟩ := h
  have hi := hspares i
  have hgoto {global : Document} {trees : String → Option Tree} {phase : Phase}
      (hentry : entry ∈ global) (htree : trees entry.2 = some tree)
      (hnext : Spares entry (artifact i).root phase) :
      Spared artifact entry tree (State.goto ⟨global, trees, s.phase⟩ i phase) := by
    refine ⟨hentry, htree, ?_⟩
    refine (Function.forall_update_iff s.phase fun j => Spares entry (artifact j).root).2 ?_
    exact ⟨hnext, fun j _ => hspares j⟩
  have habandon {new : Bool} (hnew : new = true → (artifact i).root ≠ entry.2) :
      Spared artifact entry tree (s.goto i (abandon new)) := by
    cases new with
    | false => exact hgoto hentry htree trivial
    | true => exact hgoto hentry htree (hnew rfl)
  cases hphase : s.phase i <;> simp only [step, hphase] <;> rw [hphase] at hi
  case loading | inspecting | verifying | resolving =>
    split_ifs <;> exact hgoto hentry htree (by simp [Spares])
  case publishing =>
    split_ifs with hok
    · -- nothing is published where there is a tree
      have hne : entry.2 ≠ (artifact i).root := by
        intro heq
        rw [heq, hok.2] at htree
        cases htree
      exact hgoto hentry ((Function.update_of_ne hne ..).trans htree) fun _ => hne.symm
    · exact hgoto hentry htree trivial
  case reading =>
    split_ifs
    · exact hgoto hentry htree ⟨hi, mem_updateActivePackValue_of_ne hentry (hother i)⟩
    · exact habandon hi
  case validating =>
    split_ifs
    · exact hgoto hentry htree hi
    · exact habandon hi.1
  case replacing =>
    split_ifs
    · exact hgoto hi.2 htree trivial
    · exact habandon hi.1
  case rollingBack => exact hgoto hentry ((Function.update_of_ne hi.symm ..).trans htree) trivial
  case failed | receipt => exact ⟨hentry, htree, hspares⟩

/-- However installers overlap and fail, an active Pack that none of them is for keeps its entry and
    its tree. -/
theorem others_stay_active (artifact : ι → Artifact) (global : Document)
    (trees : String → Option Tree) (actions : List (ι × Outcome)) :
    EveryState (step artifact)
      (fun t => ∀ entry ∈ global, (∀ i, entry.1 ≠ (artifact i).id) → ∀ tree,
        trees entry.2 = some tree → entry ∈ t.global ∧ t.trees entry.2 = some tree)
      ⟨global, trees, fun _ => .loading⟩ actions := by
  intro n hn entry hentry hother tree htree
  have hrun : EveryState (step artifact) (Spared artifact entry tree)
      ⟨global, trees, fun _ => .loading⟩ actions := by
    refine everyState_of_step (fun _ action h => spared_step hother h action) ?_ actions
    exact ⟨hentry, htree, fun _ => trivial⟩
  obtain ⟨hactive, hplace, -⟩ := hrun n hn
  exact ⟨hactive, hplace⟩

end AetherEdge.Pack
