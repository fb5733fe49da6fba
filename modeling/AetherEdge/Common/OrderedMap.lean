import Mathlib

/-!
# Ordered maps

A Rust `BTreeMap<K, V>` is modelled by `Std.ExtTreeMap`: equality is extensional and
iteration is in key order. This file adds the iterator idioms the code uses and the
facts about them that do not depend on what is stored:

* `firstKey`: `map.keys().next().copied()`;
* `values`: `map.values()`;
* `rangeFrom`, `rangeTo`: `map.range(k..)` and the keys of `map.range(..=k)`;
* `eraseAll`: `for key in &keys { map.remove(key); }`;
* `binarySearch`: `slice.binary_search(&key)` on a slice without repetitions;
* `keys_of_interval` and its corollaries: maps on `ℕ` whose key set is `[a, b)`.
-/

namespace AetherEdge.OrderedMap

open Std Std.ExtTreeMap

section General

variable {κ α : Type} {cmp : κ → κ → Ordering} [TransCmp cmp]

/-- `map.keys().next().copied()`. -/
def firstKey (m : ExtTreeMap κ α cmp) : Option κ := m.keys.head?

/-- `map.values()`, in key order. -/
def values (m : ExtTreeMap κ α cmp) : List α := m.toList.map Prod.snd

/-- `for key in &keys { map.remove(key); }`. -/
def eraseAll (m : ExtTreeMap κ α cmp) (ks : List κ) : ExtTreeMap κ α cmp :=
  ks.foldl (fun m k => m.erase k) m

variable {m : ExtTreeMap κ α cmp}

theorem mem_iff_getElem? {k : κ} : k ∈ m ↔ ∃ v, m[k]? = some v := by
  rw [mem_iff_isSome_getElem?, Option.isSome_iff_exists]

theorem mem_of_getElem? {k : κ} {v : α} (h : m[k]? = some v) : k ∈ m :=
  mem_iff_getElem?.2 ⟨v, h⟩

theorem firstKey_eq_none : firstKey m = none ↔ m = ∅ := by
  simp [firstKey, List.head?_eq_none_iff, keys_eq_nil_iff]

variable [LawfulEqCmp cmp]

theorem mem_values {v : α} : v ∈ values m ↔ ∃ k : κ, m[k]? = some v := by
  simp [values, mem_toList_iff_getElem?_eq_some]

theorem firstKey_eq_some {k : κ} : firstKey m = some k ↔ k ∈ m ∧ ∀ k' ∈ m, (cmp k k').isLE := by
  rw [firstKey, ← minKey?_eq_head?_keys, minKey?_eq_some_iff_mem_and_forall]

variable (cmp) in
omit [TransCmp cmp] in
theorem compare_ne_eq {k k' : κ} (h : k ≠ k') : cmp k k' ≠ .eq :=
  fun h' => h (LawfulEqCmp.eq_of_compare h')

theorem getElem?_eraseAll (m : ExtTreeMap κ α cmp) (ks : List κ) (k : κ) [DecidableEq κ] :
    (eraseAll m ks)[k]? = if k ∈ ks then none else m[k]? := by
  induction ks generalizing m with
  | nil => simp [eraseAll]
  | cons k' ks ih =>
    have hstep : eraseAll m (k' :: ks) = eraseAll (m.erase k') ks := rfl
    rw [hstep, ih, getElem?_erase]
    by_cases h : k' = k
    · subst h; simp
    · simp [compare_ne_eq cmp h, Ne.symm h]

/-- The entries found after inserting a list of entries with distinct keys. -/
theorem getElem?_foldl_insert {l : List (κ × α)} (hl : l.Pairwise (fun a b => a.1 ≠ b.1))
    (acc : ExtTreeMap κ α cmp) (k : κ) (v : α) :
    (l.foldl (fun acc e => acc.insert e.1 e.2) acc)[k]? = some v ↔
      (k, v) ∈ l ∨ (acc[k]? = some v ∧ ∀ e ∈ l, e.1 ≠ k) := by
  induction l generalizing acc with
  | nil => simp
  | cons e l ih =>
    obtain ⟨he, hl⟩ := List.pairwise_cons.1 hl
    rw [List.foldl_cons, ih hl, getElem?_insert]
    by_cases h : e.1 = k
    · subst h
      have hfr : (e.1, v) ∉ l := fun hm => he _ hm rfl
      have hall : ∀ e' ∈ l, e'.1 ≠ e.1 := fun e' hm => (he e' hm).symm
      simp only [ReflCmp.compare_self, ↓reduceIte, List.mem_cons, hfr, false_or, or_false]
      constructor
      · rintro ⟨hv, -⟩
        left; cases hv; rfl
      · rintro (hv | ⟨-, hne⟩)
        · rw [← hv]; exact ⟨rfl, hall⟩
        · exact absurd rfl (hne e (by simp))
    · have hne : (k, v) ≠ e := fun h' => h (by rw [← h'])
      simp [compare_ne_eq cmp h, hne, h]

theorem pairwise_fst_ne_toList (m : ExtTreeMap κ α cmp) :
    m.toList.Pairwise (fun a b => a.1 ≠ b.1) := by
  apply m.distinct_keys_toList.imp
  intro a b hne heq
  rw [heq] at hne
  exact hne ReflCmp.compare_self

theorem foldl_insert_toList (m : ExtTreeMap κ α cmp) :
    m.toList.foldl (fun acc e => acc.insert e.1 e.2) ∅ = m := by
  apply ext_getElem?
  intro k
  apply Option.ext
  intro v
  rw [getElem?_foldl_insert (pairwise_fst_ne_toList m), mem_toList_iff_getElem?_eq_some]
  simp

end General

/-! ## Sorted slices -/

section Slices

variable {α : Type} [DecidableEq α]

/-- `slice.binary_search(&key).ok()` on a sorted slice without repetitions: where the key is. -/
def binarySearch (l : List α) (key : α) : Option ℕ := l.findIdx? (fun a => decide (a = key))

theorem binarySearch_eq_some_iff {l : List α} (h : l.Nodup) {key : α} {i : ℕ} :
    binarySearch l key = some i ↔ l[i]? = some key := by
  rw [binarySearch, List.findIdx?_eq_some_iff_getElem]
  constructor
  · rintro ⟨hi, hkey, -⟩
    rw [List.getElem?_eq_getElem hi, of_decide_eq_true hkey]
  · intro hi
    obtain ⟨hlt, hkey⟩ := List.getElem?_eq_some_iff.1 hi
    refine ⟨hlt, by simpa using hkey, fun j hj => ?_⟩
    -- an earlier occurrence would be a repetition
    have hne : l[j] ≠ key := by
      intro heq
      have hij : j = i := h.getElem_inj_iff.1 (heq.trans hkey.symm)
      omega
    simpa using hne

end Slices

/-! ## Maps on `ℕ` -/

section Nat

variable {α : Type}

/-- `map.range(k..)`. -/
def rangeFrom (m : ExtTreeMap ℕ α) (k : ℕ) : List (ℕ × α) := m.toList.filter fun e => k ≤ e.1

/-- The keys of `map.range(..=k)`. -/
def rangeTo (m : ExtTreeMap ℕ α) (k : ℕ) : List ℕ := m.keys.filter fun key => key ≤ k

variable {m : ExtTreeMap ℕ α}

theorem mem_rangeTo {k p : ℕ} : p ∈ rangeTo m k ↔ p ∈ m ∧ p ≤ k := by
  simp [rangeTo, mem_keys]

theorem firstKey_nat {k : ℕ} : firstKey m = some k ↔ k ∈ m ∧ ∀ k' ∈ m, k ≤ k' := by
  simp [firstKey_eq_some, Nat.isLE_compare]

theorem getElem?_insert_nat (m : ExtTreeMap ℕ α) (k p : ℕ) (v : α) :
    (m.insert k v)[p]? = if k = p then some v else m[p]? := by
  simp [getElem?_insert]

theorem getElem?_erase_nat (m : ExtTreeMap ℕ α) (k p : ℕ) :
    (m.erase k)[p]? = if k = p then none else m[p]? := by
  simp [getElem?_erase]

theorem keys_sorted (m : ExtTreeMap ℕ α) : m.keys.Pairwise (· < ·) :=
  m.ordered_keys.imp Nat.compare_eq_lt.1

/-- A map whose keys are the interval `[a, b)` lists them in order. -/
theorem keys_of_interval {a b : ℕ} (h : ∀ p, p ∈ m ↔ a ≤ p ∧ p < b) :
    m.keys = List.range' a (b - a) := by
  apply List.Pairwise.eq_of_mem_iff (keys_sorted m) List.pairwise_lt_range'
  intro p
  rw [mem_keys, h, List.mem_range'_1]
  omega

theorem size_of_interval {a b : ℕ} (h : ∀ p, p ∈ m ↔ a ≤ p ∧ p < b) : m.size = b - a := by
  rw [← length_keys, keys_of_interval h, List.length_range']

theorem firstKey_of_interval {a b : ℕ} (h : ∀ p, p ∈ m ↔ a ≤ p ∧ p < b) (hab : a < b) :
    firstKey m = some a :=
  firstKey_nat.2 ⟨(h a).2 ⟨le_rfl, hab⟩, fun _ hk => ((h _).1 hk).1⟩

/-- The entries from `p` on of a map with keys `[a, b)`, when `a ≤ p`: consecutive keys
    starting at `p`. -/
theorem rangeFrom_of_interval {a b p : ℕ} (h : ∀ q, q ∈ m ↔ a ≤ q ∧ q < b) (hp : a ≤ p) :
    (rangeFrom m p).map Prod.fst = List.range' p (b - p) := by
  have hkeys : (rangeFrom m p).map Prod.fst = m.keys.filter fun k => p ≤ k := by
    rw [rangeFrom, ← map_fst_toList_eq_keys, List.filter_map]
    rfl
  rw [hkeys]
  apply List.Pairwise.eq_of_mem_iff ((keys_sorted m).filter _) List.pairwise_lt_range'
  intro q
  rw [List.mem_filter, mem_keys, h, List.mem_range'_1]
  simp only [decide_eq_true_eq]
  omega

end Nat

end AetherEdge.OrderedMap
