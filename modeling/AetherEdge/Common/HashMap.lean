import Mathlib.Logic.Function.Basic

/-!
# Hash maps with text keys

A `HashMap<String, V>` that is only asked for the value of a key is the partial function it
represents.
-/

namespace AetherEdge

open List

/-- A `HashMap<String, V>`. -/
def HashMap (V : Type) : Type := String → Option V

namespace HashMap

variable {V W : Type}

/-- `HashMap::new()`. -/
def empty : HashMap V := fun _ => none

/-- `HashMap::get`. -/
def get (map : HashMap V) (key : String) : Option V := map key

/-- `HashMap::insert`. -/
def insert (map : HashMap V) (key : String) (value : V) : HashMap V :=
  fun other => if other = key then some value else map other

/-- `HashMap::extend`. -/
def extend (map other : HashMap V) : HashMap V := fun key => (other key).or (map key)

/-- `map.iter().filter_map(..)` on the values, collected under the same keys. -/
def filterMap (map : HashMap V) (f : V → Option W) : HashMap W := fun key => (map key).bind f

@[simp] theorem get_empty (key : String) : (empty : HashMap V).get key = none := rfl

@[simp] theorem get_insert (map : HashMap V) (key other : String) (value : V) :
    (map.insert key value).get other = if other = key then some value else map.get other := rfl

@[simp] theorem get_extend (map other : HashMap V) (key : String) :
    (map.extend other).get key = (other.get key).or (map.get key) := rfl

@[simp] theorem get_filterMap (map : HashMap V) (f : V → Option W) (key : String) :
    (map.filterMap f).get key = (map.get key).bind f := rfl

/-! ## Filling a map from a list -/

section Fill

variable {α : Type} {k : α → String} {v : α → Option V} {key : String} {l : List α}

/-- `map.insert(key, value)` if there is a value. -/
def insertSome (map : HashMap V) (key : String) : Option V → HashMap V
  | some value => map.insert key value
  | none => map

variable (map : HashMap V)

theorem get_insertSome (key other : String) (value : Option V) :
    (map.insertSome key value).get other =
      if other = key then value.or (map.get other) else map.get other := by
  cases value with
  | none | some => simp [insertSome]

/-- The entries of `l` that have a value, inserted in order. -/
def fill (map : HashMap V) (l : List α) (k : α → String) (v : α → Option V) : HashMap V :=
  l.foldl (fun map a => map.insertSome (k a) (v a)) map

@[simp] theorem fill_cons (a : α) :
    map.fill (a :: l) k v = (map.insertSome (k a) (v a)).fill l k v := rfl

/-- A key whose entries have no value keeps what it had. -/
theorem get_fill_of_none (h : ∀ a ∈ l, k a = key → v a = none) :
    (map.fill l k v).get key = map.get key := by
  induction l generalizing map with
  | nil => rfl
  | cons a l ih =>
    rw [fill_cons, ih _ fun b hb => h b (mem_cons_of_mem _ hb), get_insertSome]
    by_cases hkey : key = k a
    · rw [if_pos hkey, h a mem_cons_self hkey.symm, Option.none_or]
    · rw [if_neg hkey]

/-- A key whose entries all have the same value gets it. -/
theorem get_fill_of_mem {value : V} (hmem : ∃ a ∈ l, k a = key)
    (h : ∀ a ∈ l, k a = key → v a = some value) : (map.fill l k v).get key = some value := by
  induction l generalizing map with
  | nil => obtain ⟨a, ha, -⟩ := hmem; cases ha
  | cons a l ih =>
    rw [fill_cons]
    by_cases hlat : ∃ b ∈ l, k b = key
    · exact ih _ hlat fun b hb => h b (mem_cons_of_mem _ hb)
    have hkey : k a = key := by
      obtain ⟨b, hb, hkey⟩ := hmem
      rcases mem_cons.1 hb with hb | hb
      · rw [← hb]; exact hkey
      · exact absurd ⟨b, hb, hkey⟩ hlat
    rw [get_fill_of_none _ fun b hb hbk => absurd ⟨b, hb, hbk⟩ hlat, get_insertSome,
      if_pos hkey.symm, h a mem_cons_self hkey, Option.some_or]

end Fill

end HashMap

end AetherEdge
