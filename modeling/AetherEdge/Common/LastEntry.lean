import Mathlib.Data.List.Nodup

/-!
# Maps collected from a list

`entries.into_iter().collect::<HashMap<_, _>>()` inserts one entry after the other: of several
entries under a key the last one stays. A map that is only asked for values is the lookup of the
last entry.
-/

namespace AetherEdge

open List

variable {κ V : Type*} [DecidableEq κ]

/-- The value under a key in the map that is collected from the entries. -/
def lastEntry (entries : List (κ × V)) (key : κ) : Option V :=
  (entries.reverse.find? fun entry => decide (entry.1 = key)).map Prod.snd

theorem lastEntry_append (first second : List (κ × V)) (key : κ) :
    lastEntry (first ++ second) key = (lastEntry second key).or (lastEntry first key) := by
  unfold lastEntry
  rw [reverse_append, find?_append, Option.map_or]

variable {entries : List (κ × V)}

theorem mem_of_lastEntry {key : κ} {value : V} (h : lastEntry entries key = some value) :
    (key, value) ∈ entries := by
  obtain ⟨⟨found, value'⟩, hfind, rfl⟩ := Option.map_eq_some_iff.1 h
  obtain rfl : found = key := by simpa using find?_some hfind
  exact mem_reverse.1 (mem_of_find?_eq_some hfind)

theorem lastEntry_eq_none {key : κ} :
    lastEntry entries key = none ↔ ∀ value, (key, value) ∉ entries := by
  unfold lastEntry
  rw [Option.map_eq_none_iff, find?_eq_none]
  constructor
  · intro h value hmem
    exact absurd (decide_eq_true rfl) (h (key, value) (mem_reverse.2 hmem))
  · rintro h ⟨other, value⟩ hmem hkey
    obtain rfl : other = key := by simpa using hkey
    exact h value (mem_reverse.1 hmem)

/-- Where no key repeats, the value is that of the entry. -/
theorem lastEntry_of_mem (hnodup : (entries.map Prod.fst).Nodup) {key : κ} {value : V}
    (hmem : (key, value) ∈ entries) : lastEntry entries key = some value := by
  cases hlast : lastEntry entries key with
  | none => exact absurd hmem (lastEntry_eq_none.1 hlast value)
  | some other =>
    have heq := inj_on_of_nodup_map hnodup (mem_of_lastEntry hlast) hmem rfl
    rw [show other = value from congrArg Prod.snd heq]

end AetherEdge
