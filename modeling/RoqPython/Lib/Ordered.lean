import Mathlib.Data.Finmap
import Mathlib.Data.Finset.Sort
import Mathlib.Data.List.Sort

/-!
# Ordered Containers

The ordered set and map of a language whose containers iterate in the order of their keys. A
set is a `Finset` and a map a `Finmap`; to iterate is to sort. A map from keys to sets iterates
as a list of pairs.

## Main results

* `lookup_ofEntries`: of the entries with one key, a map that is built by `emplace` has the
  first.
* `pairs_eq_iff`: two maps of sets iterate alike exactly when they have the same pairs.
-/

namespace Ordered

variable {K R β : Type*} [LinearOrder K] [LinearOrder R]

/-! ### Maps -/

/-- `emplace`: an entry is added unless there is one with its key. -/
def emplace (self : Finmap fun _ : K => β) (entry : K × β) : Finmap fun _ : K => β :=
  if entry.1 ∈ self then self else self.insert entry.1 entry.2

/-- A map with the given entries, one emplaced after the other. -/
def ofEntries (entries : List (K × β)) : Finmap fun _ : K => β :=
  entries.foldl emplace ∅

theorem lookup_emplace (self : Finmap fun _ : K => β) (entry : K × β) (k : K) :
    (emplace self entry).lookup k =
      (self.lookup k).or (if k = entry.1 then some entry.2 else none) := by
  obtain ⟨key, value⟩ := entry
  rw [emplace]
  by_cases hk : k = key
  · subst hk
    by_cases hmem : k ∈ self
    · obtain ⟨b, hb⟩ := Finmap.mem_iff.mp hmem
      rw [if_pos hmem, hb, Option.some_or]
    · rw [if_neg hmem, Finmap.lookup_insert, Finmap.lookup_eq_none.mpr hmem, Option.none_or,
        if_pos rfl]
  · rw [if_neg hk, Option.or_none]
    split
    · rfl
    · exact Finmap.lookup_insert_of_ne self hk

/-- **First wins.** A key has the value of the first entry with it. -/
theorem lookup_ofEntries (entries : List (K × β)) (k : K) :
    (ofEntries entries).lookup k = entries.lookup k := by
  have hfold : ∀ self : Finmap fun _ : K => β,
      (entries.foldl emplace self).lookup k = (self.lookup k).or (entries.lookup k) := by
    induction entries with
    | nil =>
        intro self
        rw [List.foldl_nil, List.lookup_nil, Option.or_none]
    | cons entry entries ih =>
        intro self
        obtain ⟨key, value⟩ := entry
        rw [List.foldl_cons, ih, lookup_emplace, Option.or_assoc, List.lookup_cons]
        by_cases hk : k = key
        · subst hk
          simp
        · have hne : (k == key) = false := beq_eq_false_iff_ne.mpr hk
          rw [if_neg hk, Option.none_or, hne]
  rw [ofEntries, hfold, Finmap.lookup_empty, Option.none_or]

/-! ### Maps of sets -/

/-- The order in which a map of sets iterates: by key, and under one key by value. -/
def Before (a b : K × R) : Prop := a.1 < b.1 ∨ a.1 = b.1 ∧ a.2 < b.2

instance : Std.Irrefl (Before : K × R → K × R → Prop) where
  irrefl := by
    rintro ⟨k, r⟩ (h | ⟨-, h⟩)
    · exact lt_irrefl k h
    · exact lt_irrefl r h

instance : Std.Antisymm (Before : K × R → K × R → Prop) where
  antisymm := by
    rintro ⟨k, r⟩ ⟨k', r'⟩ (h | ⟨h, hr⟩) (h' | ⟨h', hr'⟩)
    · exact absurd (lt_trans h h') (lt_irrefl k)
    · exact absurd h (h'.not_gt)
    · exact absurd h' (h.not_gt)
    · exact absurd (lt_trans hr hr') (lt_irrefl r)

/-- The pairs of a map of sets, in the order of the iteration. -/
def pairs (self : Finmap fun _ : K => Finset R) : List (K × R) :=
  self.keys.sort.flatMap fun key => ((self.lookup key).getD ∅).sort.map fun value => (key, value)

variable {self other : Finmap fun _ : K => Finset R}

theorem mem_pairs {pair : K × R} :
    pair ∈ pairs self ↔ pair.2 ∈ (self.lookup pair.1).getD ∅ := by
  obtain ⟨key, value⟩ := pair
  simp only [pairs, List.mem_flatMap, List.mem_map, Finset.mem_sort, Prod.mk.injEq]
  constructor
  · rintro ⟨key, -, value, hvalue, rfl, rfl⟩
    exact hvalue
  · intro hvalue
    refine ⟨key, ?_, value, hvalue, rfl, rfl⟩
    by_contra hkey
    rw [Finmap.lookup_eq_none.mpr (mt Finmap.mem_keys.mpr hkey)] at hvalue
    simp at hvalue

/-- The pairs come in strictly increasing order, so each comes once. -/
theorem pairwise_pairs : (pairs self).Pairwise Before := by
  rw [pairs, List.pairwise_flatMap]
  refine ⟨?_, ?_⟩
  · intro key _
    refine List.pairwise_map.mpr ((Finset.sortedLT_sort _).pairwise.imp ?_)
    intro a b hab
    exact .inr ⟨rfl, hab⟩
  · refine (Finset.sortedLT_sort _).pairwise.imp ?_
    intro key key' hkey a ha b hb
    obtain ⟨-, -, rfl⟩ := List.mem_map.mp ha
    obtain ⟨-, -, rfl⟩ := List.mem_map.mp hb
    exact .inl hkey

/-- **Maps of sets.** What a map iterates over depends on its pairs only: neither on the order
in which it was built, nor on keys without values. -/
theorem pairs_eq_iff :
    pairs self = pairs other ↔
      ∀ key value, value ∈ (self.lookup key).getD ∅ ↔ value ∈ (other.lookup key).getD ∅ := by
  constructor
  · intro h key value
    have hself : (key, value) ∈ pairs self ↔ value ∈ (self.lookup key).getD ∅ := mem_pairs
    rw [← hself, h, mem_pairs]
  · intro h
    refine pairwise_pairs.eq_of_mem_iff pairwise_pairs fun pair => ?_
    rw [mem_pairs, mem_pairs]
    exact h pair.1 pair.2

end Ordered
