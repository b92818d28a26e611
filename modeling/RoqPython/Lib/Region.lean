import Mathlib.Data.List.Basic

/-!
# Regions and Views

A store of named regions: `ρ` is the type of names, and a region that is alive holds a
list of elements. A view is a reference into the store, a triple of region, offset and
length, which resolves to a slice of what the region holds at that time. A view does not
keep its region alive and does not see whether the region was written since.

An empty view refers to nothing and resolves to the empty list in every store.

## Main results

* `View.resolve_whole`: the view of a whole live region resolves to what the region holds.
* `View.resolve_congr`: what a view resolves to depends on its own region only.
* `View.resolve_of_length_eq_zero`, `View.resolve_dead`: an empty view always resolves, a
  non-empty view of a dead region never does.
-/

namespace Region

/-- A store of regions: the content of each live region. -/
abbrev Store (ρ α : Type) := ρ → Option (List α)

/-- A reference to a part of a region. -/
structure View (ρ : Type) where
  region : ρ
  offset : ℕ
  length : ℕ
deriving DecidableEq

namespace View

variable {ρ α : Type}

/-- The view of a whole region with `n` elements. -/
def whole (r : ρ) (n : ℕ) : View ρ := ⟨r, 0, n⟩

/-- What a view reads in a store: nothing when its region is dead or too short. -/
def resolve (store : Store ρ α) (v : View ρ) : Option (List α) :=
  if v.length = 0 then some []
  else (store v.region).bind fun xs =>
    if v.offset + v.length ≤ xs.length then some ((xs.drop v.offset).take v.length)
    else none

theorem resolve_of_length_eq_zero {store : Store ρ α} {v : View ρ} (h : v.length = 0) :
    v.resolve store = some [] := if_pos h

theorem resolve_dead {store : Store ρ α} {v : View ρ} (hv : v.length ≠ 0)
    (h : store v.region = none) : v.resolve store = none := by
  rw [resolve, if_neg hv, h, Option.bind_none]

/-- A view of a live region that is long enough reads its slice. -/
theorem resolve_slice {store : Store ρ α} {v : View ρ} {xs : List α}
    (h : store v.region = some xs) (hlen : v.offset + v.length ≤ xs.length) :
    v.resolve store = some ((xs.drop v.offset).take v.length) := by
  by_cases hv : v.length = 0
  · rw [resolve_of_length_eq_zero hv, hv, List.take_zero]
  · rw [resolve, if_neg hv, h, Option.bind_some, if_pos hlen]

/-- **Whole regions.** -/
theorem resolve_whole {store : Store ρ α} {r : ρ} {xs : List α} (h : store r = some xs) :
    (whole r xs.length).resolve store = some xs := by
  rw [resolve_slice (v := whole r xs.length) h (by simp [whole])]
  simp [whole]

/-- **Frame rule.** What a view reads depends on its own region only. -/
theorem resolve_congr {store₁ store₂ : Store ρ α} {v : View ρ}
    (h : store₁ v.region = store₂ v.region) : v.resolve store₁ = v.resolve store₂ := by
  rw [resolve, resolve, h]

/-- A view that resolves to its slice has the length it says. -/
theorem length_of_resolve {store : Store ρ α} {v : View ρ} {xs : List α}
    (h : v.resolve store = some xs) : xs.length = v.length := by
  by_cases hv : v.length = 0
  · rw [resolve_of_length_eq_zero hv, Option.some.injEq] at h
    rw [← h, hv, List.length_nil]
  · rw [resolve, if_neg hv, Option.bind_eq_some_iff] at h
    obtain ⟨ys, -, h⟩ := h
    by_cases hlen : v.offset + v.length ≤ ys.length
    · rw [if_pos hlen, Option.some.injEq] at h
      rw [← h, List.length_take, List.length_drop]
      omega
    · rw [if_neg hlen] at h
      cases h

end View

/-! ### Stores given by bindings -/

/-- With unique names, every binding is the one that its name looks up. -/
theorem lookup_of_mem {ρ β : Type} [BEq ρ] [LawfulBEq ρ] {bindings : List (ρ × β)}
    (hnodup : (bindings.map Prod.fst).Nodup) {p : ρ × β} (hp : p ∈ bindings) :
    bindings.lookup p.1 = some p.2 := by
  induction bindings with
  | nil => cases hp
  | cons q bindings ih =>
      rw [List.map_cons, List.nodup_cons] at hnodup
      obtain ⟨hq, hnodup⟩ := hnodup
      rw [List.lookup_cons]
      rcases List.mem_cons.mp hp with rfl | hp
      · simp
      · have hne : p.1 ≠ q.1 := fun h => hq (h ▸ List.mem_map_of_mem hp)
        simpa [beq_false_of_ne hne] using ih hnodup hp

end Region
