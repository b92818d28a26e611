import Mathlib.Data.List.Destutter
import Mathlib.Logic.Function.Basic
import Mathlib.Order.Lattice

/-!
# Groups of a Sorted Stream

A store has a value for each key. It is changed at the key that a stream is at, and when the
stream goes on to another key, the value of the key that it leaves is reported. When the keys
come in order, no key that was left is changed any more, and the reports are final.

## Main results

* `pairwise_left`: the keys that a sorted stream leaves are in order, and each is left once.
* `lt_of_mem_left`: a key that was left is below everything that is yet to come.
* `reported_foldl`: what is reported of a key is what the store has under it in the end.
-/

namespace Groups

variable {K β : Type*} [LinearOrder K]

/-! ### Keys that are left -/

/-- The keys that are left by a stream that begins at a key and goes through others. -/
def left (last : K) (keys : List K) : List K := (keys.destutter' (· ≠ ·) last).dropLast

@[simp]
theorem left_nil (last : K) : left last [] = [] := rfl

theorem left_cons_self (last : K) (keys : List K) :
    left last (last :: keys) = left last keys := by
  rw [left, List.destutter'_cons_neg _ (not_not.mpr rfl), left]

theorem left_cons_of_ne {last key : K} (h : last ≠ key) (keys : List K) :
    left last (key :: keys) = last :: left key keys := by
  rw [left, List.destutter'_cons_pos _ h,
    List.dropLast_cons_of_ne_nil (List.destutter'_ne_nil _ _), left]

theorem mem_of_mem_left {last k : K} {keys : List K} (h : k ∈ left last keys) :
    k ∈ last :: keys :=
  (List.destutter'_sublist _ _ last).subset (List.dropLast_subset _ h)

/-- **Order.** -/
theorem pairwise_left {last : K} {keys : List K} (h : (last :: keys).Pairwise (· ≤ ·)) :
    (left last keys).Pairwise (· < ·) := by
  induction keys generalizing last with
  | nil => exact List.Pairwise.nil
  | cons key keys ih =>
      obtain ⟨hlast, hkeys⟩ := List.pairwise_cons.mp h
      by_cases hne : last = key
      · rw [hne, left_cons_self]
        exact ih hkeys
      · rw [left_cons_of_ne hne, List.pairwise_cons]
        refine ⟨fun k hk => ?_, ih hkeys⟩
        have hlt : last < key := lt_of_le_of_ne (hlast key List.mem_cons_self) hne
        rcases List.mem_cons.mp (mem_of_mem_left hk) with rfl | hmem
        · exact hlt
        · exact lt_of_lt_of_le hlt ((List.pairwise_cons.mp hkeys).1 k hmem)

/-- **Bounds.** A key that was left is below every upper bound of the keys. -/
theorem lt_of_mem_left {last k bound : K} {keys : List K}
    (hbound : ∀ key ∈ last :: keys, key ≤ bound) (hsorted : (last :: keys).Pairwise (· ≤ ·))
    (hk : k ∈ left last keys) : k < bound := by
  induction keys generalizing last with
  | nil => cases hk
  | cons key keys ih =>
      obtain ⟨hlast, hkeys⟩ := List.pairwise_cons.mp hsorted
      have hrest := ih (fun k hk => hbound k (List.mem_cons_of_mem _ hk)) hkeys
      by_cases hne : last = key
      · rw [hne, left_cons_self] at hk
        exact hrest hk
      · rw [left_cons_of_ne hne] at hk
        rcases List.mem_cons.mp hk with rfl | hk
        · exact lt_of_lt_of_le (lt_of_le_of_ne (hlast key List.mem_cons_self) hne)
            (hbound key (List.mem_cons_of_mem _ List.mem_cons_self))
        · exact hrest hk

/-! ### Reports -/

/-- The key that the stream is at, the store, and what was reported. -/
structure State (K β : Type*) where
  last : K
  store : K → β
  reported : List β

/-- The stream goes on to a key, or the value of a key is changed. -/
inductive Operation (K β : Type*)
  | advance (key : K)
  | change (key : K) (f : β → β)

/-- The key of an operation. -/
def Operation.key : Operation K β → K
  | .advance key => key
  | .change key _ => key

/-- The key that an operation advances to. -/
def Operation.advance? : Operation K β → Option K
  | .advance key => some key
  | .change _ _ => none

/-- One operation. -/
def step (self : State K β) : Operation K β → State K β
  | .advance key =>
      if key ≠ self.last then
        { self with reported := self.reported ++ [self.store self.last], last := key }
      else self
  | .change key f =>
      { self with store := Function.update self.store key (f (self.store key)) }

variable {self : State K β}

theorem store_step_of_ne {operation : Operation K β} {k : K} (h : operation.key ≠ k) :
    (step self operation).store k = self.store k := by
  cases operation with
  | advance key =>
      rw [step]
      split <;> rfl
  | change key f => exact Function.update_of_ne (Ne.symm h) _ _

/-- A key is not changed by operations on other keys. -/
theorem store_foldl_of_ne {operations : List (Operation K β)} {k : K}
    (h : ∀ operation ∈ operations, operation.key ≠ k) :
    (operations.foldl step self).store k = self.store k := by
  induction operations generalizing self with
  | nil => rfl
  | cons operation operations ih =>
      rw [List.foldl_cons, ih fun op hop => h op (List.mem_cons_of_mem _ hop),
        store_step_of_ne (h operation List.mem_cons_self)]

/-- **Final reports.** When the keys of the operations come in order, the keys that are left
are reported with the values that they have in the end. -/
theorem reported_foldl {operations : List (Operation K β)}
    (hsorted : (self.last :: operations.map Operation.key).Pairwise (· ≤ ·)) :
    (operations.foldl step self).reported = self.reported ++
      (left self.last (operations.filterMap Operation.advance?)).map
        (operations.foldl step self).store := by
  induction operations generalizing self with
  | nil => rw [List.foldl_nil, List.filterMap_nil, left_nil, List.map_nil, List.append_nil]
  | cons operation operations ih =>
      obtain ⟨hlast, hkeys⟩ := List.pairwise_cons.mp hsorted
      rw [List.foldl_cons]
      cases operation with
      | change key f =>
          refine ih (List.pairwise_cons.mpr ⟨fun k hk => ?_, (List.pairwise_cons.mp hkeys).2⟩)
          exact hlast k (List.mem_cons_of_mem _ hk)
      | advance key =>
          have hadvance : (Operation.advance key :: operations).filterMap Operation.advance? =
              key :: operations.filterMap Operation.advance? := rfl
          rw [hadvance]
          by_cases hne : self.last = key
          · have hstep : step self (.advance key) = self := if_neg (not_not.mpr hne.symm)
            rw [hstep, ← hne, left_cons_self]
            exact ih (by rwa [hne])
          · have hstep : step self (.advance key) =
                { self with reported := self.reported ++ [self.store self.last], last := key } :=
              if_pos (Ne.symm hne)
            have hlt : self.last < key :=
              lt_of_le_of_ne (hlast key List.mem_cons_self) hne
            -- The key that is left is below the keys of all further operations.
            have hfinal : (operations.foldl step (step self (.advance key))).store self.last =
                self.store self.last := by
              rw [store_foldl_of_ne, hstep]
              intro op hop
              have hle : key ≤ op.key :=
                (List.pairwise_cons.mp hkeys).1 _ (List.mem_map_of_mem hop)
              exact (lt_of_lt_of_le hlt hle).ne'
            have hlater : ((step self (.advance key)).last ::
                operations.map Operation.key).Pairwise (· ≤ ·) := by
              rw [hstep]
              exact hkeys
            rw [left_cons_of_ne hne, List.map_cons, hfinal, ih hlater, hstep, List.append_assoc,
              List.singleton_append]

end Groups
