import Mathlib.Data.List.Basic

/-!
# Windows of a Stream of Blocks

A stream is a concatenation of blocks, none of them empty. A window `[j, e)` shows what lies
between two positions of the stream, wherever these fall: it may begin and end in the middle
of a block.

A block is within the window when all of it is. The block in which the window ends is cut
short; what the window shows of it is a block that has begun, unless the window begins after
the start of that block.

## Main results

* `window_cons`, `within_cons`: what a window shows, and the blocks within it, block by block.
* `begun_eq`: what is begun, by the position at which the window ends.
-/

namespace Blocks

variable {α β : Type*}

/-! ### Positions -/

section

variable (block : α → List β)

/-- The position at which a block starts, by the number of the block. -/
def start (l : List α) (k : ℕ) : ℕ := ((l.take k).flatMap block).length

/-- What lies between two positions. -/
def window (l : List α) (j e : ℕ) : List β := ((l.flatMap block).take e).drop j

/-- All of a block, given by its number, lies between two positions. -/
abbrev Inside (l : List α) (j e k : ℕ) : Prop := j ≤ start block l k ∧ start block l (k + 1) ≤ e

/-- The blocks all of which lies between two positions, in order. -/
def within (l : List α) (j e : ℕ) : List α :=
  (l.zipIdx.filter fun p => Inside block l j e p.2).map Prod.fst

/-- What the window shows of the block in which it ends, when it shows its start. -/
def begun : List α → ℕ → ℕ → List β
  | [], _, _ => []
  | x :: l, j, e =>
      if e < (block x).length then if j = 0 then (block x).take e else []
      else begun l (j - (block x).length) (e - (block x).length)

end

variable {block : α → List β} {x : α} {l : List α} {j e : ℕ}

/-- The first block starts where the stream does. -/
@[simp] theorem start_zero (l : List α) : start block l 0 = 0 := rfl

/-- The first block comes before all others. -/
@[simp] theorem start_cons_succ (x : α) (l : List α) (k : ℕ) :
    start block (x :: l) (k + 1) = (block x).length + start block l k := by
  simp [start]

/-- Where no block is empty, a block ends after the stream starts. -/
theorem start_succ_pos (hblock : ∀ x, block x ≠ []) {k : ℕ} (hk : k < l.length) :
    0 < start block l (k + 1) := by
  cases l with
  | nil => exact absurd hk (Nat.not_lt_zero k)
  | cons x l =>
      have hpos : 0 < (block x).length := List.length_pos_iff.mpr (hblock x)
      rw [start_cons_succ]
      omega

/-! ### Block by block -/

/-- A window of the stream is a window of the first block and one of the other blocks. -/
theorem window_cons (x : α) (l : List α) (j e : ℕ) :
    window block (x :: l) j e = ((block x).take e).drop j ++
      window block l (j - (block x).length) (e - (block x).length) := by
  rw [window, List.flatMap_cons, List.take_append, List.drop_append, List.length_take, window]
  rcases Nat.le_total e (block x).length with he | he
  · -- The window ends in the first block.
    have hzero : e - (block x).length = 0 := Nat.sub_eq_zero_of_le he
    rw [hzero, List.take_zero, List.drop_nil, List.drop_nil]
  · rw [Nat.min_eq_right he]

/-- When the window ends in the first block, it shows a part of that. -/
theorem window_cons_of_lt (l : List α) (j : ℕ) (he : e < (block x).length) :
    window block (x :: l) j e = ((block x).take e).drop j := by
  have hzero : e - (block x).length = 0 := Nat.sub_eq_zero_of_le (Nat.le_of_lt he)
  rw [window_cons, hzero, window, List.take_zero, List.drop_nil, List.append_nil]

/-- The first block is inside when the window begins with the stream and is as long. -/
theorem inside_zero (x : α) (l : List α) (j e : ℕ) :
    Inside block (x :: l) j e 0 ↔ j = 0 ∧ (block x).length ≤ e := by
  rw [Inside, start_cons_succ, start_zero, start_zero]
  omega

/-- Whether another block is inside can be told without the first one. -/
theorem inside_succ (hblock : ∀ x, block x ≠ []) (x : α) (j e : ℕ) {k : ℕ}
    (hk : k < l.length) :
    Inside block (x :: l) j e (k + 1) ↔
      Inside block l (j - (block x).length) (e - (block x).length) k := by
  have hpos := start_succ_pos hblock hk
  rw [Inside, Inside, start_cons_succ, start_cons_succ]
  omega

/-- **Blocks within a window.** The first block is within the window when it is inside, and
the other blocks as they are within the rest of the window. -/
theorem within_cons (hblock : ∀ x, block x ≠ []) (x : α) (l : List α) (j e : ℕ) :
    within block (x :: l) j e =
      (if j = 0 ∧ (block x).length ≤ e then [x] else []) ++
        within block l (j - (block x).length) (e - (block x).length) := by
  have hnumbers : l.zipIdx (0 + 1) = l.zipIdx.map fun p => (p.1, p.2 + 1) := List.zipIdx_succ
  have hrest : l.zipIdx.filter (fun p => Inside block (x :: l) j e (p.2 + 1)) =
      l.zipIdx.filter
        (fun p => Inside block l (j - (block x).length) (e - (block x).length) p.2) := by
    refine List.filter_congr fun p hp => decide_eq_decide.mpr (inside_succ hblock x j e ?_)
    have := List.snd_lt_of_mem_zipIdx hp
    omega
  rw [within, within, List.zipIdx_cons, hnumbers, List.filter_cons, List.filter_map, ← hrest]
  simp only [inside_zero, decide_eq_true_eq]
  split <;> simp [Function.comp_def]

/-- When the window ends in the first block, no block is within it. -/
theorem within_cons_of_lt (hblock : ∀ x, block x ≠ []) (l : List α) (j : ℕ)
    (he : e < (block x).length) : within block (x :: l) j e = [] := by
  have hzero : e - (block x).length = 0 := Nat.sub_eq_zero_of_le (Nat.le_of_lt he)
  have hfirst : ¬ (j = 0 ∧ (block x).length ≤ e) := by omega
  have hrest : ∀ p ∈ l.zipIdx,
      ¬ (decide (Inside block l (j - (block x).length) 0 p.2) = true) := by
    intro p hp hinside
    have hk := List.snd_lt_of_mem_zipIdx hp
    have hpos := start_succ_pos (k := p.2) hblock (by omega)
    have hend := (of_decide_eq_true hinside).2
    omega
  rw [within_cons hblock, hzero, if_neg hfirst, List.nil_append, within,
    List.filter_eq_nil_iff.mpr hrest, List.map_nil]

/-! ### The block that is begun -/

theorem begun_cons_of_lt (l : List α) (he : e < (block x).length) :
    begun block (x :: l) j e = if j = 0 then (block x).take e else [] := by
  rw [begun, if_pos he]

theorem begun_cons_of_le (l : List α) (j : ℕ) (he : (block x).length ≤ e) :
    begun block (x :: l) j e =
      begun block l (j - (block x).length) (e - (block x).length) := by
  rw [begun, if_neg (Nat.not_lt.mpr he)]

/-- A window that ends in a block shows the beginning of that block, unless the window begins
after the start of the block. -/
theorem begun_eq {k : ℕ} (hk : k < l.length) (hstart : start block l k ≤ e)
    (hend : e < start block l (k + 1)) :
    begun block l j e =
      if j ≤ start block l k then (block l[k]).take (e - start block l k) else [] := by
  induction l generalizing k j e with
  | nil => exact absurd hk (Nat.not_lt_zero k)
  | cons x l ih =>
      rw [start_cons_succ] at hend
      cases k with
      | zero =>
          rw [begun_cons_of_lt l hend]
          simp
      | succ k =>
          have hk : k < l.length := Nat.lt_of_succ_lt_succ hk
          rw [start_cons_succ] at hstart ⊢
          have hle : (block x).length ≤ e := by omega
          have hsub : e - ((block x).length + start block l k) =
              e - (block x).length - start block l k := by omega
          have hiff : j ≤ (block x).length + start block l k ↔
              j - (block x).length ≤ start block l k := by omega
          rw [begun_cons_of_le l j hle, ih hk (by omega) (by omega), List.getElem_cons_succ, hsub]
          simp only [hiff]

/-- Between two blocks nothing is begun. -/
theorem begun_start (hblock : ∀ x, block x ≠ []) {k : ℕ} (hk : k ≤ l.length) :
    begun block l j (start block l k) = [] := by
  induction l generalizing k j with
  | nil => rfl
  | cons x l ih =>
      cases k with
      | zero =>
          have hpos : 0 < (block x).length := List.length_pos_iff.mpr (hblock x)
          rw [start_zero, begun_cons_of_lt l hpos, List.take_zero, ite_self]
      | succ k =>
          rw [start_cons_succ, begun_cons_of_le l j (Nat.le_add_right _ _),
            Nat.add_sub_cancel_left]
          exact ih (Nat.le_of_succ_le_succ hk)

end Blocks
