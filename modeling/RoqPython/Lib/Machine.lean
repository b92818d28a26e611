import Mathlib.Data.List.Basic
import Mathlib.Logic.Function.Basic

/-!
# Deterministic Machines

A deterministic machine is a step function `step : σ → ι → σ`, and the run of a machine
over a list of inputs is `List.foldl step`. This module collects the rules by which facts
about one step become facts about a whole run:

* an invariant kept by every admissible step is kept by every admissible run, also an
  invariant that speaks of the number of inputs so far, or of two machines side by side;
* inputs that leave the state as it is may be deleted from a run (`prune`);
* a store of machines indexed by a key runs each of them on its own inputs only, whatever
  the interleaving (`keyedStep`).

## Main results

* `foldl_invariant`: the run rule for invariants, with a condition on the inputs.
* `foldl_take_invariant`: the run rule for invariants that count the inputs.
* `foldl_simulation`: the run rule for two machines that take the same inputs.
* `foldl_prune`: deleting the inputs that are skipped does not change the run.
* `foldl_keyedStep`: the state under a key after a run is the state of that one machine
  after the inputs that carry the key.
-/

namespace Machine

variable {σ τ ι κ : Type*}

/-! ### Invariants -/

/-- **The run rule.** A property of states that every admissible step keeps is kept by
every run over admissible inputs. -/
theorem foldl_invariant {step : σ → ι → σ} {P : σ → Prop} {Q : ι → Prop}
    (hstep : ∀ s x, P s → Q x → P (step s x)) {xs : List ι} (hxs : ∀ x ∈ xs, Q x)
    {s : σ} (hs : P s) : P (xs.foldl step s) := by
  induction xs generalizing s with
  | nil => exact hs
  | cons x xs ih =>
      have hx : Q x := hxs x List.mem_cons_self
      exact ih (fun y hy => hxs y (List.mem_cons_of_mem _ hy)) (hstep s x hs hx)

/-- **The counted run rule.** A property of states and of the number of inputs so far that
each step takes to the next number holds after each number of inputs. -/
theorem foldl_take_invariant {step : σ → ι → σ} {P : ℕ → σ → Prop} {xs : List ι} {s : σ}
    (hs : P 0 s)
    (hstep : ∀ k (hk : k < xs.length) s, P k s → P (k + 1) (step s xs[k]))
    {k : ℕ} (hk : k ≤ xs.length) : P k ((xs.take k).foldl step s) := by
  induction k with
  | zero => exact hs
  | succ k ih =>
      have hlt : k < xs.length := hk
      rw [List.take_succ_eq_append_getElem hlt, List.foldl_append]
      exact hstep k hlt _ (ih (Nat.le_of_lt hlt))

/-- **Simulation.** Two machines that take the same inputs stay related when each step takes
related states to related states. -/
theorem foldl_simulation (step : σ → ι → σ) (step' : τ → ι → τ) (R : ℕ → σ → τ → Prop)
    {xs : List ι} {s : σ} {t : τ} (hs : R 0 s t)
    (hstep : ∀ k (hk : k < xs.length) s t, R k s t → R (k + 1) (step s xs[k]) (step' t xs[k])) :
    R xs.length (xs.foldl step s) (xs.foldl step' t) := by
  have hrun : R xs.length ((xs.take xs.length).foldl step s)
      ((xs.take xs.length).foldl step' t) := by
    refine foldl_take_invariant (P := fun k s => R k s ((xs.take k).foldl step' t)) hs ?_
      (Nat.le_refl _)
    intro k hk s hR
    rw [List.take_succ_eq_append_getElem hk, List.foldl_append]
    exact hstep k hk s _ hR
  rwa [List.take_length] at hrun

/-! ### Deleting inputs without effect -/

/-- Delete from a run the inputs that `skip` selects in the state in which they arrive. -/
def prune (step : σ → ι → σ) (skip : σ → ι → Bool) : σ → List ι → List ι
  | _, [] => []
  | s, x :: xs =>
      if skip s x then prune step skip (step s x) xs
      else x :: prune step skip (step s x) xs

/-- **Pruning is invisible.** When the selected inputs leave the state as it is, the
pruned run ends where the full run ends. -/
theorem foldl_prune {step : σ → ι → σ} {skip : σ → ι → Bool}
    (hskip : ∀ s x, skip s x = true → step s x = s) (s : σ) (xs : List ι) :
    (prune step skip s xs).foldl step s = xs.foldl step s := by
  induction xs generalizing s with
  | nil => rfl
  | cons x xs ih =>
      rw [prune, List.foldl_cons]
      by_cases hx : skip s x = true
      · rw [if_pos hx, hskip s x hx]
        exact ih s
      · rw [if_neg hx, List.foldl_cons]
        exact ih (step s x)

/-! ### Families indexed by a key -/

section Keyed

variable [DecidableEq κ]

/-- One step of a store of machines: an input goes to the machine under its key. -/
def keyedStep (key : ι → κ) (step : κ → σ → ι → σ) (store : κ → σ) (x : ι) : κ → σ :=
  Function.update store (key x) (step (key x) (store (key x)) x)

/-- An input leaves the machines under every other key alone. -/
theorem keyedStep_of_ne {key : ι → κ} {step : κ → σ → ι → σ} {store : κ → σ} {x : ι}
    {k : κ} (h : key x ≠ k) : keyedStep key step store x k = store k :=
  Function.update_of_ne (Ne.symm h) _ _

/-- **Interleaving is invisible.** The machine under a key ends a run of the store in the
state it reaches alone, on the inputs that carry the key. -/
theorem foldl_keyedStep (key : ι → κ) (step : κ → σ → ι → σ) (store : κ → σ)
    (xs : List ι) (k : κ) :
    xs.foldl (keyedStep key step) store k =
      (xs.filter (key · = k)).foldl (step k) (store k) := by
  induction xs generalizing store with
  | nil => rfl
  | cons x xs ih =>
      rw [List.foldl_cons, ih]
      by_cases hx : key x = k
      · subst hx
        rw [List.filter_cons_of_pos (by simp), List.foldl_cons, keyedStep,
          Function.update_self]
      · rw [List.filter_cons_of_neg (by simpa using hx), keyedStep_of_ne hx]

end Keyed

end Machine
