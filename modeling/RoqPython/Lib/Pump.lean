import Mathlib.Data.List.Basic

/-!
# Pumps

A pump feeds a list of inputs one after the other to a handler. Each input may leave some
output and may fail with an error; the first error ends the pump.

A pump is again a handler, for lists of inputs, so that a loop over chunks of inputs is the
pump of a pump.

## Main results

* `pump_of_quiet`: without an error every input is handled.
* `pump_of_first`: the inputs up to the first error are handled, and no other.
* `pump_snd`: the error of a pump is the first error of an input.
* `pump_pump`: a loop over chunks handles their concatenation.
-/

namespace Pump

variable {ι τ ε : Type*} {handle : ι → List τ × Option ε}

/-- Feed inputs to a handler until one fails. -/
def pump (handle : ι → List τ × Option ε) : List ι → List τ × Option ε
  | [] => ([], none)
  | x :: xs =>
      match (handle x).2 with
      | none => ((handle x).1 ++ (pump handle xs).1, (pump handle xs).2)
      | some error => ((handle x).1, some error)

/-- An input that does not fail. -/
theorem pump_cons_of_none {x : ι} (h : (handle x).2 = none) (xs : List ι) :
    pump handle (x :: xs) = ((handle x).1 ++ (pump handle xs).1, (pump handle xs).2) := by
  rw [pump, h]

/-- An input that fails. -/
theorem pump_cons_of_some {x : ι} {error : ε} (h : (handle x).2 = some error) (xs : List ι) :
    pump handle (x :: xs) = ((handle x).1, some error) := by
  rw [pump, h]

/-- A list of inputs of which none fails leaves its output to the rest of the pump. -/
theorem pump_append_of_quiet {xs : List ι} (h : ∀ x ∈ xs, (handle x).2 = none) (ys : List ι) :
    pump handle (xs ++ ys) =
      (xs.flatMap (fun x => (handle x).1) ++ (pump handle ys).1, (pump handle ys).2) := by
  induction xs with
  | nil => rfl
  | cons x xs ih =>
      obtain ⟨hx, hxs⟩ := List.forall_mem_cons.mp h
      rw [List.cons_append, pump_cons_of_none hx, ih hxs, List.flatMap_cons,
        List.append_assoc]

/-- **Quiet pumps.** Without an error, every input is handled. -/
theorem pump_of_quiet {xs : List ι} (h : ∀ x ∈ xs, (handle x).2 = none) :
    pump handle xs = (xs.flatMap fun x => (handle x).1, none) := by
  have hpump := pump_append_of_quiet h []
  rw [List.append_nil] at hpump
  rw [hpump, pump, List.append_nil]

/-- **The first error.** The inputs before it are handled, the input that fails is the last
one, and nothing comes of the rest. -/
theorem pump_of_first {xs ys : List ι} {x : ι} {error : ε}
    (hxs : ∀ y ∈ xs, (handle y).2 = none) (hx : (handle x).2 = some error) :
    pump handle (xs ++ x :: ys) =
      (xs.flatMap (fun y => (handle y).1) ++ (handle x).1, some error) := by
  rw [pump_append_of_quiet hxs, pump_cons_of_some hx]

/-- The error of a pump is the first error of an input. -/
theorem pump_snd (xs : List ι) :
    (pump handle xs).2 = xs.findSome? fun x => (handle x).2 := by
  induction xs with
  | nil => rfl
  | cons x xs ih =>
      cases hx : (handle x).2 with
      | none => rw [pump_cons_of_none hx, List.findSome?_cons, hx, ih]
      | some error => rw [pump_cons_of_some hx, List.findSome?_cons, hx]

/-- A pump over two lists goes on with the second when the first does not fail. -/
theorem pump_append (xs ys : List ι) :
    pump handle (xs ++ ys) =
      match (pump handle xs).2 with
      | none => ((pump handle xs).1 ++ (pump handle ys).1, (pump handle ys).2)
      | some error => ((pump handle xs).1, some error) := by
  induction xs with
  | nil => rfl
  | cons x xs ih =>
      rw [List.cons_append]
      cases hx : (handle x).2 with
      | none =>
          rw [pump_cons_of_none hx, pump_cons_of_none hx, ih]
          cases (pump handle xs).2 with
          | none => rw [List.append_assoc]
          | some error => rfl
      | some error => rw [pump_cons_of_some hx, pump_cons_of_some hx]

/-- **Loops.** The pump of a pump over chunks is the pump over their concatenation. -/
theorem pump_pump (chunks : List (List ι)) :
    pump (pump handle) chunks = pump handle chunks.flatten := by
  induction chunks with
  | nil => rfl
  | cons chunk chunks ih => rw [List.flatten_cons, pump_append, pump, ih]

end Pump
