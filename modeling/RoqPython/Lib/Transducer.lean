import RoqPython.Lib.Machine

/-!
# Transducers

A transducer is a machine that emits outputs as it takes inputs. Its outputs can be fed to a
consumer as they come, which is another machine, and several transducers can share one
consumer: they are indexed by a key, their inputs are interleaved, and each output carries the
key of the transducer that it came from.

## Main results

* `Along.foldl_eq`: machines that agree where a condition holds agree on runs along it.
* `foldl_attach`: a transducer with a consumer runs on its own, and the consumer runs over
  what the transducer emits.
* `select_emit_keyed`: in an interleaving, the outputs under a key are those of that
  transducer alone, on its own inputs.
* `filter_of_select`: a consumer that looks at outputs from one key only does not see the
  interleaving.
-/

namespace Machine

variable {σ τ ι κ ω : Type*}

/-! ### Conditions on runs -/

/-- A condition holds of every input of a run, in the state in which it arrives. -/
def Along (step : σ → ι → σ) (P : σ → ι → Prop) : σ → List ι → Prop
  | _, [] => True
  | s, x :: xs => P s x ∧ Along step P (step s x) xs

/-- A condition that holds of every input, in whatever state it arrives. -/
theorem Along.of_forall {step : σ → ι → σ} {P : σ → ι → Prop} {xs : List ι}
    (h : ∀ s, ∀ x ∈ xs, P s x) (s : σ) : Along step P s xs := by
  induction xs generalizing s with
  | nil => exact trivial
  | cons x xs ih =>
      exact ⟨h s x List.mem_cons_self, ih (fun s y hy => h s y (List.mem_cons_of_mem _ hy)) _⟩

/-- Two machines that do the same where a condition holds end in the same state. -/
theorem Along.foldl_eq {step step' : σ → ι → σ} {P : σ → ι → Prop} {s : σ} {xs : List ι}
    (h : Along step P s xs) (hstep : ∀ s, ∀ x ∈ xs, P s x → step s x = step' s x) :
    xs.foldl step s = xs.foldl step' s := by
  induction xs generalizing s with
  | nil => rfl
  | cons x xs ih =>
      obtain ⟨hx, hxs⟩ := h
      rw [List.foldl_cons, List.foldl_cons,
        ih hxs fun s y hy => hstep s y (List.mem_cons_of_mem _ hy),
        hstep s x List.mem_cons_self hx]

/-! ### Outputs -/

/-- What a transducer emits in a run. -/
def emit (step : σ → ι → σ) (output : σ → ι → List ω) : σ → List ι → List ω
  | _, [] => []
  | s, x :: xs => output s x ++ emit step output (step s x) xs

theorem emit_cons (step : σ → ι → σ) (output : σ → ι → List ω) (s : σ) (x : ι)
    (xs : List ι) :
    emit step output s (x :: xs) = output s x ++ emit step output (step s x) xs := rfl

/-- What a transducer emits over two lists of inputs. -/
theorem emit_append (step : σ → ι → σ) (output : σ → ι → List ω) (s : σ) (xs ys : List ι) :
    emit step output s (xs ++ ys) =
      emit step output s xs ++ emit step output (xs.foldl step s) ys := by
  induction xs generalizing s with
  | nil => rfl
  | cons x xs ih => rw [List.cons_append, emit_cons, ih, emit_cons, List.append_assoc,
      List.foldl_cons]

/-- Inputs that are made from others. -/
theorem emit_map (step : σ → ι → σ) (output : σ → ι → List ω) {υ : Type*} (f : υ → ι) (s : σ)
    (xs : List υ) :
    emit step output s (xs.map f) =
      emit (fun s x => step s (f x)) (fun s x => output s (f x)) s xs := by
  induction xs generalizing s with
  | nil => rfl
  | cons x xs ih => rw [List.map_cons, emit_cons, ih, emit_cons]

/-- One step of a transducer whose outputs go to a consumer. -/
def attach (step : σ → ι → σ) (output : σ → ι → List ω) (consume : τ → ω → τ)
    (state : σ × τ) (x : ι) : σ × τ :=
  (step state.1 x, (output state.1 x).foldl consume state.2)

/-- **Consumers.** A transducer does not notice its consumer, and the consumer takes what the
transducer emits, in order. -/
theorem foldl_attach (step : σ → ι → σ) (output : σ → ι → List ω) (consume : τ → ω → τ)
    (s : σ) (t : τ) (xs : List ι) :
    xs.foldl (attach step output consume) (s, t) =
      (xs.foldl step s, (emit step output s xs).foldl consume t) := by
  induction xs generalizing s t with
  | nil => rfl
  | cons x xs ih =>
      rw [List.foldl_cons, attach, ih, emit_cons, List.foldl_append, List.foldl_cons]

/-! ### Families indexed by a key -/

variable [DecidableEq κ]

/-- What a store of transducers emits: the outputs of the one that takes the input, under its
key. -/
def keyedOutput (key : ι → κ) (output : κ → σ → ι → List ω) (store : κ → σ) (x : ι) :
    List (κ × ω) :=
  (output (key x) (store (key x)) x).map (Prod.mk (key x))

/-- The outputs under a key. -/
def select (k : κ) (outputs : List (κ × ω)) : List ω :=
  (outputs.filter (·.1 = k)).map Prod.snd

theorem select_append (k : κ) (xs ys : List (κ × ω)) :
    select k (xs ++ ys) = select k xs ++ select k ys := by
  rw [select, List.filter_append, List.map_append, select, select]

/-- The outputs of one transducer are all under its key. -/
theorem select_map_mk (k k' : κ) (outputs : List ω) :
    select k (outputs.map (Prod.mk k')) = if k' = k then outputs else [] := by
  rw [select, List.filter_map, List.map_map]
  by_cases hk : k' = k
  · simp [hk, Function.comp_def]
  · simp [hk, Function.comp_def]

/-- **Interleaving is invisible.** The outputs under a key are those of that transducer alone,
on the inputs that carry the key. -/
theorem select_emit_keyed (key : ι → κ) (step : κ → σ → ι → σ)
    (output : κ → σ → ι → List ω) (store : κ → σ) (xs : List ι) (k : κ) :
    select k (emit (keyedStep key step) (keyedOutput key output) store xs) =
      emit (step k) (output k) (store k) (xs.filter (key · = k)) := by
  induction xs generalizing store with
  | nil => rfl
  | cons x xs ih =>
      rw [emit_cons, select_append, keyedOutput, select_map_mk, ih]
      by_cases hx : key x = k
      · subst hx
        rw [if_pos rfl, List.filter_cons_of_pos (by simp), emit_cons, keyedStep,
          Function.update_self]
      · rw [if_neg hx, List.nil_append, List.filter_cons_of_neg (by simpa using hx),
          keyedStep_of_ne hx]

/-- Where all outputs of a kind come from one transducer, they come in its order. -/
theorem filter_of_select {outputs : List (κ × ω)} {P : ω → Bool} {k : κ}
    (h : ∀ output ∈ outputs, P output.2 = true → output.1 = k) :
    (outputs.map Prod.snd).filter P = (select k outputs).filter P := by
  rw [select, List.filter_map, List.filter_map, List.filter_filter]
  refine congrArg (List.map Prod.snd) (List.filter_congr fun output houtput => ?_)
  by_cases hP : P output.2 = true
  · simp [hP, h output houtput hP]
  · simp [hP]

end Machine
