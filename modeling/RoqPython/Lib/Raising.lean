import Mathlib.Data.List.Forall2

/-!
# Programs That May Raise

A program changes a state and may raise: it is a function `σ → σ × Option ε`. What it did
before it raised is not undone. A handler is a program for each input, and a run of the
handler over a list of inputs ends with the first exception.

`Ensures P E` is the postcondition of a program that says `P` of the state when nothing was
raised, and `E` when something was.

## Main results

* `run_append`, `run_flatMap`: a run over a list that is put together from parts.
* `exists_run`: a run handles the inputs up to the first exception, and no other.
* `run_guarded`: a test of the inputs cuts a run short at the first input that fails it.
* `Ensures.run`: the run rule for postconditions.
* `Logs.run`: the run rule for a log that each input adds to.
* `Performs.run`: the run rule for programs that perform operations on the state.
-/

namespace Raising

variable {σ τ ι κ ω ε : Type*}

/-! ### Sequences -/

/-- Go on with the second program unless the first one raised. -/
def andThen (result : σ × Option ε) (next : σ → σ × Option ε) : σ × Option ε :=
  match result.2 with
  | none => next result.1
  | some error => (result.1, some error)

/-- Feed inputs to a handler until one raises. -/
def run (handle : σ → ι → σ × Option ε) : σ → List ι → σ × Option ε
  | s, [] => (s, none)
  | s, x :: xs => andThen (handle s x) fun s => run handle s xs

@[simp]
theorem andThen_none (s : σ) (next : σ → σ × Option ε) : andThen (s, none) next = next s := rfl

theorem andThen_of_none {result : σ × Option ε} (h : result.2 = none)
    (next : σ → σ × Option ε) : andThen result next = next result.1 := by
  rw [andThen, h]

theorem andThen_of_some {result : σ × Option ε} {error : ε} (h : result.2 = some error)
    (next : σ → σ × Option ε) : andThen result next = result := by
  rw [andThen, h]
  exact Prod.ext rfl h.symm

theorem andThen_assoc (result : σ × Option ε) (next next' : σ → σ × Option ε) :
    andThen (andThen result next) next' = andThen result fun s => andThen (next s) next' := by
  obtain ⟨s, _ | error⟩ := result <;> rfl

/-- Where a sequence raises nothing, its parts raise nothing. -/
theorem of_andThen_none {result : σ × Option ε} {next : σ → σ × Option ε}
    (h : (andThen result next).2 = none) : result.2 = none ∧ (next result.1).2 = none := by
  obtain ⟨s, _ | error⟩ := result
  · exact ⟨rfl, h⟩
  · cases h

variable {handle : σ → ι → σ × Option ε}

theorem run_cons (s : σ) (x : ι) (xs : List ι) :
    run handle s (x :: xs) = andThen (handle s x) fun s => run handle s xs := rfl

/-- A run over two lists goes on with the second when nothing was raised in the first. -/
theorem run_append (s : σ) (xs ys : List ι) :
    run handle s (xs ++ ys) = andThen (run handle s xs) fun s => run handle s ys := by
  induction xs generalizing s with
  | nil => rfl
  | cons x xs ih =>
      rw [List.cons_append, run_cons, run_cons, andThen_assoc]
      exact congrArg (andThen _) (funext fun s => ih s)

/-- A handler that runs another one over some inputs for each of its own. -/
theorem run_flatMap (f : κ → List ι) (s : σ) (ks : List κ) :
    run handle s (ks.flatMap f) = run (fun s k => run handle s (f k)) s ks := by
  induction ks generalizing s with
  | nil => rfl
  | cons k ks ih =>
      rw [List.flatMap_cons, run_append, run_cons]
      exact congrArg (andThen _) (funext fun s => ih s)

/-- **The first exception.** A run handles inputs one after the other, without an exception,
up to the end or up to an input that raises. -/
theorem exists_run (handle : σ → ι → σ × Option ε) (s : σ) (xs : List ι) :
    run handle s xs = (xs.foldl (fun s x => (handle s x).1) s, none) ∨
      ∃ before x after error, xs = before ++ x :: after ∧
        (run handle s before).2 = none ∧
        (handle (run handle s before).1 x).2 = some error ∧
        run handle s xs = handle (run handle s before).1 x := by
  induction xs generalizing s with
  | nil => exact .inl rfl
  | cons x xs ih =>
      cases hx : (handle s x).2 with
      | some error =>
          refine .inr ⟨[], x, xs, error, rfl, rfl, hx, ?_⟩
          rw [run_cons, andThen_of_some hx]
          rfl
      | none =>
          have hcons : ∀ xs, run handle s (x :: xs) = run handle (handle s x).1 xs :=
            fun xs => by rw [run_cons, andThen_of_none hx]
          rcases ih (handle s x).1 with hall | ⟨before, y, after, error, rfl, hbefore, hy, hrun⟩
          · exact .inl (by rw [hcons, hall, List.foldl_cons])
          · refine .inr ⟨x :: before, y, after, error, rfl, ?_⟩
            rw [hcons, hcons]
            exact ⟨hbefore, hy, hrun⟩

/-- What a run raises is raised for one of the inputs. -/
theorem exists_of_run_eq_some {s : σ} {xs : List ι} {error : ε}
    (h : (run handle s xs).2 = some error) : ∃ t, ∃ x ∈ xs, (handle t x).2 = some error := by
  rcases exists_run handle s xs with hall | ⟨before, x, after, error', rfl, -, -, hrun⟩
  · rw [hall] at h
    cases h
  · rw [hrun] at h
    exact ⟨_, x, by simp, h⟩

/-- A handler that refuses the inputs that fail a test. -/
def guarded (ok : ι → Bool) (error : ε) (handle : σ → ι → σ × Option ε) (s : σ) (x : ι) :
    σ × Option ε :=
  if ok x then handle s x else (s, some error)

/-- A run with a test is a run without it up to the first input that fails the test. -/
theorem run_guarded (ok : ι → Bool) (error : ε) (s : σ) (xs : List ι) :
    run (guarded ok error handle) s xs =
      andThen (run handle s (xs.takeWhile ok)) fun s =>
        (s, if xs.all ok then none else some error) := by
  induction xs generalizing s with
  | nil => rfl
  | cons x xs ih =>
      by_cases hx : ok x = true
      · have hguarded : guarded ok error handle s x = handle s x := if_pos hx
        rw [List.takeWhile_cons_of_pos hx, run_cons, run_cons, andThen_assoc, hguarded,
          List.all_cons, hx, Bool.true_and]
        exact congrArg (andThen _) (funext fun s => ih s)
      · have hguarded : guarded ok error handle s x = (s, some error) := if_neg hx
        have hall : (x :: xs).all ok = false := by simp [hx]
        rw [List.takeWhile_cons_of_neg hx, run_cons, hguarded, hall]
        rfl

/-! ### Postconditions -/

/-- The state is in `P` when nothing was raised, and in `E` when something was. -/
def Ensures (P E : σ → Prop) (result : σ × Option ε) : Prop :=
  match result.2 with
  | none => P result.1
  | some _ => E result.1

namespace Ensures

variable {P Q E : σ → Prop} {result : σ × Option ε}

/-- What holds of the state in any case. -/
theorem of_fst (h : P result.1) : Ensures P P result := by
  obtain ⟨s, _ | error⟩ := result <;> exact h

/-- When nothing was raised. -/
theorem returned (h : Ensures P E result) (hnone : result.2 = none) : P result.1 := by
  rwa [Ensures, hnone] at h

/-- When a postcondition is the same with and without an exception, or stronger without. -/
theorem always (h : Ensures P E result) (hP : ∀ s, P s → E s) : E result.1 := by
  obtain ⟨s, _ | error⟩ := result
  · exact hP s h
  · exact h

/-- **Sequences.** The second program starts where the first one returns. -/
theorem andThen {next : σ → σ × Option ε} (h : Ensures P E result)
    (hnext : ∀ s, P s → Ensures Q E (next s)) : Ensures Q E (Raising.andThen result next) := by
  obtain ⟨s, _ | error⟩ := result
  · exact hnext s h
  · exact h

/-- **The run rule.** -/
theorem run (hhandle : ∀ s x, P s → Ensures P E (handle s x)) (xs : List ι) {s : σ}
    (hs : P s) : Ensures P E (Raising.run handle s xs) := by
  induction xs generalizing s with
  | nil => exact hs
  | cons x xs ih => exact (hhandle s x hs).andThen fun s hs => ih hs

/-- A test of the inputs changes nothing. -/
theorem guarded (ok : ι → Bool) (error : ε) {s : σ} {x : ι} (hs : E s)
    (h : Ensures P E (handle s x)) : Ensures P E (Raising.guarded ok error handle s x) := by
  rw [Raising.guarded]
  split
  · exact h
  · exact hs

end Ensures

/-! ### Logs -/

/-- What a program that returns adds to a log answers the inputs, and what a program that
raises adds answers the first of them. -/
def Logs (log : σ → List ω) (Answers : ω → ι → Prop) (before : σ) (inputs : List ι)
    (result : σ × Option ε) : Prop :=
  ∃ entries answered, log result.1 = log before ++ entries ∧ answered <+: inputs ∧
    List.Forall₂ Answers entries answered ∧ (result.2 = none → answered = inputs)

namespace Logs

variable {log : σ → List ω} {Answers : ω → ι → Prop} {s : σ} {result : σ × Option ε}

/-- Nothing was asked for. -/
theorem nothing (h : log result.1 = log s) : Logs log Answers s [] result :=
  ⟨[], [], by rw [h, List.append_nil], List.prefix_rfl, .nil, fun _ => rfl⟩

/-- A program that raises before it adds anything. -/
theorem raised {t : σ} {error : ε} (h : log t = log s) (inputs : List ι) :
    Logs log Answers s inputs (t, some error) :=
  ⟨[], [], by rw [h, List.append_nil], List.nil_prefix, .nil, nofun⟩

/-- A program that adds one entry. -/
theorem single {t : σ} {entry : ω} {input : ι} (h : log t = log s ++ [entry])
    (hanswers : Answers entry input) :
    Logs log Answers s [input] ((t, none) : σ × Option ε) :=
  ⟨[entry], [input], h, List.prefix_rfl, .cons hanswers .nil, fun _ => rfl⟩

/-- **Sequences.** The second program goes on with the log of the first one. -/
theorem andThen {xs ys : List ι} {next : σ → σ × Option ε}
    (h : Logs log Answers s xs result)
    (hnext : ∀ t, Logs log Answers t ys (next t)) :
    Logs log Answers s (xs ++ ys) (Raising.andThen result next) := by
  obtain ⟨entries, answered, hlog, hprefix, hanswers, hall⟩ := h
  obtain ⟨t, _ | error⟩ := result
  · obtain rfl := hall rfl
    obtain ⟨entries', answered', hlog', hprefix', hanswers', hall'⟩ := hnext t
    refine ⟨entries ++ entries', answered ++ answered', ?_, ?_, ?_, ?_⟩
    · rw [andThen_none, hlog', hlog, List.append_assoc]
    · exact (List.prefix_append_right_inj answered).mpr hprefix'
    · exact List.rel_append hanswers hanswers'
    · intro hnone
      rw [hall' hnone]
  · exact ⟨entries, answered, hlog, hprefix.trans (List.prefix_append xs ys), hanswers, nofun⟩

/-- Every entry of the log is an old one, or answers an input. -/
theorem mem {inputs : List ι} (h : Logs log Answers s inputs result) {entry : ω}
    (hentry : entry ∈ log result.1) : entry ∈ log s ∨ ∃ x ∈ inputs, Answers entry x := by
  obtain ⟨entries, answered, hlog, hprefix, hanswers, -⟩ := h
  rw [hlog] at hentry
  rcases List.mem_append.mp hentry with hold | hnew
  · exact .inl hold
  · obtain ⟨i, hi, rfl⟩ := List.mem_iff_getElem.mp hnew
    have hi' : i < answered.length := hanswers.length_eq ▸ hi
    exact .inr ⟨answered[i], hprefix.subset (List.getElem_mem hi'), hanswers.get hi hi'⟩

/-- **Projections.** What a projection selects from the new entries of the log is the first of
what the matching projection selects from the inputs, and all of it when nothing was raised. -/
theorem filterMap {π : Type*} {inputs : List ι} (h : Logs log Answers s inputs result)
    {f : ω → Option π} {g : ι → Option π} (hfg : ∀ entry x, Answers entry x → f entry = g x) :
    ∃ selected, (log result.1).filterMap f = (log s).filterMap f ++ selected ∧
      selected <+: inputs.filterMap g ∧ (result.2 = none → selected = inputs.filterMap g) := by
  obtain ⟨entries, answered, hlog, hprefix, hanswers, hall⟩ := h
  have hselected : entries.filterMap f = answered.filterMap g := by
    clear hlog hprefix hall
    induction hanswers with
    | nil => rfl
    | cons hanswer _ ih => rw [List.filterMap_cons, List.filterMap_cons, hfg _ _ hanswer, ih]
  refine ⟨entries.filterMap f, by rw [hlog, List.filterMap_append], ?_, ?_⟩
  · rw [hselected]
    exact hprefix.filterMap g
  · intro hnone
    rw [hselected, hall hnone]

/-- **The run rule.** A run logs what its inputs ask for, one after the other. -/
theorem run {handle : σ → κ → σ × Option ε} {asks : κ → List ι}
    (hhandle : ∀ s x, Logs log Answers s (asks x) (handle s x)) (s : σ) (xs : List κ) :
    Logs log Answers s (xs.flatMap asks) (Raising.run handle s xs) := by
  induction xs generalizing s with
  | nil => exact nothing rfl
  | cons x xs ih =>
      rw [List.flatMap_cons, run_cons]
      exact (hhandle s x).andThen ih

end Logs

/-! ### Operations -/

/-- A program that is asked for a list of operations performs the first of them and nothing
else, and all of them when it returns. -/
def Performs (operate : σ → ι → σ) (before : σ) (asked : List ι) (result : σ × Option ε) :
    Prop :=
  ∃ performed, performed <+: asked ∧ result.1 = performed.foldl operate before ∧
    (result.2 = none → performed = asked)

namespace Performs

variable {operate : σ → ι → σ} {s : σ} {result : σ × Option ε}

/-- A program that leaves the state alone and raises. -/
theorem raised (error : ε) (asked : List ι) : Performs operate s asked (s, some error) :=
  ⟨[], List.nil_prefix, rfl, nofun⟩

/-- A program that leaves the state alone, and is asked for nothing. -/
theorem nothing (error : Option ε) : Performs operate s [] (s, error) :=
  ⟨[], List.prefix_rfl, rfl, fun _ => rfl⟩

/-- A program that performs one operation, whether or not it raises afterwards. -/
theorem single {x : ι} (h : result.1 = operate s x) : Performs operate s [x] result :=
  ⟨[x], List.prefix_rfl, h, fun _ => rfl⟩

/-- A program that ends in the same state, and does not return when the other one raises. -/
theorem imp {asked : List ι} {result' : σ × Option ε} (h : Performs operate s asked result)
    (hstate : result'.1 = result.1) (hnone : result'.2 = none → result.2 = none) :
    Performs operate s asked result' := by
  obtain ⟨performed, hperformed, heq, hall⟩ := h
  exact ⟨performed, hperformed, hstate.trans heq, fun h => hall (hnone h)⟩

/-- **Sequences.** The second program goes on with the operations of the first one. -/
theorem andThen {xs ys : List ι} {next : σ → σ × Option ε} (h : Performs operate s xs result)
    (hnext : ∀ t, Performs operate t ys (next t)) :
    Performs operate s (xs ++ ys) (Raising.andThen result next) := by
  obtain ⟨performed, hperformed, hstate, hall⟩ := h
  obtain ⟨t, _ | error⟩ := result
  · obtain rfl := hall rfl
    obtain ⟨performed', hperformed', hstate', hall'⟩ := hnext t
    refine ⟨performed ++ performed', (List.prefix_append_right_inj performed).mpr hperformed',
      ?_, ?_⟩
    · rw [andThen_none, hstate', List.foldl_append]
      exact congrArg (performed'.foldl operate) hstate
    · intro hnone
      rw [hall' hnone]
  · exact ⟨performed, hperformed.trans (List.prefix_append xs ys), hstate, nofun⟩

/-- A program that works on a part of a larger state. -/
theorem map {operate' : τ → κ → τ} {xs : List ι} (h : Performs operate s xs result)
    (f : σ → τ) (g : ι → κ) (hf : ∀ s x, operate' (f s) (g x) = f (operate s x)) :
    Performs operate' (f s) (xs.map g) (f result.1, result.2) := by
  obtain ⟨performed, hperformed, hstate, hall⟩ := h
  refine ⟨performed.map g, hperformed.map g, ?_, fun hnone => by rw [hall hnone]⟩
  rw [List.foldl_map, hstate]
  exact (List.foldl_hom f hf).symm

/-- A sequence that begins with a program that leaves the state alone. -/
theorem skip {xs : List ι} {next : σ → σ × Option ε} (error : Option ε)
    (hnext : ∀ t, Performs operate t xs (next t)) :
    Performs operate s xs (Raising.andThen (s, error) next) :=
  (nothing error).andThen hnext

/-- A sequence that begins with a program that performs one operation. -/
theorem cons {x : ι} {xs : List ι} {next : σ → σ × Option ε} (h : result.1 = operate s x)
    (hnext : ∀ t, Performs operate t xs (next t)) :
    Performs operate s (x :: xs) (Raising.andThen result next) :=
  (single h).andThen hnext

/-- **The run rule.** A run performs what its inputs ask for, one after the other. -/
theorem run {handle : σ → κ → σ × Option ε} {asks : κ → List ι}
    (hhandle : ∀ s x, Performs operate s (asks x) (handle s x)) (s : σ) (xs : List κ) :
    Performs operate s (xs.flatMap asks) (Raising.run handle s xs) := by
  induction xs generalizing s with
  | nil => exact nothing none
  | cons x xs ih =>
      rw [List.flatMap_cons, run_cons]
      exact (hhandle s x).andThen ih

end Performs

end Raising
