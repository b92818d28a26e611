import RoqPython.Dispatch
import RoqPython.Lib.Loans
import RoqPython.Lib.Machine

/-!
# References over Time

A `utils::Ref` is a Python object that refers to an event of the native side, which exists
while the handler runs. Python may keep the object, read it again later, and call any of the
five dispatches again from within a callback; it may catch what they raise and go on.

A program that keeps an object is told so when the callback returns, except by
`codec::sbe::Decoder::dispatch`, which swallows the exception. This module follows a program
over any run, with any nesting of calls and callbacks.

## Main results

* `told_step`, `told_run`: an object that Python holds is lent, or was an argument of a
  callback whose invocation ended in an exception.
* `read_or_told`: a read finds the event that was delivered, or the object was an argument of
  such a callback, and the program was told.
-/

namespace RoqPython.References

open Loans

variable {V : Type}

/-- The five calls. -/
inductive Call
  /-- `Dispatcher::dispatch`. -/
  | dispatcher
  /-- `EventLogReader::dispatch`. -/
  | reader
  /-- `EventLogMultiplexer::dispatch`. -/
  | multiplexer
  /-- `codec::sbe::Decoder::dispatch`. -/
  | decoder
  /-- `Sequencer.apply`. -/
  | sequencer
deriving DecidableEq

/-- What the `catch` clauses of a call make of an exception. -/
def Call.rethrow : Call → Exception → Option Exception
  | .dispatcher => catchErrorAlreadySet
  | .reader => catchErrorAlreadySet
  | .multiplexer => catchErrorAlreadySet
  | .decoder => Sbe.Decoder.catchAll
  | .sequencer => some

/-- An invocation of the callback that ended in an exception: the call that it belongs to, its
arguments, and the exception. -/
structure Unwound where
  call : Call
  objects : List ℕ
  exception : Exception
deriving DecidableEq

/-- What the caller of the dispatch sees. -/
def Unwound.seen (self : Unwound) : Option Exception := self.call.rethrow self.exception

/-- A Python program and the native side. -/
structure Interpreter (V : Type) where
  /-- The arguments of the callbacks in progress, each with the call that it belongs to. -/
  loans : Stack Call V
  /-- The call in which the native side runs; none when Python does. -/
  native : Option Call
  /-- The references that Python keeps besides the arguments of the callbacks in progress. -/
  held : List ℕ
  /-- What was found at each read. -/
  reads : List (ℕ × Option V)
  /-- The invocations that ended in an exception. -/
  unwound : List Unwound

/-- A program starts. -/
def Interpreter.new : Interpreter V := ⟨.empty, none, [], [], []⟩

/-- What happens next. -/
inductive Act (V : Type)
  /-- Python calls one of the dispatches. -/
  | enter (call : Call)
  /-- The native side feeds an event, which hands Python references to some values. -/
  | feed (values : List V)
  /-- Python stores another reference to an object. -/
  | keep (object : ℕ)
  /-- Python deletes a reference. -/
  | drop (object : ℕ)
  /-- Python reads what an object refers to, such as `top_of_book.symbol`. -/
  | read (object : ℕ)
  /-- The callback returns. -/
  | return
  /-- The callback raises. -/
  | raise
  /-- The native side returns. -/
  | finish
  /-- The native side raises, or an argument cannot be converted. -/
  | fail (exception : Exception)

namespace Interpreter

/-- The objects that Python can get at: those it holds, and the arguments of the callback. -/
def accessible (self : Interpreter V) (object : ℕ) : Bool :=
  object ∈ self.held ∨ object ∈ self.loans.last

/-- The reference counts, as the handler finds them after the callback has returned. -/
def behaviour (self : Interpreter V) : Behaviour where
  raises := false
  keeps i := self.loans.last[i]?.any fun object => object ∈ self.held

/-- The event is over. -/
def leave (self : Interpreter V) (native : Option Call) : Interpreter V :=
  { self with loans := self.loans.revoke, native := native }

/-- An exception leaves the handler and passes through the native side and the call. -/
def unwind (self : Interpreter V) (call : Call) (objects : List ℕ) (exception : Exception) :
    Interpreter V :=
  { self.leave none with unwound := self.unwound ++ [⟨call, objects, exception⟩] }

/-- One step. What is not possible does nothing. -/
def step (self : Interpreter V) : Act V → Interpreter V
  | .enter call =>
      match self.native with
      | none => { self with native := some call }
      | some _ => self
  | .feed values =>
      match self.native with
      | some call => { self with loans := self.loans.lend call values, native := none }
      | none => self
  | .keep object =>
      if self.native = none ∧ self.accessible object then
        { self with held := object :: self.held }
      else self
  | .drop object =>
      if self.native = none then { self with held := self.held.erase object } else self
  | .read object =>
      if self.native = none ∧ self.accessible object then
        { self with reads := self.reads ++ [(object, self.loans.memory object)] }
      else self
  | .return =>
      match self.native, self.loans.lent with
      | none, (call, objects) :: _ =>
          match dispatch objects.length self.behaviour with
          | none => self.leave (some call)
          | some exception => self.unwind call objects exception
      | _, _ => self
  | .raise =>
      match self.native, self.loans.lent with
      | none, (call, objects) :: _ => self.unwind call objects .errorAlreadySet
      | _, _ => self
  | .finish => { self with native := none }
  | .fail exception =>
      match self.native with
      | some call =>
          { self with native := none, unwound := self.unwound ++ [⟨call, [], exception⟩] }
      | none => self

/-! ### What a program is told -/

/-- The object was an argument of a callback whose invocation ended in an exception. -/
def Unwinds (self : Interpreter V) (object : ℕ) : Prop :=
  ∃ u ∈ self.unwound, object ∈ u.objects

/-- What Python holds is lent, or the invocation that it was an argument of ended in an
exception; what Python has read was the value of an event, or the same; and these exceptions
came from the callback or from the handler. -/
structure Told (program : Interpreter V) : Prop where
  held : ∀ object ∈ program.held,
    object ∈ objects program.loans.lent ∨ program.Unwinds object
  reads : ∀ r ∈ program.reads,
    (∃ value, program.loans.made[r.1]? = some value ∧ r.2 = some value) ∨ program.Unwinds r.1
  unwound : ∀ u ∈ program.unwound,
    u.objects = [] ∨ u.exception = .errorAlreadySet ∨ u.exception = .runtimeError

variable {self : Interpreter V}

theorem told_new : Told (new : Interpreter V) where
  held _ h := absurd h List.not_mem_nil
  reads _ h := absurd h List.not_mem_nil
  unwound _ h := absurd h List.not_mem_nil

/-- A handler that throws nothing has found that no argument is kept. -/
theorem notMem_held {call : Call} {args : List ℕ} {rest : List (Call × List ℕ)}
    (hlent : self.loans.lent = (call, args) :: rest)
    (h : dispatch args.length self.behaviour = none) :
    ∀ object ∈ self.loans.last, object ∉ self.held := by
  have hlast : self.loans.last = args := by rw [Stack.last, hlent]; rfl
  intro object hobject hheld
  obtain ⟨i, hi, rfl⟩ := List.mem_iff_getElem.mp hobject
  rw [dispatch, if_neg (by simp [behaviour])] at h
  have hkeeps : (List.range args.length).any self.behaviour.keeps = true := by
    refine List.any_eq_true.mpr ⟨i, List.mem_range.mpr (hlast ▸ hi), ?_⟩
    simp [behaviour, List.getElem?_eq_getElem hi, hheld]
  rw [if_pos hkeeps] at h
  cases h

/-- What a handler throws after the callback. -/
theorem of_dispatch {refs : ℕ} {behaviour : Behaviour} {exception : Exception}
    (h : dispatch refs behaviour = some exception) :
    exception = .errorAlreadySet ∨ exception = .runtimeError := by
  rw [dispatch] at h
  split at h
  · exact .inl (Option.some.inj h).symm
  · split at h
    · exact .inr (Option.some.inj h).symm
    · cases h

/-- The native side feeds an event: what was lent stays lent. -/
theorem Told.lend (h : self.Told) (call : Call) (values : List V) :
    Told { self with loans := self.loans.lend call values, native := none } where
  held object hobject :=
    (h.held object hobject).imp_left fun hlent => Stack.mem_objects_lend.mpr (.inr hlent)
  reads r hr := by
    refine (h.reads r hr).imp_left ?_
    rintro ⟨value, hmade, hread⟩
    refine ⟨value, ?_, hread⟩
    obtain ⟨hlt, -⟩ := List.getElem?_eq_some_iff.mp hmade
    exact (List.getElem?_append_left hlt).trans hmade
  unwound := h.unwound

/-- A callback has returned, and keeps none of its arguments. -/
theorem Told.leave (h : self.Told) (native : Option Call)
    (hlast : ∀ object ∈ self.loans.last, object ∉ self.held) : (self.leave native).Told where
  held object hobject := by
    refine (h.held object hobject).imp_left fun hlent => ?_
    exact (Stack.mem_last_or_revoke hlent).resolve_left fun hmem => hlast object hmem hobject
  reads := h.reads
  unwound := h.unwound

/-- A callback has ended in an exception. -/
theorem Told.unwind (h : self.Told) {call : Call} {args : List ℕ}
    {rest : List (Call × List ℕ)} (hlent : self.loans.lent = (call, args) :: rest)
    {exception : Exception}
    (hexception : exception = .errorAlreadySet ∨ exception = .runtimeError) :
    (self.unwind call args exception).Told := by
  have hlast : self.loans.last = args := by rw [Stack.last, hlent]; rfl
  have hmore : ∀ object, self.Unwinds object →
      (self.unwind call args exception).Unwinds object := by
    rintro object ⟨u, hu, hobject⟩
    exact ⟨u, List.mem_append_left _ hu, hobject⟩
  refine ⟨fun object hobject => ?_, fun r hr => (h.reads r hr).imp_right (hmore r.1), ?_⟩
  · rcases h.held object hobject with hlent | hunwinds
    · rcases Stack.mem_last_or_revoke hlent with hmem | hrevoked
      · exact .inr ⟨_, List.mem_append_right _ List.mem_cons_self, hlast ▸ hmem⟩
      · exact .inl hrevoked
    · exact .inr (hmore object hunwinds)
  · intro u hu
    rcases List.mem_append.mp hu with hold | hnew
    · exact h.unwound u hold
    · obtain rfl := List.mem_singleton.mp hnew
      exact .inr hexception

/-- The native side raises. -/
theorem Told.fail (h : self.Told) (call : Call) (exception : Exception) :
    Told { self with native := none, unwound := self.unwound ++ [⟨call, [], exception⟩] } := by
  have hmore : ∀ object, self.Unwinds object →
      ∃ u ∈ self.unwound ++ [(⟨call, [], exception⟩ : Unwound)], object ∈ u.objects := by
    rintro object ⟨u, hu, hobject⟩
    exact ⟨u, List.mem_append_left _ hu, hobject⟩
  refine ⟨fun object hobject => (h.held object hobject).imp_right (hmore object),
    fun r hr => (h.reads r hr).imp_right (hmore r.1), fun u hu => ?_⟩
  rcases List.mem_append.mp hu with hold | hnew
  · exact h.unwound u hold
  · obtain rfl := List.mem_singleton.mp hnew
    exact .inl rfl

/-- An object that Python can get at is lent, or its invocation ended in an exception. -/
theorem Told.of_accessible (h : self.Told) {object : ℕ} (hobject : self.accessible object) :
    object ∈ objects self.loans.lent ∨ self.Unwinds object := by
  rcases of_decide_eq_true hobject with hheld | hlast
  · exact h.held object hheld
  · exact .inl (Stack.last_subset hlast)

/-- Python stores another reference. -/
theorem Told.keep (h : self.Told) {object : ℕ} (hobject : self.accessible object) :
    Told { self with held := object :: self.held } where
  held := List.forall_mem_cons.mpr ⟨h.of_accessible hobject, h.held⟩
  reads := h.reads
  unwound := h.unwound

/-- Python reads an object. -/
theorem Told.read (h : self.Told) {object : ℕ} (hobject : self.accessible object) :
    Told { self with reads := self.reads ++ [(object, self.loans.memory object)] } where
  held := h.held
  reads r hr := by
    rcases List.mem_append.mp hr with hold | hnew
    · exact h.reads r hold
    · obtain rfl := List.mem_singleton.mp hnew
      refine (h.of_accessible hobject).imp_left fun hlent => ?_
      have hlt := self.loans.lt_length object hlent
      have hmade := List.getElem?_eq_getElem hlt
      exact ⟨_, hmade, (Stack.memory_of_mem hlent).trans hmade⟩
  unwound := h.unwound

/-- **One step.** -/
theorem told_step (h : self.Told) (act : Act V) : (self.step act).Told := by
  cases act with
  | enter call =>
      simp only [step]
      split
      · exact ⟨h.held, h.reads, h.unwound⟩
      · exact h
  | feed values =>
      simp only [step]
      split
      · exact h.lend _ values
      · exact h
  | keep object =>
      simp only [step]
      split
      case isTrue hpossible => exact h.keep hpossible.2
      case isFalse => exact h
  | drop object =>
      simp only [step]
      split
      · exact ⟨fun o ho => h.held o (List.mem_of_mem_erase ho), h.reads, h.unwound⟩
      · exact h
  | read object =>
      simp only [step]
      split
      case isTrue hpossible => exact h.read hpossible.2
      case isFalse => exact h
  | «return» =>
      simp only [step]
      split
      case h_1 call args rest hnative hlent =>
        cases hdispatch : dispatch args.length self.behaviour with
        | none => exact h.leave _ (notMem_held hlent hdispatch)
        | some exception => exact h.unwind hlent (of_dispatch hdispatch)
      case h_2 => exact h
  | raise =>
      simp only [step]
      split
      case h_1 call args rest hnative hlent => exact h.unwind hlent (.inl rfl)
      case h_2 => exact h
  | finish => exact ⟨h.held, h.reads, h.unwound⟩
  | fail exception =>
      simp only [step]
      split
      · exact h.fail _ exception
      · exact h

/-- **Runs.** -/
theorem told_run (acts : List (Act V)) : (acts.foldl step new).Told :=
  Machine.foldl_invariant (P := Told) (Q := fun _ => True) (fun _ act h _ => told_step h act)
    (fun _ _ => trivial) told_new

/-- An exception of a callback or a handler reaches the caller, unless it is the one of a kept
reference in a call of the decoder. -/
theorem seen_or_decoder {u : Unwound}
    (h : u.exception = .errorAlreadySet ∨ u.exception = .runtimeError) :
    u.seen = some u.exception ∨ (u.call = .decoder ∧ u.exception = .runtimeError) := by
  obtain ⟨call, args, exception⟩ := u
  rcases h with rfl | rfl
  · cases call <;> exact .inl rfl
  · cases call
    case decoder => exact .inr ⟨rfl, rfl⟩
    all_goals exact .inl rfl

/-- **Reads.** In every run of a program, each read finds the value that the native side fed;
or the object was an argument of a callback whose invocation ended in an exception, and either
the caller of that dispatch has seen the exception, or the call was the decoder's and the
callback had kept a reference. -/
theorem read_or_told (acts : List (Act V)) :
    let program := acts.foldl step new
    ∀ r ∈ program.reads,
      (∃ value, program.loans.made[r.1]? = some value ∧ r.2 = some value) ∨
      ∃ u ∈ program.unwound, r.1 ∈ u.objects ∧
        (u.seen = some u.exception ∨ (u.call = .decoder ∧ u.exception = .runtimeError)) := by
  intro program r hr
  have h : program.Told := told_run acts
  refine (h.reads r hr).imp_right ?_
  rintro ⟨u, hu, hobject⟩
  have hne : u.objects ≠ [] := List.ne_nil_of_mem hobject
  exact ⟨u, hu, hobject, seen_or_decoder ((h.unwound u hu).resolve_left hne)⟩

/-- The decoder does not tell: the program has kept the value, sees no exception, and reads
what is not there any more. -/
example :
    let program := [Act.enter .decoder, .feed [7, 8], .keep 1, .return, .read 1].foldl step new
    program.reads = [(1, none)] ∧ program.unwound.map Unwound.seen = [none] := by
  decide

end Interpreter

end RoqPython.References
