import RoqPython.Fix.Lifetime

/-!
# Messages Do Not Disturb Each Other

A run may deliver messages that are self-contained and messages that are not. What becomes of
an object is a matter of its own message only: other messages come and go, in the same buffer
or in another one, before it, after it or while its callback is running.

## Main results

* `State.Present.run`: an object that Python holds is the object that was delivered.
* `isolated`: a header always reads as it was delivered, and so does a self-contained message,
  whatever the other messages of the run are.
* `State.Running.run`: the temporaries of a callback stay as they are until it returns.
* `reads_while_running`: any message reads as it was delivered while its callback is running and
  nobody uses its buffer.
-/

namespace RoqPython.Fix

variable {X : Foreign} {data : Bytes}

namespace State

variable {self : State X} {id : ℕ} {object : Object StringView}

/-! ### Objects that are held -/

/-- The objects that Python holds. -/
def ids (self : State X) : List ℕ := self.held.map Prod.fst

/-- A number was given out, and what Python holds under it, if anything, is the object. -/
structure Present (state : State X) (id : ℕ) (object : Object StringView) : Prop where
  lt : id < state.memory.next
  same : id ∈ state.ids → state.memory.objects id = some object

theorem mem_ids_destroy {id' : ℕ} (h : id ∈ (self.destroy id').ids) :
    id ∈ self.ids ∧ id ≠ id' := by
  obtain ⟨p, hp, rfl⟩ := List.mem_map.mp h
  obtain ⟨hp, hne⟩ := List.mem_filter.mp hp
  exact ⟨List.mem_map_of_mem hp, of_decide_eq_true hne⟩

/-- The end of another object leaves an object alone, and its own end takes it from Python. -/
theorem Present.destroy (h : self.Present id object) (id' : ℕ) :
    (self.destroy id').Present id object where
  lt := h.lt
  same := by
    intro hid
    obtain ⟨hheld, hne⟩ := mem_ids_destroy hid
    exact (Memory.destroy_of_ne hne).trans (h.same hheld)

theorem Present.release (h : self.Present id object) (keep : Bool) (id' : ℕ) :
    (self.release keep id').Present id object := by
  cases keep with
  | false => exact h.destroy id'
  | true => exact h

theorem Present.leave (h : self.Present id object) (keep0 keep1 : Bool) :
    (self.leave keep0 keep1).Present id object := by
  obtain ⟨memory, frames, held⟩ := self
  cases frames with
  | nil => exact h
  | cons frame frames =>
      have hframes : Present ⟨memory, frames, held⟩ id object := ⟨h.lt, h.same⟩
      exact (((hframes.release keep1 _).release keep0 _).destroy _).destroy _

/-- A message that is delivered gets numbers that no other object had. -/
theorem Present.enter (h : self.Present id object) (buffer : ℕ)
    (header : Native.Header (Slice data)) (value : Native.Message X (Slice data)) :
    (self.enter buffer header value).Present id object where
  lt := by
    have hnext : (self.enter buffer header value).memory.next = self.memory.next + 4 := rfl
    have hlt := h.lt
    omega
  same := by
    intro hid
    have hids : (self.enter buffer header value).ids =
        (self.memory.next + 2) :: (self.memory.next + 3) :: self.ids := rfl
    have hlt := h.lt
    rw [hids, List.mem_cons, List.mem_cons] at hid
    rcases hid with rfl | rfl | hid
    · omega
    · omega
    · exact Handler.dispatch_of_live (h.same hid)

/-- **One step.** -/
theorem Present.step (h : self.Present id object) (x : Step X) :
    (self.step x).Present id object := by
  cases x with
  | enter buffer data header value => exact h.enter buffer header value
  | leave keep0 keep1 => exact h.leave keep0 keep1
  | write buffer content => exact ⟨h.lt, h.same⟩
  | drop id' => exact h.destroy id'

/-- **Runs.** An object stays what it is for as long as Python holds it. -/
theorem Present.run (h : self.Present id object) (steps : List (Step X)) :
    (self.run steps).Present id object :=
  Machine.foldl_invariant (P := fun state : State X => state.Present id object)
    (Q := fun _ => True) (fun _ _ h _ => h.step _) (fun _ _ => trivial) h

/-- An object without text by reference reads the same in every state in which it is held. -/
theorem Present.read_eq (h : self.Present id object) (hrefs : ∀ v ∈ object.refs, v.length = 0)
    (hobject : self.memory.objects id = some object) (steps : List (Step X))
    (hid : id ∈ (self.run steps).ids) :
    (self.run steps).memory.read X id = self.memory.read X id := by
  have hintact : Intact (X := X) self.memory (id, self.memory.read X id) :=
    ⟨object, hobject, hrefs, (Memory.read_eq hobject).symm⟩
  refine (hintact.of_objects ?_).read_eq
  intro object' hobject'
  rw [hobject, Option.some.injEq] at hobject'
  exact hobject' ▸ (h.run steps).same hid

end State

/-- **Isolation.** In any run, whatever the messages before and after it are: the copy of a
header reads as it was delivered for as long as Python holds it, and so does the copy of a
message that is self-contained. -/
theorem isolated (memory : Memory) (before after : List (Step X)) (buffer : ℕ)
    (header : Native.Header (Slice data)) (value : Native.Message X (Slice data)) :
    let entered := ((State.start memory).run before).enter buffer header value
    let last := entered.run after
    ∃ arg0 arg1 others, entered.held = arg0 :: arg1 :: others ∧
      (arg0.1 ∈ last.ids → last.memory.read X arg0.1 = arg0.2) ∧
      (value.SelfContained → arg1.1 ∈ last.ids → last.memory.read X arg1.1 = arg1.2) := by
  generalize (State.start memory).run before = self
  refine ⟨_, _, _, rfl, ?_, ?_⟩
  · intro hid
    have hnext : self.memory.next + 2 < (self.enter buffer header value).memory.next := by
      show _ < self.memory.next + 4
      omega
    exact State.Present.read_eq ⟨hnext, fun _ => Handler.dispatch_arg0⟩ (by simp [Object.refs])
      Handler.dispatch_arg0 after hid
  · intro hvalue hid
    have hnext : self.memory.next + 3 < (self.enter buffer header value).memory.next := by
      show _ < self.memory.next + 4
      omega
    have hborrowed : ∀ v ∈ (Slice.view buffer <$> value).borrowed, v.length = 0 := by
      rw [Native.Message.borrowed_map]
      intro v hv
      obtain ⟨s, hs, rfl⟩ := List.mem_map.mp hv
      exact hvalue s hs
    exact State.Present.read_eq ⟨hnext, fun _ => Handler.dispatch_arg1⟩
      (Handler.length_eq_zero_of_mem_refs hborrowed) Handler.dispatch_arg1 after hid

/-- A logout that is kept, in a buffer that is then used for a `BusinessMessageReject`, which
is kept as well, and freed. -/
theorem isolated_logout :
    let header : Native.Header (Slice [98, 121, 101]) :=
      ⟨⟨0⟩, ⟨0⟩, ⟨0, 1, by decide⟩, ⟨1, 1, by decide⟩, 1, 0⟩
    let entered := (State.start default : State default).enter 0 header
      (.logout ⟨⟨0, 3, by decide⟩⟩)
    let last := entered.run [.leave true true,
      .enter 0 [120] ⟨⟨0⟩, ⟨0⟩, ⟨0, 1, by decide⟩, ⟨0, 1, by decide⟩, 1, 0⟩
        (.businessMessageReject ⟨1, ⟨0⟩, ⟨0, 0, by decide⟩, ⟨0⟩, ⟨0, 1, by decide⟩⟩),
      .leave true true, .write 0 none]
    ∃ arg0 arg1 others, entered.held = arg0 :: arg1 :: others ∧
      last.memory.read default arg0.1 = arg0.2 ∧ last.memory.read default arg1.1 = arg1.2 := by
  obtain ⟨arg0, arg1, others, hheld, harg0, harg1⟩ := isolated (X := default) default []
    [.leave true true,
      .enter 0 [120] ⟨⟨0⟩, ⟨0⟩, ⟨0, 1, by decide⟩, ⟨0, 1, by decide⟩, 1, 0⟩
        (.businessMessageReject ⟨1, ⟨0⟩, ⟨0, 0, by decide⟩, ⟨0⟩, ⟨0, 1, by decide⟩⟩),
      .leave true true, .write 0 none] 0
    (⟨⟨0⟩, ⟨0⟩, ⟨0, 1, by decide⟩, ⟨1, 1, by decide⟩, 1, 0⟩ :
      Native.Header (Slice [98, 121, 101])) (.logout ⟨⟨0, 3, by decide⟩⟩)
  refine ⟨arg0, arg1, others, hheld, harg0 ?_, harg1 ?_ ?_⟩
  · obtain ⟨rfl, -⟩ := List.cons_eq_cons.mp hheld
    decide
  · intro s hs
    cases hs
  · obtain ⟨-, htail⟩ := List.cons_eq_cons.mp hheld
    obtain ⟨rfl, -⟩ := List.cons_eq_cons.mp htail
    decide

/-! ### While a callback is running -/

/-- The numbers of the objects of a call. -/
def Frame.ids (frame : Frame) : List ℕ := [frame.header2, frame.value2, frame.arg0, frame.arg1]

namespace State

variable {self base : State X} {id buffer : ℕ} {object : Object StringView}

/-- A step that can come while the callbacks are running that ran in `base`, and that does not
use a buffer: Python may call the decoder for another buffer, callbacks that were entered in
the meantime return, and Python lets go of objects that it holds. -/
def Within (self base : State X) (buffer : ℕ) : Step X → Prop
  | .enter buffer' _ _ _ => buffer' ≠ buffer
  | .leave _ _ => base.frames.length < self.frames.length
  | .write buffer' _ => buffer' ≠ buffer
  | .drop id => id ∈ self.ids

/-- A run of such steps. -/
def Stays (base : State X) (buffer : ℕ) : State X → List (Step X) → Prop
  | _, [] => True
  | self, x :: steps => self.Within base buffer x ∧ Stays base buffer (self.step x) steps

/-- The callbacks that ran in `base` are still running, the ones that were entered since have
objects of their own, and a temporary of `base` and a buffer are as they were. -/
structure Running (state : State X) (base : State X) (buffer id : ℕ)
    (object : Object StringView) : Prop where
  le : base.memory.next ≤ state.memory.next
  frames : ∃ inner, state.frames = inner ++ base.frames ∧
    ∀ frame ∈ inner, ∀ i ∈ frame.ids, base.memory.next ≤ i
  notMem : id ∉ state.ids
  same : state.memory.objects id = some object
  content : state.memory.buffers buffer = base.memory.buffers buffer

/-- The end of another object leaves the temporary alone. -/
theorem Running.destroy (h : self.Running base buffer id object) {id' : ℕ} (hne : id ≠ id') :
    (self.destroy id').Running base buffer id object where
  le := h.le
  frames := h.frames
  notMem hid := h.notMem (mem_ids_destroy hid).1
  same := (Memory.destroy_of_ne hne).trans h.same
  content := h.content

theorem Running.release (h : self.Running base buffer id object) (keep : Bool) {id' : ℕ}
    (hne : id ≠ id') : (self.release keep id').Running base buffer id object := by
  cases keep with
  | false => exact h.destroy hne
  | true => exact h

/-- A callback that was entered since takes its own objects with it when it returns. -/
theorem Running.leave (h : self.Running base buffer id object) (hid : id < base.memory.next)
    (hlength : base.frames.length < self.frames.length) (keep0 keep1 : Bool) :
    (self.leave keep0 keep1).Running base buffer id object := by
  obtain ⟨memory, frames, held⟩ := self
  obtain ⟨inner, hframes, hinner⟩ := h.frames
  cases inner with
  | nil =>
      rw [hframes, List.nil_append] at hlength
      omega
  | cons frame inner =>
      obtain ⟨hframe, hrest⟩ := List.forall_mem_cons.mp hinner
      obtain rfl : frames = frame :: (inner ++ base.frames) := hframes
      have hne : ∀ i ∈ frame.ids, id ≠ i := by
        intro i hi
        have hle := hframe i hi
        omega
      have hpopped : Running ⟨memory, inner ++ base.frames, held⟩ base buffer id object :=
        ⟨h.le, ⟨inner, rfl, hrest⟩, h.notMem, h.same, h.content⟩
      exact (((hpopped.release keep1 (hne _ (by simp [Frame.ids]))).release keep0
        (hne _ (by simp [Frame.ids]))).destroy (hne _ (by simp [Frame.ids]))).destroy
          (hne _ (by simp [Frame.ids]))

/-- Entering another callback creates objects under new numbers. -/
theorem Running.enter (h : self.Running base buffer id object) (hid : id < base.memory.next)
    {buffer' : ℕ} (hbuffer : buffer' ≠ buffer) (header : Native.Header (Slice data))
    (value : Native.Message X (Slice data)) :
    (self.enter buffer' header value).Running base buffer id object where
  le := by
    have hnext : (self.enter buffer' header value).memory.next = self.memory.next + 4 := rfl
    have hle := h.le
    omega
  frames := by
    obtain ⟨inner, hframes, hinner⟩ := h.frames
    let frame : Frame :=
      ⟨self.memory.next, self.memory.next + 1, self.memory.next + 2, self.memory.next + 3⟩
    refine ⟨frame :: inner, congrArg (frame :: ·) hframes, ?_⟩
    refine List.forall_mem_cons.mpr ⟨?_, hinner⟩
    intro i hi
    have hle := h.le
    simp only [Frame.ids, frame, List.mem_cons, List.not_mem_nil, or_false] at hi
    omega
  notMem := by
    have hids : (self.enter buffer' header value).ids =
        (self.memory.next + 2) :: (self.memory.next + 3) :: self.ids := rfl
    have hle := h.le
    rw [hids, List.mem_cons, List.mem_cons]
    rintro (heq | heq | hmem)
    · omega
    · omega
    · exact h.notMem hmem
  same := Handler.dispatch_of_live h.same
  content := (Function.update_of_ne (Ne.symm hbuffer) ..).trans h.content

/-- **One step.** -/
theorem Running.step (h : self.Running base buffer id object) (hid : id < base.memory.next)
    {x : Step X} (hx : self.Within base buffer x) :
    (self.step x).Running base buffer id object := by
  cases x with
  | enter buffer' data header value => exact h.enter hid hx header value
  | leave keep0 keep1 => exact h.leave hid hx keep0 keep1
  | write buffer' content =>
      exact ⟨h.le, h.frames, h.notMem, h.same,
        (Function.update_of_ne (Ne.symm hx) ..).trans h.content⟩
  | drop id' =>
      refine h.destroy ?_
      rintro rfl
      exact h.notMem hx

/-- The numbers of the objects that Python holds were given out. -/
def IdsLt (self : State X) : Prop := ∀ i ∈ self.ids, i < self.memory.next

theorem IdsLt.destroy (h : self.IdsLt) (id : ℕ) : (self.destroy id).IdsLt :=
  fun i hi => h i (mem_ids_destroy hi).1

theorem IdsLt.release (h : self.IdsLt) (keep : Bool) (id : ℕ) : (self.release keep id).IdsLt := by
  cases keep with
  | false => exact h.destroy id
  | true => exact h

/-- One step. -/
theorem IdsLt.step (h : self.IdsLt) (x : Step X) : (self.step x).IdsLt := by
  cases x with
  | enter buffer data header value =>
      have hids : (self.enter buffer header value).ids =
          (self.memory.next + 2) :: (self.memory.next + 3) :: self.ids := rfl
      intro i hi
      show i < self.memory.next + 4
      change i ∈ (self.enter buffer header value).ids at hi
      rw [hids, List.mem_cons, List.mem_cons] at hi
      rcases hi with rfl | rfl | hi
      · omega
      · omega
      · have hlt := h i hi
        omega
  | leave keep0 keep1 =>
      obtain ⟨memory, frames, held⟩ := self
      cases frames with
      | nil => exact h
      | cons frame frames =>
          have hpopped : IdsLt ⟨memory, frames, held⟩ := h
          exact (((hpopped.release keep1 _).release keep0 _).destroy _).destroy _
  | write buffer content => exact h
  | drop id => exact h.destroy id

/-- Runs. -/
theorem idsLt_run (memory : Memory) (steps : List (Step X)) :
    ((start memory).run steps).IdsLt :=
  Machine.foldl_invariant (P := IdsLt) (Q := fun _ => True) (fun _ x h _ => h.step x)
    (fun _ _ => trivial) nofun

/-- **Runs.** -/
theorem Running.run (h : self.Running base buffer id object) (hid : id < base.memory.next)
    {steps : List (Step X)} (hsteps : Stays base buffer self steps) :
    (self.run steps).Running base buffer id object := by
  induction steps generalizing self with
  | nil => exact h
  | cons x steps ih => exact ih (h.step hid hsteps.1) hsteps.2

end State

/-- Each reference of a new wrapper is to the buffer, or to a member of the wrapper itself. -/
theorem Handler.region_of_mem_refs {memory : Memory} {buffer : ℕ}
    {header : Native.Header StringView} {value : Native.Message X (Slice data)} {v : StringView}
    (hv : v ∈ (value2 memory header (Slice.view buffer <$> value)).refs) :
    v.region = .buffer buffer ∨ ∃ m, v.region = .member (memory.next + 1) m := by
  let memory' := memory.create (.header (.ofValue memory.string header))
  change v ∈ (Encodeable.ofValue memory'.string (Memory.view memory'.next)
    (Slice.view buffer <$> value)).refs at hv
  rcases Encodeable.refs_ofValue memory'.string (Memory.view memory'.next)
    (Slice.view buffer <$> value) with hrefs | ⟨ps, -, hrefs, -⟩
  · rw [hrefs, Native.Message.borrowed_map] at hv
    obtain ⟨s, -, rfl⟩ := List.mem_map.mp hv
    exact .inl rfl
  · rw [hrefs] at hv
    obtain ⟨p, -, rfl⟩ := List.mem_map.mp hv
    exact .inr ⟨p.1, rfl⟩

/-- **Within the callback.** While its callback is running, the copies of a header and of any
message, self-contained or not, read as they were delivered, whatever else is decoded and
delivered in the meantime, as long as the buffer that the message was decoded from is not
used. -/
theorem reads_while_running (memory : Memory) (before after : List (Step X)) (buffer : ℕ)
    (header : Native.Header (Slice data)) (value : Native.Message X (Slice data))
    (hafter : State.Stays (((State.start memory).run before).enter buffer header value) buffer
      (((State.start memory).run before).enter buffer header value) after) :
    let entered := ((State.start memory).run before).enter buffer header value
    let last := entered.run after
    ∃ arg0 arg1 others, entered.held = arg0 :: arg1 :: others ∧
      (arg0.1 ∈ last.ids → last.memory.read X arg0.1 = arg0.2) ∧
      (arg1.1 ∈ last.ids → last.memory.read X arg1.1 = arg1.2) := by
  have hlt := State.idsLt_run memory before
  generalize (State.start memory).run before = self at hafter hlt ⊢
  have hnext : (self.enter buffer header value).memory.next = self.memory.next + 4 := rfl
  have hids : (self.enter buffer header value).ids =
      (self.memory.next + 2) :: (self.memory.next + 3) :: self.ids := rfl
  refine ⟨_, _, _, rfl, ?_, ?_⟩
  · have hheader : self.memory.next + 2 < (self.enter buffer header value).memory.next := by
      omega
    exact State.Present.read_eq ⟨hheader, fun _ => Handler.dispatch_arg0⟩
      (by simp [Object.refs]) Handler.dispatch_arg0 after
  · intro hid
    have hpresent : (self.enter buffer header value).Present (self.memory.next + 3) _ :=
      ⟨by omega, fun _ => Handler.dispatch_arg1⟩
    have hnotMem : self.memory.next + 1 ∉ (self.enter buffer header value).ids := by
      rw [hids, List.mem_cons, List.mem_cons]
      rintro (heq | heq | hmem)
      · omega
      · omega
      · have hold := hlt _ hmem
        omega
    have hnone : ∀ frame ∈ ([] : List Frame), ∀ i ∈ frame.ids,
        (self.enter buffer header value).memory.next ≤ i := by
      intro frame hframe
      cases hframe
    have hrunning : ((self.enter buffer header value).run after).Running
        (self.enter buffer header value) buffer (self.memory.next + 1) _ :=
      State.Running.run ⟨Nat.le_refl _, ⟨[], rfl, hnone⟩, hnotMem, Handler.dispatch_value2, rfl⟩
        (by omega) hafter
    refine (Memory.read_eq ((hpresent.run after).same hid)).trans
      (Eq.trans ?_ (Memory.read_eq Handler.dispatch_arg1).symm)
    refine congrArg some (Memory.reading_congr fun v hv => Region.View.resolve_congr ?_)
    rcases Handler.region_of_mem_refs hv with hregion | ⟨m, hregion⟩
    · rw [hregion]
      exact hrunning.content
    · rw [hregion]
      exact congrArg (Option.bind · _) (hrunning.same.trans Handler.dispatch_value2.symm)

/-- While a callback has a `BusinessMessageReject`, a logout is decoded from another buffer,
its callback returns, and the other buffer is freed. -/
theorem reads_businessMessageReject :
    let header : Native.Header (Slice [120]) :=
      ⟨⟨0⟩, ⟨0⟩, ⟨0, 1, by decide⟩, ⟨0, 1, by decide⟩, 1, 0⟩
    let entered := (State.start default : State default).enter 0 header
      (.businessMessageReject ⟨1, ⟨0⟩, ⟨0, 0, by decide⟩, ⟨0⟩, ⟨0, 1, by decide⟩⟩)
    let last := entered.run [.enter 1 [121] ⟨⟨0⟩, ⟨0⟩, ⟨0, 1, by decide⟩, ⟨0, 1, by decide⟩, 1, 0⟩
      (.logout ⟨⟨0, 1, by decide⟩⟩), .leave false true, .write 1 none]
    ∃ arg0 arg1 others, entered.held = arg0 :: arg1 :: others ∧
      last.memory.read default arg0.1 = arg0.2 ∧ last.memory.read default arg1.1 = arg1.2 := by
  obtain ⟨arg0, arg1, others, hheld, harg0, harg1⟩ :=
    reads_while_running (X := default) default []
      [.enter 1 [121] ⟨⟨0⟩, ⟨0⟩, ⟨0, 1, by decide⟩, ⟨0, 1, by decide⟩, 1, 0⟩
        (.logout ⟨⟨0, 1, by decide⟩⟩), .leave false true, .write 1 none] 0
      (⟨⟨0⟩, ⟨0⟩, ⟨0, 1, by decide⟩, ⟨0, 1, by decide⟩, 1, 0⟩ : Native.Header (Slice [120]))
      (.businessMessageReject ⟨1, ⟨0⟩, ⟨0, 0, by decide⟩, ⟨0⟩, ⟨0, 1, by decide⟩⟩)
      ⟨Nat.one_ne_zero, Nat.lt_succ_self 1, Nat.one_ne_zero, trivial⟩
  refine ⟨arg0, arg1, others, hheld, harg0 ?_, harg1 ?_⟩
  · obtain ⟨rfl, -⟩ := List.cons_eq_cons.mp hheld
    decide
  · obtain ⟨-, htail⟩ := List.cons_eq_cons.mp hheld
    obtain ⟨rfl, -⟩ := List.cons_eq_cons.mp htail
    decide

end RoqPython.Fix
