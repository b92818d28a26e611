import RoqPython.Lib.Machine
import RoqPython.Fix.Memory

/-!
# The Lifetime of Decoded Messages

`Decoder::Handler::dispatch` constructs two temporary wrappers from the native header and
message, hands Python a copy of each, and destroys the temporaries when the callback
returns. The copies are member by member: text that a member owns is copied, a reference is
copied as a reference. The callback may keep the copies for as long as it likes, and the
buffer that was decoded may be written or freed.

A run is any sequence of steps, in any order: a callback is entered (also while another one
is running), the innermost callback returns, a buffer is written or freed, Python lets go
of an object.

## Main results

* `kept_reads_as_delivered`: in a run whose messages are all self-contained, every object
  that Python holds reads what it read when it was delivered.
* `exists_altered`: every message that is not self-contained can be kept and altered.
-/

namespace RoqPython.Fix

open Region (View)

variable {X : Foreign} {data : Bytes}

/-! ### Decoded text -/

/-- A part of the data that is decoded. -/
structure Slice (data : Bytes) where
  offset : ℕ
  length : ℕ
  fits : offset + length ≤ data.length

/-- The reference that the native decoder makes to a part of a buffer. -/
def Slice.view (buffer : ℕ) (self : Slice data) : StringView :=
  ⟨.buffer buffer, self.offset, self.length⟩

/-- A message is self-contained when its wrapper holds no text by reference: it is not a
`BusinessMessageReject` with a text, and no entry of its lists has one. -/
def Native.Message.SelfContained (message : Native.Message X (Slice data)) : Prop :=
  ∀ s ∈ message.borrowed, s.length = 0

/-! ### Runs -/

/-- The objects of a call of `Handler::dispatch` whose callback is running. -/
structure Frame where
  header2 : ℕ
  value2 : ℕ
  arg0 : ℕ
  arg1 : ℕ

/-- `Handler::dispatch`, up to the callback: the temporaries and their copies. -/
def Handler.dispatch (memory : Memory) (header : Native.Header StringView)
    (value : Native.Message X StringView) : Memory × Frame :=
  let header2 : Object StringView := .header (.ofValue memory.string header)
  let memory₁ := memory.create header2
  let value2 : Object StringView :=
    .message (.ofValue memory₁.string (Memory.view memory₁.next) value)
  let memory₂ := memory₁.create value2
  -- `pybind11::cast` copies member by member, references included.
  let memory₃ := memory₂.create header2
  let memory₄ := memory₃.create value2
  (memory₄, ⟨memory.next, memory₁.next, memory₂.next, memory₃.next⟩)

/-- A step of a run. -/
inductive Step (X : Foreign)
  /-- The decoder is called with `data` in `buffer`, and calls its handler. -/
  | enter (buffer : ℕ) (data : Bytes) (header : Native.Header (Slice data))
      (value : Native.Message X (Slice data))
  /-- The innermost callback returns and may have kept its arguments. -/
  | leave (keep0 keep1 : Bool)
  /-- A buffer is written, or freed (`none`). -/
  | write (buffer : ℕ) (content : Option Bytes)
  /-- Python lets go of an object. -/
  | drop (id : ℕ)

/-- The memory, the calls that wait for their callback, and the objects that Python holds,
each with what it read when it was delivered. -/
structure State (X : Foreign) where
  memory : Memory
  frames : List Frame
  held : List (ℕ × Option (Native.Value X (Option Bytes)))

namespace State

/-- Nothing was delivered yet. -/
def start (memory : Memory) : State X := ⟨memory, [], []⟩

/-- An object ends its life. -/
def destroy (self : State X) (id : ℕ) : State X where
  memory := self.memory.destroy id
  frames := self.frames
  held := self.held.filter (·.1 ≠ id)

/-- An argument goes, unless the callback kept it. -/
def release (self : State X) (keep : Bool) (id : ℕ) : State X :=
  if keep then self else self.destroy id

/-- A callback is entered. -/
def enter (self : State X) (buffer : ℕ) (header : Native.Header (Slice data))
    (value : Native.Message X (Slice data)) : State X :=
  let memory := self.memory.write buffer (some data)
  let (memory, frame) :=
    Handler.dispatch memory (Slice.view buffer <$> header) (Slice.view buffer <$> value)
  { memory
    frames := frame :: self.frames
    held := (frame.arg0, memory.read X frame.arg0) ::
      (frame.arg1, memory.read X frame.arg1) :: self.held }

/-- A callback returns: what it did not keep of its arguments goes, then the temporaries. -/
def leave (self : State X) (keep0 keep1 : Bool) : State X :=
  match self.frames with
  | [] => self
  | frame :: frames =>
      let self := ({ self with frames }.release keep1 frame.arg1).release keep0 frame.arg0
      (self.destroy frame.value2).destroy frame.header2

/-- One step. -/
def step (self : State X) : Step X → State X
  | .enter buffer _ header value => self.enter buffer header value
  | .leave keep0 keep1 => self.leave keep0 keep1
  | .write buffer content => { self with memory := self.memory.write buffer content }
  | .drop id => self.destroy id

/-- A run. -/
def run (self : State X) (steps : List (Step X)) : State X := steps.foldl step self

/-- Every object that Python holds reads what it read when it was delivered. -/
def AsDelivered (self : State X) : Prop :=
  ∀ p ∈ self.held, self.memory.read X p.1 = p.2

end State

/-! ### What a callback is given -/

namespace Handler

variable {memory : Memory} {header : Native.Header StringView}
  {value : Native.Message X StringView}

/-- The wrapper of the message that `dispatch` constructs. -/
def value2 (memory : Memory) (header : Native.Header StringView)
    (value : Native.Message X StringView) : Object StringView :=
  let memory := memory.create (.header (.ofValue memory.string header))
  .message (.ofValue memory.string (Memory.view memory.next) value)

/-- The first argument is a copy of the wrapper of the header. -/
theorem dispatch_arg0 : (dispatch memory header value).1.objects (memory.next + 2) =
    some (.header (.ofValue memory.string header)) :=
  Memory.create_of_live Memory.create_self

/-- The second argument is a copy of the wrapper of the message. -/
theorem dispatch_arg1 : (dispatch memory header value).1.objects (memory.next + 3) =
    some (value2 memory header value) :=
  Memory.create_self

/-- The wrapper of the message itself is still there. -/
theorem dispatch_value2 : (dispatch memory header value).1.objects (memory.next + 1) =
    some (value2 memory header value) :=
  Memory.create_of_live (Memory.create_of_live Memory.create_self)

/-- The objects that were there before are still there. -/
theorem dispatch_of_live {id : ℕ} {object : Object StringView}
    (h : memory.objects id = some object) :
    (dispatch memory header value).1.objects id = some object :=
  Memory.create_of_live (Memory.create_of_live (Memory.create_of_live (Memory.create_of_live h)))

/-- The wrapper of a self-contained message holds no text by reference. -/
theorem length_eq_zero_of_mem_refs (h : ∀ v ∈ value.borrowed, v.length = 0) :
    ∀ v ∈ (value2 memory header value).refs, v.length = 0 := by
  intro v hv
  let memory' := memory.create (.header (.ofValue memory.string header))
  change v ∈ (Encodeable.ofValue memory'.string (Memory.view memory'.next) value).refs at hv
  rcases Encodeable.refs_ofValue memory'.string (Memory.view memory'.next) value with
    hrefs | ⟨ps, -, hrefs, hcopies⟩
  · rw [hrefs] at hv
    exact h v hv
  · rw [hrefs] at hv
    obtain ⟨p, hp, rfl⟩ := List.mem_map.mp hv
    have hcopy : p.2 ∈ value.borrowed.map memory'.string :=
      hcopies ▸ List.mem_map_of_mem hp
    obtain ⟨w, hw, htext⟩ := List.mem_map.mp hcopy
    have hempty : memory'.string w = [] := by
      rw [Memory.string, View.resolve_of_length_eq_zero (h w hw), Option.getD_some]
    show p.2.length = 0
    rw [← htext, hempty, List.length_nil]

end Handler

/-! ### Self-contained runs -/

namespace State

/-- The object under a number holds no text by reference, and reads what is noted. -/
def Intact (memory : Memory) (p : ℕ × Option (Native.Value X (Option Bytes))) : Prop :=
  ∃ object, memory.objects p.1 = some object ∧ (∀ v ∈ object.refs, v.length = 0) ∧
    some (memory.reading X object) = p.2

/-- An intact object reads what is noted. -/
theorem Intact.read_eq {memory : Memory} {p : ℕ × Option (Native.Value X (Option Bytes))}
    (h : Intact memory p) : memory.read X p.1 = p.2 := by
  obtain ⟨object, hobject, -, hreading⟩ := h
  rw [Memory.read_eq hobject, hreading]

/-- **Frame rule.** An intact object stays intact in every memory in which it is the same
object, whatever happens to buffers and to other objects. -/
theorem Intact.of_objects {memory memory' : Memory}
    {p : ℕ × Option (Native.Value X (Option Bytes))} (h : Intact memory p)
    (hobjects : ∀ object, memory.objects p.1 = some object → memory'.objects p.1 = some object) :
    Intact memory' p := by
  obtain ⟨object, hobject, hrefs, hreading⟩ := h
  refine ⟨object, hobjects object hobject, hrefs, ?_⟩
  rw [← hreading]
  refine congrArg some (Memory.reading_congr ?_)
  intro v hv
  rw [View.resolve_of_length_eq_zero (hrefs v hv), View.resolve_of_length_eq_zero (hrefs v hv)]

/-- Everything that Python holds is intact. -/
def AllIntact (self : State X) : Prop := ∀ p ∈ self.held, Intact self.memory p

/-- The end of an object leaves what is held of the others intact. -/
theorem AllIntact.destroy {self : State X} (h : self.AllIntact) (id : ℕ) :
    (self.destroy id).AllIntact := by
  intro p hp
  obtain ⟨hp, hne⟩ := List.mem_filter.mp hp
  refine (h p hp).of_objects ?_
  intro object hobject
  rw [State.destroy, Memory.destroy_of_ne (of_decide_eq_true hne)]
  exact hobject

/-- Entering a callback with a self-contained message keeps everything intact. -/
theorem AllIntact.enter {self : State X} (h : self.AllIntact) {buffer : ℕ}
    {header : Native.Header (Slice data)} {value : Native.Message X (Slice data)}
    (hvalue : value.SelfContained) : (self.enter buffer header value).AllIntact := by
  have hborrowed : ∀ v ∈ (Slice.view buffer <$> value).borrowed, v.length = 0 := by
    rw [Native.Message.borrowed_map]
    intro v hv
    obtain ⟨s, hs, rfl⟩ := List.mem_map.mp hv
    exact hvalue s hs
  intro p hp
  rcases List.mem_cons.mp hp with rfl | hp
  · exact ⟨_, Handler.dispatch_arg0, by simp [Object.refs],
      (Memory.read_eq Handler.dispatch_arg0).symm⟩
  rcases List.mem_cons.mp hp with rfl | hp
  · exact ⟨_, Handler.dispatch_arg1, Handler.length_eq_zero_of_mem_refs hborrowed,
      (Memory.read_eq Handler.dispatch_arg1).symm⟩
  · refine (h p hp).of_objects ?_
    intro object hobject
    exact Handler.dispatch_of_live hobject

/-- So does letting go of an argument, or keeping it. -/
theorem AllIntact.release {self : State X} (h : self.AllIntact) (keep : Bool) (id : ℕ) :
    (self.release keep id).AllIntact := by
  cases keep with
  | false => exact h.destroy id
  | true => exact h

/-- The return of a callback keeps everything intact that is still held. -/
theorem AllIntact.leave {self : State X} (h : self.AllIntact) (keep0 keep1 : Bool) :
    (self.leave keep0 keep1).AllIntact := by
  obtain ⟨memory, frames, held⟩ := self
  cases frames with
  | nil => exact h
  | cons frame frames =>
      have hframes : AllIntact ⟨memory, frames, held⟩ := h
      exact (((hframes.release keep1 _).release keep0 _).destroy _).destroy _

end State

/-- The message that a step delivers, if any, is self-contained. -/
def Step.SelfContained : Step X → Prop
  | .enter _ _ _ value => value.SelfContained
  | _ => True

namespace State

/-- One step keeps everything intact, when the message that it delivers is self-contained. -/
theorem AllIntact.step {self : State X} (h : self.AllIntact) {x : Step X}
    (hx : x.SelfContained) : (self.step x).AllIntact := by
  cases x with
  | enter buffer data header value => exact h.enter hx
  | leave keep0 keep1 => exact h.leave keep0 keep1
  | write buffer content =>
      intro p hp
      refine (h p hp).of_objects ?_
      intro object hobject
      exact hobject
  | drop id => exact h.destroy id

/-- A run keeps everything intact. -/
theorem AllIntact.run {self : State X} (h : self.AllIntact) {steps : List (Step X)}
    (hsteps : ∀ x ∈ steps, x.SelfContained) : (self.run steps).AllIntact :=
  Machine.foldl_invariant (fun _ _ hself hx => hself.step hx) hsteps h

end State

/-- **Kept objects.** In a run whose messages are all self-contained, every object that
Python holds reads what it read when it was delivered. -/
theorem kept_reads_as_delivered (memory : Memory) {steps : List (Step X)}
    (hsteps : ∀ x ∈ steps, x.SelfContained) :
    ((State.start memory).run steps).AsDelivered := by
  have hstart : (State.start (X := X) memory).AllIntact := by
    intro p hp
    cases hp
  intro p hp
  exact (hstart.run hsteps p hp).read_eq

/-- A logout that is kept over the end of its buffer. -/
theorem kept_logout :
    ((State.start default : State default).run
      [.enter 0 [98, 121, 101] ⟨⟨0⟩, ⟨0⟩, ⟨0, 1, by decide⟩, ⟨1, 1, by decide⟩, 1, 0⟩
        (.logout ⟨⟨0, 3, by decide⟩⟩),
       .leave true true, .write 0 none]).AsDelivered := by
  refine kept_reads_as_delivered default ?_
  intro x hx
  rcases List.mem_cons.mp hx with rfl | hx
  · intro s hs
    cases hs
  rcases List.mem_cons.mp hx with rfl | hx
  · trivial
  · obtain rfl := List.mem_singleton.mp hx
    trivial

/-- A kept `BusinessMessageReject` whose buffer is written reads what was written, and a
kept `SecurityList` reads nothing once the callback has returned. -/
theorem kept_altered :
    ¬ ((State.start default : State default).run
      [.enter 0 [120] ⟨⟨0⟩, ⟨0⟩, ⟨0, 1, by decide⟩, ⟨0, 1, by decide⟩, 1, 0⟩
        (.businessMessageReject ⟨1, ⟨0⟩, ⟨0, 0, by decide⟩, ⟨0⟩, ⟨0, 1, by decide⟩⟩),
       .leave true true, .write 0 (some [121])]).AsDelivered ∧
    ¬ ((State.start default : State default).run
      [.enter 0 [120] ⟨⟨0⟩, ⟨0⟩, ⟨0, 1, by decide⟩, ⟨0, 1, by decide⟩, 1, 0⟩
        (.securityList ⟨⟨0, 1, by decide⟩, ⟨0, 1, by decide⟩, ⟨0⟩,
          [⟨⟨0, 1, by decide⟩, ⟨⟨0⟩, ⟨0⟩⟩, ⟨0, 1, by decide⟩, ⟨⟨0⟩, ⟨0⟩⟩, ⟨0, 1, by decide⟩,
            ⟨⟨0⟩, ⟨0⟩⟩⟩]⟩),
       .leave true true]).AsDelivered := by
  constructor
  · intro h
    have hread := h (3, _) (List.mem_cons_of_mem _ List.mem_cons_self)
    have htext := congrArg (Option.map Native.Value.borrowed) hread
    exact absurd htext (by decide)
  · intro h
    have hread := h (3, _) (List.mem_cons_of_mem _ List.mem_cons_self)
    have htext := congrArg (Option.map Native.Value.borrowed) hread
    exact absurd htext (by decide)

/-! ### Messages that are not self-contained -/

namespace Handler

variable {memory : Memory} {buffer : ℕ} {header : Native.Header StringView}
  {value : Native.Message X (Slice data)}

/-- A part of the data that is decoded resolves while the buffer holds the data. -/
theorem resolve_slice (hbuffer : memory.buffers buffer = some data) (s : Slice data) :
    (s.view buffer).resolve memory.store = some ((data.drop s.offset).take s.length) :=
  View.resolve_slice hbuffer s.fits

/-- The wrapper of a message that is not self-contained holds a reference to text which
resolves, and which points to the buffer or to the wrapper that is about to go. -/
theorem exists_ref (hbuffer : memory.buffers buffer = some data)
    (hvalue : ¬ value.SelfContained) :
    ∃ v ∈ (value2 memory header (Slice.view buffer <$> value)).refs, v.length ≠ 0 ∧
      (v.region = .buffer buffer ∨ ∃ m, v.region = .member (memory.next + 1) m) ∧
      v.resolve (dispatch memory header (Slice.view buffer <$> value)).1.store ≠ none := by
  obtain ⟨s, hs, hlength⟩ : ∃ s ∈ value.borrowed, s.length ≠ 0 := by
    by_contra hnone
    refine hvalue ?_
    intro s hs
    by_contra hlength
    exact hnone ⟨s, hs, hlength⟩
  have hborrowed : s.view buffer ∈ (Slice.view buffer <$> value).borrowed := by
    rw [Native.Message.borrowed_map]
    exact List.mem_map_of_mem hs
  let memory' := memory.create (.header (.ofValue memory.string header))
  rcases Encodeable.refs_ofValue memory'.string (Memory.view memory'.next)
    (Slice.view buffer <$> value) with hrefs | ⟨ps, hps, hrefs, hcopies⟩
  · -- The reference of the native message itself.
    refine ⟨s.view buffer, ?_, hlength, .inl rfl, ?_⟩
    · show s.view buffer ∈ (Encodeable.ofValue memory'.string _ _).refs
      rw [hrefs]
      exact hborrowed
    · have hframe : (s.view buffer).resolve
          (dispatch memory header (Slice.view buffer <$> value)).1.store =
            (s.view buffer).resolve memory.store := View.resolve_congr rfl
      rw [hframe, resolve_slice hbuffer]
      exact Option.some_ne_none _
  · -- A reference to the copy of the text in the wrapper.
    have hcopy : memory'.string (s.view buffer) ∈ ps.map Prod.snd :=
      hcopies ▸ List.mem_map_of_mem hborrowed
    obtain ⟨p, hp, htext⟩ := List.mem_map.mp hcopy
    refine ⟨Memory.view memory'.next p.1 p.2, ?_, ?_, .inr ⟨p.1, rfl⟩, ?_⟩
    · show _ ∈ (Encodeable.ofValue memory'.string _ _).refs
      rw [hrefs]
      exact List.mem_map_of_mem hp
    · show p.2.length ≠ 0
      have hbuffer' : memory'.buffers buffer = some data := hbuffer
      have hresolve := resolve_slice hbuffer' s
      rw [htext, Memory.string, hresolve, Option.getD_some,
        View.length_of_resolve hresolve]
      exact hlength
    · have howned : (Memory.view (memory.next + 1) p.1 p.2).resolve
          (dispatch memory header (Slice.view buffer <$> value)).1.store = some p.2 :=
        Memory.resolve_view dispatch_value2 (hps hp)
      intro hnone
      cases howned.symm.trans hnone

end Handler

/-- **Exactness.** A message that is not self-contained can be kept and altered: the
callback keeps its arguments, returns, and the buffer goes. -/
theorem exists_altered (self : State X) (buffer : ℕ) (header : Native.Header (Slice data))
    {value : Native.Message X (Slice data)} (hvalue : ¬ value.SelfContained) :
    ¬ ((self.enter buffer header value).run
        [.leave true true, .write buffer none]).AsDelivered := by
  let memory := self.memory.write buffer (some data)
  let header' := Slice.view buffer <$> header
  let value' := Slice.view buffer <$> value
  let entered := (Handler.dispatch memory header' value').1
  let last := ((self.enter buffer header value).run
    [.leave true true, .write buffer none]).memory
  have hbuffer : memory.buffers buffer = some data := Function.update_self ..
  obtain ⟨v, hv, hlength, hregion, hresolve⟩ :
      ∃ v ∈ (Handler.value2 memory header' value').refs, v.length ≠ 0 ∧
        (v.region = .buffer buffer ∨ ∃ m, v.region = .member (memory.next + 1) m) ∧
        v.resolve entered.store ≠ none := Handler.exists_ref hbuffer hvalue
  intro h
  -- The copy is still held, and it is still the same object.
  have hread : last.read X (memory.next + 3) = entered.read X (memory.next + 3) := by
    refine h (memory.next + 3, entered.read X (memory.next + 3)) ?_
    refine List.mem_filter.mpr ⟨List.mem_filter.mpr ⟨?_, ?_⟩, ?_⟩
    · exact List.mem_cons_of_mem _ List.mem_cons_self
    · show decide (memory.next + 3 ≠ memory.next + 1) = true
      simp
    · show decide (memory.next + 3 ≠ memory.next) = true
      simp
  have hentered : entered.objects (memory.next + 3) =
      some (Handler.value2 memory header' value') := Handler.dispatch_arg1
  have hlast : last.objects (memory.next + 3) = some (Handler.value2 memory header' value') := by
    refine (Memory.destroy_of_ne ?_).trans ((Memory.destroy_of_ne ?_).trans hentered)
    · show memory.next + 3 ≠ memory.next
      omega
    · show memory.next + 3 ≠ memory.next + 1
      omega
  rw [Memory.read_eq hentered, Memory.read_eq hlast, Option.some.injEq] at hread
  -- But what the reference points to is gone.
  have hgone : last.store v.region = none := by
    rcases hregion with hregion | ⟨m, hregion⟩
    · rw [hregion]
      exact Function.update_self ..
    · have hdestroyed : last.objects (memory.next + 1) = none := by
        refine (Memory.destroy_of_ne ?_).trans Memory.destroy_self
        show memory.next + 1 ≠ memory.next
        omega
      rw [hregion, Memory.store, hdestroyed, Option.bind_none]
  refine hresolve ?_
  rw [← Memory.resolve_of_reading_eq hread hv, View.resolve_dead hlength hgone]

end RoqPython.Fix
