import RoqPython.Lib.Blocks
import RoqPython.Recovery

/-!
# Joining a Stream

A new receiver joins a stream of datagrams at any position: between two messages, or between
two fragments of one. From there on all datagrams arrive, and nothing raises. The fragments
of the message that was joined midway find an empty buffer and none of them is the first one,
so that they are discarded; from the next first fragment on, the buffer holds the fragments so
far of the message that is being received.

## Main results

* `foldl_window`: what a receiver with an empty buffer makes of a window of the stream.
* `joined_of_returns`: what a new receiver makes of it.
* `raised_eq_nil_iff`: no assertion fails, except the one about the length.
-/

namespace RoqPython.SbeReceiver

open Blocks Machine

variable {M V : Type} {codec : Udp.Codec}

/-- A new receiver that joins a stream at position `j`, when `e` datagrams of the stream were
sent. -/
def Receiver.join (native : NativeDecoder M V UInt8) (stream : List (Message codec))
    (j e : ℕ) : Receiver UInt8 :=
  (window Message.data stream j e).foldl (Receiver._parse codec native) Receiver.new

/-- What is asked of the receiver: the byte strings that it passes to the decoder are the
messages all of whose datagrams it received; the buffer holds the datagrams so far of the
message that is being received, unless that was joined midway; it is empty after each message;
and nothing raises. -/
structure Joined (stream : List (Message codec)) (j e : ℕ) (receiver : Receiver UInt8) :
    Prop where
  dispatched : receiver.dispatched = (within Message.data stream j e).map Message.bytes
  decodeBuffer : ∀ k (hk : k < stream.length), start Message.data stream k ≤ e →
    e < start Message.data stream (k + 1) →
      receiver.decodeBuffer =
        if j ≤ start Message.data stream k then
          bytes ((stream[k].data.take (e - start Message.data stream k)).map (split codec))
        else []
  between : ∀ k, k ≤ stream.length → e = start Message.data stream k →
    receiver.decodeBuffer = []
  raised : receiver.raised = []

/-! ### A part of one message -/

/-- A message has a datagram. -/
theorem Message.data_ne_nil (self : Message codec) : self.data ≠ [] :=
  fun h => self.cut.nonempty (List.map_eq_nil_iff.mpr h)

section

variable (native : NativeDecoder M V UInt8) {self : Receiver UInt8} (message : Message codec)
  {j e : ℕ}

/-- The datagrams of a message that is joined midway are discarded. -/
theorem foldl_midway (hj : j ≠ 0) (e : ℕ) (hbuffer : self.decodeBuffer = []) :
    ∃ header, ((message.data.take e).drop j).foldl (Receiver._parse codec native) self =
      { self with header := header } := by
  rw [foldl_parse, List.map_drop, List.map_take]
  refine foldl_skip (fun d hd hfirst => ?_) hbuffer
  obtain ⟨i, hi, rfl⟩ := List.mem_iff_getElem.mp hd
  rw [List.getElem_drop, List.getElem_take, message.cut.isFirst_iff] at hfirst
  omega

/-- The datagrams so far of a message that is not complete are in the buffer. -/
theorem foldl_begun (he : e < message.data.length) (hbuffer : self.decodeBuffer = []) :
    ∃ header, (message.data.take e).foldl (Receiver._parse codec native) self =
      { self with
        header := header
        decodeBuffer := bytes ((message.data.take e).map (split codec)) } := by
  rw [foldl_parse, List.map_take]
  rw [← List.length_map (split codec)] at he
  exact foldl_take native message.cut he hbuffer

/-- All datagrams of a message that is processed normally. -/
theorem foldl_whole (hbuffer : self.decodeBuffer = [])
    (hreturns : ¬ native.Fails self.dispatched message.bytes) :
    ∃ header, message.data.foldl (Receiver._parse codec native) self =
      { self with header := header, dispatched := self.dispatched ++ [message.bytes] } := by
  rw [foldl_parse]
  exact foldl_of_returns message.cut hbuffer hreturns

end

/-! ### A window of the stream -/

/-- Nothing raises while a message of the stream is processed: neither the callback, nor the
assertion that the decoder has consumed all of it. The decoder was given `dispatched`. -/
def Returns (native : NativeDecoder M V UInt8) (stream : List (Message codec))
    (dispatched : List Bytes) : Prop :=
  ∀ message ∈ stream, ∀ before, before ++ [message.bytes] <+: dispatched →
    ¬ native.Fails before message.bytes

/-- The first message returns, when it arrives at an empty buffer before the others. -/
theorem Returns.head {native : NativeDecoder M V UInt8} {message : Message codec}
    {stream : List (Message codec)} {self : Receiver UInt8} (rest : List Bytes)
    (hbuffer : self.decodeBuffer = [])
    (h : Returns native (message :: stream)
      (rest.foldl (Receiver._parse codec native)
        (message.data.foldl (Receiver._parse codec native) self)).dispatched) :
    ¬ native.Fails self.dispatched message.bytes := by
  obtain ⟨hdispatched, -⟩ := parseMessage_spec native message hbuffer
  refine h message List.mem_cons_self self.dispatched ?_
  rw [← hdispatched, foldl_parse native rest]
  exact (foldl_records native _ _).1

/-- The other messages return as well. -/
theorem Returns.tail {native : NativeDecoder M V UInt8} {message : Message codec}
    {stream : List (Message codec)} {dispatched : List Bytes}
    (h : Returns native (message :: stream) dispatched) : Returns native stream dispatched :=
  fun m hm => h m (List.mem_cons_of_mem _ hm)

/-- **Windows.** A receiver with an empty buffer passes the messages within a window of the
stream to the decoder, and is left with the datagrams of the message that the window has
begun. -/
theorem foldl_window {native : NativeDecoder M V UInt8} {stream : List (Message codec)}
    {j e : ℕ} (self : Receiver UInt8) (hbuffer : self.decodeBuffer = [])
    (hreturns : Returns native stream
      ((window Message.data stream j e).foldl (Receiver._parse codec native) self).dispatched) :
    ∃ header, (window Message.data stream j e).foldl (Receiver._parse codec native) self =
      { self with
        header := header
        decodeBuffer := bytes ((begun Message.data stream j e).map (split codec))
        dispatched :=
          self.dispatched ++ (within Message.data stream j e).map Message.bytes } := by
  induction stream generalizing j e self with
  | nil => exact ⟨self.header, by simp [window, begun, within, bytes, ← hbuffer]⟩
  | cons message stream ih =>
      rcases Nat.lt_or_ge e message.data.length with he | he
      · -- The window ends in the first message.
        rw [window_cons_of_lt stream j he, within_cons_of_lt Message.data_ne_nil stream j he,
          begun_cons_of_lt stream he, List.map_nil, List.append_nil]
        by_cases hj : j = 0
        · rw [if_pos hj, hj, List.drop_zero]
          exact foldl_begun native message he hbuffer
        · obtain ⟨header, hfoldl⟩ := foldl_midway native message hj e hbuffer
          refine ⟨header, ?_⟩
          rw [if_neg hj, hfoldl, List.map_nil, bytes, List.flatMap_nil, hbuffer]
      · rw [window_cons, List.foldl_append] at hreturns ⊢
        rw [within_cons Message.data_ne_nil, begun_cons_of_le stream j he]
        by_cases hj : j = 0
        · -- All of the first message is within the window.
          rw [hj, List.drop_zero, List.take_of_length_le he] at hreturns ⊢
          rw [if_pos ⟨rfl, he⟩]
          obtain ⟨header, hfoldl⟩ :=
            foldl_whole native message hbuffer (hreturns.head _ hbuffer)
          rw [hfoldl] at hreturns ⊢
          obtain ⟨header', hrest⟩ :=
            ih { self with header := header, dispatched := self.dispatched ++ [message.bytes] }
              hbuffer hreturns.tail
          refine ⟨header', ?_⟩
          rw [hrest, List.map_append, ← List.append_assoc]
          rfl
        · -- The first message was joined midway.
          rw [if_neg fun h => hj h.1, List.nil_append]
          obtain ⟨header, hfoldl⟩ := foldl_midway native message hj e hbuffer
          rw [hfoldl] at hreturns ⊢
          exact ih _ hbuffer hreturns.tail

/-! ### Joining -/

/-- **Joining midway.** A new receiver that joins a stream at any position, and receives all
datagrams from there on, passes to the decoder the messages that it receives entirely, each
once, in order and complete. What it receives of the message that is joined midway is
discarded, the buffer holds what it received of the message after that, and no assertion
fails. -/
theorem joined_of_returns (native : NativeDecoder M V UInt8) (stream : List (Message codec))
    (j e : ℕ)
    (hreturns : Returns native stream (Receiver.join native stream j e).dispatched) :
    Joined stream j e (Receiver.join native stream j e) := by
  obtain ⟨header, hfoldl⟩ := foldl_window Receiver.new rfl hreturns
  rw [Receiver.join, hfoldl]
  refine ⟨rfl, fun k hk hstart hend => ?_, fun k hk he => ?_, rfl⟩
  · dsimp only
    rw [begun_eq hk hstart hend]
    split <;> rfl
  · dsimp only
    rw [he, begun_start Message.data_ne_nil hk]
    rfl

/-- Of three messages, the first one is joined at its last fragment, and the last fragment of
the third one is still to come. -/
theorem oneFragment_joined :
    Joined [twoFragments, oneFragment, twoFragments] 1 4
        (Receiver.join consumeAll [twoFragments, oneFragment, twoFragments] 1 4) ∧
      (Receiver.join consumeAll [twoFragments, oneFragment, twoFragments] 1 4).dispatched =
        [[4]] ∧
      (Receiver.join consumeAll [twoFragments, oneFragment, twoFragments] 1 4).decodeBuffer =
        [1, 2] :=
  ⟨joined_of_returns consumeAll _ 1 4 fun _ _ before _ => consumeAll_returns before _,
    by decide, by decide⟩

/-! ### What raises -/

/-- What failed is on record: where nothing has raised, nothing that was passed to the decoder
has failed. -/
def Receiver.Recorded (native : NativeDecoder M V UInt8) (self : Receiver UInt8) : Prop :=
  self.raised = [] → ∀ before message, before ++ [message] <+: self.dispatched →
    ¬ native.Fails before message

/-- A datagram that completes a byte string that fails puts that on record. -/
theorem Receiver.Recorded.parse {native : NativeDecoder M V UInt8} {self : Receiver UInt8}
    (h : self.Recorded native) (data : Bytes) :
    (self._parse codec native data).Recorded native := by
  intro hraised before message hmessage
  obtain ⟨exceptions, hexceptions, hcases⟩ := assemble_cases native self (split codec data)
  rw [Receiver._parse, hexceptions] at hraised
  obtain ⟨hself, rfl⟩ := List.append_eq_nil_iff.mp hraised
  rw [Receiver._parse] at hmessage
  rcases hcases with hdispatched | ⟨last, hdispatched, hiff⟩
  · rw [hdispatched] at hmessage
    exact h hself before message hmessage
  · rw [hdispatched] at hmessage
    rcases List.prefix_concat_iff.mp hmessage with heq | hbefore
    · -- The byte string is the one that the datagram completes.
      obtain ⟨rfl, hlast⟩ := List.append_inj' heq rfl
      obtain rfl := List.singleton_inj.mp hlast
      exact hiff.mp rfl
    · exact h hself before message hbefore

/-- Nothing raises in the receiver exactly when nothing does in the processing of the messages. -/
theorem raised_eq_nil_iff (native : NativeDecoder M V UInt8) (stream : List (Message codec))
    (j e : ℕ) :
    (Receiver.join native stream j e).raised = [] ↔
      Returns native stream (Receiver.join native stream j e).dispatched := by
  constructor
  · intro hraised message _ before hmessage
    have hnew : Receiver.Recorded native (Receiver.new (β := UInt8)) := by
      intro _ before message hmessage
      exact absurd (List.prefix_nil.mp hmessage) (by simp)
    have hjoin : (Receiver.join native stream j e).Recorded native :=
      foldl_invariant (Q := fun _ => True) (fun _ data h _ => h.parse data) (fun _ _ => trivial)
        hnew
    exact hjoin hraised before message.bytes hmessage
  · intro hreturns
    obtain ⟨header, hfoldl⟩ := foldl_window Receiver.new rfl hreturns
    rw [Receiver.join, hfoldl]
    rfl

end RoqPython.SbeReceiver
