import RoqPython.Reassembly

/-!
# Failures in the Receiver

All datagrams arrive here, but the processing of some messages raises, and the event loop
goes on with the next datagram. A message of one fragment never touches the buffer. The
buffer of a message of several fragments is emptied after the call of the decoder and the
assertion, so that it is not when one of them raises.

## Main results

* `parseMessage_spec`: what one message does to a receiver with an empty buffer.
* `recovers_iff`: a failure never disturbs another message exactly when no message of
  several fragments fails.
-/

namespace RoqPython.SbeReceiver

open Machine

variable {M V : Type} {codec : Udp.Codec}

/-- The datagrams of a message, one after the other. -/
def Receiver.parseMessage (native : NativeDecoder M V UInt8) (self : Receiver UInt8)
    (message : Message codec) : Receiver UInt8 :=
  message.data.foldl (Receiver._parse codec native) self

/-- A new receiver after some messages. -/
def Receiver.after (native : NativeDecoder M V UInt8) (messages : List (Message codec)) :
    Receiver UInt8 :=
  messages.foldl (Receiver.parseMessage native) Receiver.new

/-- The processing of the message with number `k` raises, where the decoder was given the
messages before it. -/
def FailsAt (native : NativeDecoder M V UInt8) (stream : List (Message codec)) (k : ℕ)
    (hk : k < stream.length) : Prop :=
  native.Fails ((stream.take k).map Message.bytes) stream[k].bytes

instance (native : NativeDecoder M V UInt8) (stream : List (Message codec)) (k : ℕ)
    (hk : k < stream.length) : Decidable (FailsAt native stream k hk) :=
  inferInstanceAs (Decidable (native.Fails _ _))

/-- What is asked of the receiver: whatever fails, each other message is passed to the decoder
once, with its own bytes, and the buffer is empty after each message. -/
structure Recovers (native : NativeDecoder M V UInt8) (stream : List (Message codec)) :
    Prop where
  dispatched : ∀ k (hk : k < stream.length), ¬ FailsAt native stream k hk →
    (Receiver.after native (stream.take (k + 1))).dispatched =
      (Receiver.after native (stream.take k)).dispatched ++ [stream[k].bytes]
  decodeBuffer : ∀ k, k < stream.length →
    (Receiver.after native (stream.take (k + 1))).decodeBuffer = []

section

variable (native : NativeDecoder M V UInt8) {stream : List (Message codec)}

/-- **One message.** A message that arrives at an empty buffer is passed to the decoder, and
the buffer is empty after it unless it has several fragments and fails. -/
theorem parseMessage_spec {self : Receiver UInt8} (message : Message codec)
    (hbuffer : self.decodeBuffer = []) :
    (self.parseMessage native message).dispatched = self.dispatched ++ [message.bytes] ∧
      ((self.parseMessage native message).decodeBuffer = [] ↔
        (native.Fails self.dispatched message.bytes → message.data.length = 1)) := by
  have hparse : self.parseMessage native message =
      (message.data.map (split codec)).foldl (Receiver.assemble native) self :=
    foldl_parse native message.data self
  by_cases hfails : native.Fails self.dispatched message.bytes
  · obtain ⟨header, exception, hfoldl⟩ := foldl_of_fails message.cut hbuffer hfails
    have hne : message.bytes ≠ [] := message.cut.bytes_ne_nil
    rw [hparse, hfoldl, List.length_map]
    refine ⟨rfl, ?_⟩
    by_cases hlength : message.data.length = 1
    · simp [hlength]
    · simp only [if_neg hlength]
      exact iff_of_false hne fun h => hlength (h hfails)
  · obtain ⟨header, hfoldl⟩ := foldl_of_returns message.cut hbuffer hfails
    rw [hparse, hfoldl]
    exact ⟨rfl, iff_of_true hbuffer fun h => absurd h hfails⟩

/-- The receiver after one more message. -/
theorem after_succ {k : ℕ} (hk : k < stream.length) :
    Receiver.after native (stream.take (k + 1)) =
      (Receiver.after native (stream.take k)).parseMessage native stream[k] := by
  rw [Receiver.after, List.take_succ_eq_append_getElem hk, List.foldl_append]
  rfl

/-- **Runs.** As long as no message of several fragments fails, the messages are passed to the
decoder one by one, and the buffer is empty between them. -/
theorem after_spec {k : ℕ} (hk : k ≤ stream.length)
    (h : ∀ j (hj : j < stream.length), j < k → FailsAt native stream j hj →
      stream[j].data.length = 1) :
    (Receiver.after native (stream.take k)).decodeBuffer = [] ∧
      (Receiver.after native (stream.take k)).dispatched =
        (stream.take k).map Message.bytes := by
  refine foldl_take_invariant (P := fun i (self : Receiver UInt8) => i ≤ k →
    self.decodeBuffer = [] ∧ self.dispatched = (stream.take i).map Message.bytes)
    (fun _ => ⟨rfl, rfl⟩) ?_ hk (Nat.le_refl k)
  intro i hi self hself hlt
  obtain ⟨hbuffer, hdispatched⟩ := hself (Nat.le_of_lt hlt)
  obtain ⟨hspec, hempty⟩ := parseMessage_spec native stream[i] hbuffer
  refine ⟨hempty.mpr fun hfails => ?_, ?_⟩
  · rw [hdispatched] at hfails
    exact h i hi hlt hfails
  · rw [hspec, hdispatched, List.take_succ_eq_append_getElem hi, List.map_append]
    rfl

end

/-- **Recovery.** Whatever fails, the other messages and the buffer are not disturbed, exactly
when every message that fails has a single fragment. -/
theorem recovers_iff (native : NativeDecoder M V UInt8) (stream : List (Message codec)) :
    Recovers native stream ↔
      ∀ k (hk : k < stream.length), FailsAt native stream k hk → stream[k].data.length = 1 := by
  constructor
  · intro h k
    induction k using Nat.strongRecOn with
    | ind k ih =>
        intro hk hfails
        -- Before the first failure of several fragments everything is as it should be.
        obtain ⟨hbuffer, hdispatched⟩ :=
          after_spec native (Nat.le_of_lt hk) fun j hj hlt => ih j hlt hj
        have hempty := h.decodeBuffer k hk
        obtain ⟨-, hspec⟩ := parseMessage_spec native stream[k] hbuffer
        rw [after_succ native hk, hspec, hdispatched] at hempty
        exact hempty hfails
  · intro h
    have hempty : ∀ k, k ≤ stream.length →
        (Receiver.after native (stream.take k)).decodeBuffer = [] :=
      fun k hk => (after_spec native hk fun j hj _ => h j hj).1
    refine ⟨fun k hk _ => ?_, fun k hk => hempty (k + 1) hk⟩
    obtain ⟨hspec, -⟩ := parseMessage_spec native stream[k] (hempty k (Nat.le_of_lt hk))
    rw [after_succ native hk, hspec]

/-! ### A callback that raises -/

/-- A decoder whose callback raises for the message of two fragments. -/
def raiseOnTwoFragments : NativeDecoder Unit Unit UInt8 :=
  fun _ message =>
    ([.event ⟨.topOfBook, (), ()⟩ ⟨message = twoFragments.bytes, fun _ => false⟩],
      message.length)

/-- The next message is passed to the decoder behind the bytes of the one that failed. -/
theorem not_recovers :
    FailsAt raiseOnTwoFragments [twoFragments, oneFragment] 0 (by decide) ∧
      ¬ FailsAt raiseOnTwoFragments [twoFragments, oneFragment] 1 (by decide) ∧
      (Receiver.after raiseOnTwoFragments [twoFragments, oneFragment]).dispatched =
        [[1, 2, 3], [1, 2, 3, 4]] ∧
      ¬ Recovers raiseOnTwoFragments [twoFragments, oneFragment] := by
  refine ⟨by decide, by decide, by decide, fun h => ?_⟩
  exact absurd (h.decodeBuffer 0 (by decide)) (by decide)

end RoqPython.SbeReceiver
