import Mathlib.Data.List.Induction
import RoqPython.Recovery

/-!
# What a Failure Leaves Behind

When the processing of a message of several fragments raises, the message stays in the buffer,
and what arrives later is appended to it. Whether the receiver ever recovers depends on the
decoder: here it fails on everything that begins with the bytes that are left, as a decoder
does that reads from the front and stumbles over the same place again.

## Main results

* `stuck_of_fails`: the receiver is stuck for good; the buffer is never emptied, and nothing
  is passed to the decoder but byte strings that begin with the message that failed.
* `redelivers`: the events before the failure are delivered again with every later message.
-/

namespace RoqPython.SbeReceiver

open Pump

variable {M V β : Type}

/-! ### Bytes that are left -/

/-- Whether the payload of a datagram is appended when bytes are in the buffer: it is not when
the datagram is the first of several. -/
def Datagram.kept (self : Datagram β) : Bool := ¬ (self.IsFirst ∧ ¬ self.IsLast)

/-- Whether a datagram raises when bytes are in the buffer and the decoder fails on all that
begins with them. -/
def Datagram.raises (self : Datagram β) : Bool := self.IsFirst ∨ self.IsLast

/-- The decoder fails on everything that begins with some bytes. -/
def NativeDecoder.FailsFrom (native : NativeDecoder M V β) (left : List β) : Prop :=
  ∀ before rest, native.Fails before (left ++ rest)

/-- What becomes of a receiver with bytes in the buffer when some datagrams arrive: they are
only appended, nothing is passed to the decoder but what begins with the bytes that were left,
and every last datagram raises, as does every first one. -/
structure Stuck (start : Receiver β) (datagrams : List (Datagram β)) (receiver : Receiver β) :
    Prop where
  decodeBuffer : receiver.decodeBuffer =
    start.decodeBuffer ++ bytes (datagrams.filter Datagram.kept)
  dispatched : ∃ new, receiver.dispatched = start.dispatched ++ new ∧
    new.length = datagrams.countP (·.IsLast) ∧ ∀ message ∈ new, start.decodeBuffer <+: message
  raised : receiver.raised.length = start.raised.length + datagrams.countP Datagram.raises

variable {native : NativeDecoder M V β} {start self : Receiver β}
  {datagrams : List (Datagram β)} {datagram : Datagram β}

theorem Stuck.refl (start : Receiver β) : Stuck start [] start where
  decodeBuffer := (List.append_nil _).symm
  dispatched := ⟨[], (List.append_nil _).symm, rfl, nofun⟩
  raised := rfl

/-- One more datagram. -/
theorem Stuck.assemble (h : Stuck start datagrams self) (hleft : start.decodeBuffer ≠ [])
    (hfails : native.FailsFrom start.decodeBuffer) (datagram : Datagram β) :
    Stuck start (datagrams ++ [datagram]) (self.assemble native datagram) := by
  have hbuffer : self.decodeBuffer ≠ [] := by
    rw [h.decodeBuffer]
    exact fun hnil => hleft (List.append_eq_nil_iff.mp hnil).1
  obtain ⟨new, hdispatched, hlength, hprefix⟩ := h.dispatched
  by_cases hlast : datagram.IsLast
  · -- The decoder is called with all of the buffer, and fails.
    have hkept : datagram.kept = true := decide_eq_true fun hfirst => hfirst.2 hlast
    have hraises : datagram.raises = true := decide_eq_true (.inr hlast)
    have happend : (self.append datagram).decodeBuffer = start.decodeBuffer ++
        bytes ((datagrams ++ [datagram]).filter Datagram.kept) := by
      simp [Receiver.append, h.decodeBuffer, List.filter_append, hkept, bytes]
    have hfailed : native.Fails self.dispatched (self.append datagram).decodeBuffer := by
      rw [happend]
      exact hfails _ _
    obtain ⟨exception, hassemble⟩ := assemble_last_of_fails self hlast hbuffer hfailed
    rw [hassemble]
    refine ⟨happend, ⟨new ++ [(self.append datagram).decodeBuffer], ?_, ?_, ?_⟩, ?_⟩
    · rw [hdispatched, List.append_assoc]
    · simp [hlength, hlast]
    · intro message hmessage
      rcases List.mem_append.mp hmessage with hold | hnew
      · exact hprefix message hold
      · rw [List.mem_singleton.mp hnew, happend]
        exact List.prefix_append _ _
    · simp [h.raised, hraises, Nat.add_assoc]
  · have hcount : (datagrams ++ [datagram]).countP (·.IsLast) = new.length := by
      simp [hlength, hlast]
    by_cases hfirst : datagram.IsFirst
    · -- The assertion that nothing is in the buffer fails, and the payload is lost.
      have hkept : datagram.kept = false := decide_eq_false (not_not.mpr ⟨hfirst, hlast⟩)
      have hraises : datagram.raises = true := decide_eq_true (.inl hfirst)
      rw [assemble_first_left hfirst hlast hbuffer]
      refine ⟨?_, ⟨new, hdispatched, hcount.symm, hprefix⟩, ?_⟩
      · simp [h.decodeBuffer, List.filter_append, hkept]
      · simp [h.raised, hraises, Nat.add_assoc]
    · have hkept : datagram.kept = true := decide_eq_true fun h => hfirst h.1
      have hraises : datagram.raises = false := decide_eq_false (not_or.mpr ⟨hfirst, hlast⟩)
      rw [assemble_middle hfirst hlast hbuffer]
      refine ⟨?_, ⟨new, hdispatched, hcount.symm, hprefix⟩, ?_⟩
      · simp [Receiver.append, h.decodeBuffer, List.filter_append, hkept, bytes]
      · simp [Receiver.append, h.raised, hraises]

/-- Any number of datagrams. -/
theorem stuck_foldl (hleft : start.decodeBuffer ≠ [])
    (hfails : native.FailsFrom start.decodeBuffer) (datagrams : List (Datagram β)) :
    Stuck start datagrams (datagrams.foldl (Receiver.assemble native) start) := by
  induction datagrams using List.reverseRecOn with
  | nil => exact Stuck.refl start
  | append_singleton datagrams datagram ih =>
      rw [List.foldl_append]
      exact ih.assemble hleft hfails datagram

/-! ### A message that fails -/

section

variable {codec : Udp.Codec} {native : NativeDecoder M V UInt8} {self : Receiver UInt8}

/-- Any number of datagrams that were not taken apart yet. -/
theorem stuck_foldl_parse {left : Bytes} (hleft : self.decodeBuffer = left) (hne : left ≠ [])
    (hfails : native.FailsFrom left) (data : List Bytes) :
    Stuck self (data.map (split codec)) (data.foldl (Receiver._parse codec native) self) := by
  subst hleft
  rw [foldl_parse]
  exact stuck_foldl hne hfails _

/-- A message of several fragments that fails stays in the buffer. -/
theorem parseMessage_of_fails (message : Message codec) (hseveral : message.data.length ≠ 1)
    (hbuffer : self.decodeBuffer = []) (hfails : native.FailsFrom message.bytes) :
    (self.parseMessage native message).decodeBuffer = message.bytes ∧
      (self.parseMessage native message).dispatched = self.dispatched ++ [message.bytes] := by
  have hmessage : native.Fails self.dispatched (bytes (message.data.map (split codec))) := by
    have hrest := hfails self.dispatched []
    rwa [List.append_nil] at hrest
  obtain ⟨header, exception, hfoldl⟩ := foldl_of_fails message.cut hbuffer hmessage
  rw [List.length_map, if_neg hseveral] at hfoldl
  rw [Receiver.parseMessage, foldl_parse, hfoldl]
  exact ⟨rfl, rfl⟩

/-- **Stuck for good.** A message of several fragments arrives at an empty buffer, and the
decoder fails on it and on all that begins with it. Whatever arrives from then on, the message
is never removed from the buffer, which grows with every datagram except the first of several;
nothing is passed to the decoder but byte strings that begin with the message; and every first
and every last datagram raises. -/
theorem stuck_of_fails (message : Message codec) (hseveral : message.data.length ≠ 1)
    (hbuffer : self.decodeBuffer = []) (hfails : native.FailsFrom message.bytes)
    (data : List Bytes) :
    (self.parseMessage native message).decodeBuffer = message.bytes ∧
      Stuck (self.parseMessage native message) (data.map (split codec))
        (data.foldl (Receiver._parse codec native) (self.parseMessage native message)) := by
  obtain ⟨hleft, -⟩ := parseMessage_of_fails message hseveral hbuffer hfails
  exact ⟨hleft, stuck_foldl_parse hleft message.cut.bytes_ne_nil hfails data⟩

/-- What a decoder feeds for the message of two fragments: the second event makes the callback
raise. -/
def stumblingItems : List (Item (Event Unit Unit)) :=
  [.event ⟨.marketStatus, (), ()⟩ default,
    .event ⟨.topOfBook, (), ()⟩ ⟨true, fun _ => false⟩]

/-- A decoder that feeds them for all that begins with the message. -/
def stumbleOnTwoFragments : NativeDecoder Unit Unit UInt8 := fun _ message =>
  if twoFragments.bytes <+: message then (stumblingItems, message.length)
  else ([], message.length)

theorem stumbleOnTwoFragments_fails : stumbleOnTwoFragments.FailsFrom twoFragments.bytes := by
  intro before rest hreturns
  have hprefix : twoFragments.bytes <+: twoFragments.bytes ++ rest := List.prefix_append _ _
  rw [NativeDecoder.dispatch, stumbleOnTwoFragments, if_pos hprefix] at hreturns
  cases hreturns

/-- A message of one fragment, and then one of two. -/
def laterData : List Bytes := oneFragment.data ++ twoFragments.data

/-- The first message of two fragments fails. -/
theorem twoFragments_stuck :
    (Receiver.new.parseMessage stumbleOnTwoFragments twoFragments).decodeBuffer =
        twoFragments.bytes ∧
      Stuck (Receiver.new.parseMessage stumbleOnTwoFragments twoFragments)
        (laterData.map (split .sample))
        (laterData.foldl (Receiver._parse .sample stumbleOnTwoFragments)
          (Receiver.new.parseMessage stumbleOnTwoFragments twoFragments)) :=
  stuck_of_fails twoFragments (by decide) rfl stumbleOnTwoFragments_fails laterData

/-! ### Events that are delivered again -/

/-- What happened in the calls of the decoder, for the byte strings that it was given after
some others. -/
def NativeDecoder.traces (native : NativeDecoder M V β) (before : List (List β)) :
    List (List β) → List (List (Happening (Event M V)))
  | [] => []
  | message :: messages =>
      (Sbe.Decoder.path.call (native before message).1).1 ::
        native.traces (before ++ [message]) messages

theorem NativeDecoder.traces_append (native : NativeDecoder M V β)
    (before messages messages' : List (List β)) :
    native.traces before (messages ++ messages') =
      native.traces before messages ++ (native.traces (before ++ messages) messages') := by
  induction messages generalizing before with
  | nil => rw [List.nil_append, List.append_nil, traces, List.nil_append]
  | cons message messages ih =>
      rw [List.cons_append, traces, ih, traces, List.append_assoc, List.cons_append,
        List.cons_append, List.nil_append]

/-- The decoder reads some bytes from the front: whatever comes behind them, it first feeds
the same items, of which one raises. -/
def NativeDecoder.Stumbles (native : NativeDecoder M V β) (left : List β)
    (items : List (Item (Event M V))) : Prop :=
  (∃ item ∈ items, (Sbe.Decoder.path.handle item).2 ≠ none) ∧
    ∀ before rest, items <+: (native before (left ++ rest)).1

/-- A pump does not get beyond items of which one raises. -/
theorem pump_of_stumbles {native : NativeDecoder M V β} {left : List β}
    {items : List (Item (Event M V))} (h : native.Stumbles left items) (before : List (List β))
    (rest : List β) :
    pump Sbe.Decoder.path.handle (native before (left ++ rest)).1 =
      pump Sbe.Decoder.path.handle items ∧ (pump Sbe.Decoder.path.handle items).2 ≠ none := by
  obtain ⟨⟨item, hitem, hraises⟩, hprefix⟩ := h
  obtain ⟨more, hmore⟩ := hprefix before rest
  have hsome : (pump Sbe.Decoder.path.handle items).2 ≠ none := by
    rw [pump_snd, Ne, List.findSome?_eq_none_iff]
    exact fun hnone => hraises (hnone item hitem)
  obtain ⟨exception, hexception⟩ := Option.ne_none_iff_exists'.mp hsome
  refine ⟨?_, hsome⟩
  rw [← hmore, pump_append, hexception]
  exact Prod.ext rfl hexception.symm

/-- A decoder that stumbles fails. -/
theorem NativeDecoder.Stumbles.failsFrom {native : NativeDecoder M V β} {left : List β}
    {items : List (Item (Event M V))} (h : native.Stumbles left items) (hleft : left ≠ []) :
    native.FailsFrom left := by
  intro before rest hreturns
  obtain ⟨hpump, hsome⟩ := pump_of_stumbles h before rest
  obtain ⟨exception, hexception⟩ := Option.ne_none_iff_exists'.mp hsome
  have hlength : (left ++ rest).length ≠ 0 := by
    rw [List.length_append]
    have := List.length_pos_iff.mpr hleft
    omega
  rw [NativeDecoder.dispatch, Sbe.Decoder.dispatch, hpump, hexception] at hreturns
  dsimp only at hreturns
  split at hreturns
  · exact hlength (Option.some.inj hreturns).symm
  · cases hreturns

/-- A decoder that stumbles delivers the same again. -/
theorem traces_of_stumbles {native : NativeDecoder M V β} {left : List β}
    {items : List (Item (Event M V))} (h : native.Stumbles left items)
    (before : List (List β)) {messages : List (List β)}
    (hmessages : ∀ message ∈ messages, left <+: message) :
    native.traces before messages =
      List.replicate messages.length (Sbe.Decoder.path.call items).1 := by
  induction messages generalizing before with
  | nil => rfl
  | cons message messages ih =>
      obtain ⟨⟨rest, rfl⟩, hlater⟩ := List.forall_mem_cons.mp hmessages
      have hcall : (Sbe.Decoder.path.call (native before (left ++ rest)).1).1 =
          (Sbe.Decoder.path.call items).1 := by
        rw [Path.call, (pump_of_stumbles h before rest).1]
        rfl
      rw [NativeDecoder.traces, hcall, ih _ hlater, List.length_cons, List.replicate_succ]

/-- **Delivered again.** A message of several fragments arrives at an empty buffer, and the
decoder stumbles over it. Then the callback is invoked for the same events again, those before
the failure, once for every last datagram that arrives later, and for no other event. -/
theorem redelivers (message : Message codec) (hseveral : message.data.length ≠ 1)
    (hbuffer : self.decodeBuffer = []) {items : List (Item (Event M V))}
    (hstumbles : native.Stumbles message.bytes items) (data : List Bytes) :
    let receiver :=
      data.foldl (Receiver._parse codec native) (self.parseMessage native message)
    native.traces [] receiver.dispatched =
      native.traces [] self.dispatched ++
        List.replicate ((data.map (split codec)).countP (·.IsLast) + 1)
          (Sbe.Decoder.path.call items).1 := by
  have hne : message.bytes ≠ [] := message.cut.bytes_ne_nil
  have hfails := hstumbles.failsFrom hne
  obtain ⟨hleft, hfirst⟩ := parseMessage_of_fails message hseveral hbuffer hfails
  obtain ⟨new, hdispatched, hlength, hprefix⟩ :=
    (stuck_foldl_parse hleft hne hfails data).dispatched
  rw [hleft] at hprefix
  have hall : ∀ m ∈ message.bytes :: new, message.bytes <+: m :=
    List.forall_mem_cons.mpr ⟨List.prefix_rfl, hprefix⟩
  dsimp only
  rw [hdispatched, hfirst, List.append_assoc, List.singleton_append,
    NativeDecoder.traces_append, List.nil_append, traces_of_stumbles hstumbles _ hall,
    List.length_cons, hlength]

/-- The market status is delivered three times. -/
theorem twoFragments_redelivered :
    stumbleOnTwoFragments.traces [] (laterData.foldl
        (Receiver._parse .sample stumbleOnTwoFragments)
        (Receiver.new.parseMessage stumbleOnTwoFragments twoFragments)).dispatched =
      [] ++ List.replicate 3 (Sbe.Decoder.path.call stumblingItems).1 := by
  have hstumbles : stumbleOnTwoFragments.Stumbles twoFragments.bytes stumblingItems := by
    refine ⟨⟨_, List.mem_cons_of_mem _ List.mem_cons_self, by decide⟩, fun before rest => ?_⟩
    have hcall : stumbleOnTwoFragments before (twoFragments.bytes ++ rest) =
        (stumblingItems, (twoFragments.bytes ++ rest).length) :=
      if_pos (List.prefix_append _ _)
    exact hcall ▸ List.prefix_rfl
  exact redelivers twoFragments (by decide) rfl hstumbles laterData

end

end RoqPython.SbeReceiver
