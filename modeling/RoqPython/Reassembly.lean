import Mathlib.Data.List.Flatten
import RoqPython.Lib.Machine
import RoqPython.Receiver

/-!
# Reassembly over Lossy Channels

A stream of messages, each cut into datagrams, of which any may be lost. `Receiver._reset`
does nothing, so what a gap leaves in the buffer stays there.

Of a message it matters whether its first datagram arrives, whether its last one does,
whether all of them do, and whether any does. `Phase` is the receiver as it looks between
two messages: clean, with bytes of one earlier message left in the buffer, or broken. To
tell the bytes of different messages apart, the receiver is run on bytes that carry the
number of their message.

## Main results

* `Phase.foldl_next_ne_broken_iff`: the loss patterns that break nothing.
* `refines_step`, `refines_run`: the receiver follows the phases.
* `assembled_iff`: when every byte string passed to the decoder is one message of the stream.
-/

namespace RoqPython.SbeReceiver

open Machine

/-! ### Phases -/

/-- Which datagrams of a message arrive: the first, the last, all of them, any of them. -/
structure Arrival where
  first : Bool
  last : Bool
  complete : Bool
  any : Bool
  any_of_first : first = true → any = true

/-- What matters of the fragments `0 .. n` that arrive. -/
def Arrival.ofFragments (n : ℕ) (arrives : ℕ → Bool) : Arrival where
  first := arrives 0
  last := arrives n
  complete := (List.range (n + 1)).all arrives
  any := (List.range (n + 1)).any arrives
  any_of_first h := List.any_eq_true.mpr ⟨0, by simp, h⟩

/-- The receiver between two messages. -/
inductive Phase
  /-- Nothing is in the buffer. -/
  | clean
  /-- Bytes of one earlier message are left in the buffer. -/
  | left
  /-- Bytes of two messages were joined, something was passed to the decoder that is no
  message, or an assertion has failed. -/
  | broken
deriving DecidableEq

/-- What a message does to the phase. -/
def Phase.next : Phase → Arrival → Phase
  | clean, arrival =>
      if arrival.first then
        if arrival.last then if arrival.complete then clean else broken else left
      else clean
  | left, arrival => if arrival.any then broken else left
  | broken, _ => broken

/-- Losses that break nothing: when the first and the last datagram of a message arrive, all
of it does; and after a message whose first datagram arrives and whose last one is lost,
nothing arrives any more. -/
structure Harmless (arrivals : List Arrival) : Prop where
  complete : ∀ a ∈ arrivals, a.first → a.last → a.complete
  lost : arrivals.Pairwise fun a b => a.first → ¬ a.last → ¬ b.any

namespace Phase

theorem foldl_next_broken (arrivals : List Arrival) : arrivals.foldl next broken = broken := by
  induction arrivals with
  | nil => rfl
  | cons a arrivals ih => exact ih

/-- When bytes are left in the buffer, nothing breaks as long as nothing arrives. -/
theorem foldl_next_left_ne_broken_iff (arrivals : List Arrival) :
    arrivals.foldl next left ≠ broken ↔ ∀ a ∈ arrivals, ¬ a.any := by
  induction arrivals with
  | nil => simp
  | cons a arrivals ih =>
      rw [List.forall_mem_cons, List.foldl_cons]
      by_cases ha : a.any = true
      · have hnext : next left a = broken := if_pos ha
        rw [hnext, foldl_next_broken]
        exact iff_of_false (fun h => h rfl) fun h => h.1 ha
      · have hnext : next left a = left := if_neg ha
        rw [hnext, ih]
        exact (and_iff_right ha).symm

end Phase

/-- The losses of a stream, message by message. -/
theorem harmless_cons {a : Arrival} {arrivals : List Arrival} :
    Harmless (a :: arrivals) ↔ (a.first → a.last → a.complete) ∧
      (a.first → ¬ a.last → ∀ b ∈ arrivals, ¬ b.any) ∧ Harmless arrivals := by
  constructor
  · rintro ⟨hcomplete, hlost⟩
    obtain ⟨ha, harrivals⟩ := List.forall_mem_cons.mp hcomplete
    obtain ⟨hb, hlost⟩ := List.pairwise_cons.mp hlost
    exact ⟨ha, fun hfirst hlast b hmem => hb b hmem hfirst hlast, harrivals, hlost⟩
  · rintro ⟨ha, hb, harrivals, hlost⟩
    exact ⟨List.forall_mem_cons.mpr ⟨ha, harrivals⟩,
      List.pairwise_cons.mpr ⟨fun b hmem hfirst hlast => hb hfirst hlast b hmem, hlost⟩⟩

/-- Where no first datagram arrives, nothing can go wrong. -/
theorem harmless_of_not_first {arrivals : List Arrival} (h : ∀ a ∈ arrivals, ¬ a.first) :
    Harmless arrivals := by
  induction arrivals with
  | nil => exact ⟨by simp, .nil⟩
  | cons a arrivals ih =>
      obtain ⟨ha, harrivals⟩ := List.forall_mem_cons.mp h
      exact harmless_cons.mpr ⟨fun hfirst => absurd hfirst ha, fun hfirst => absurd hfirst ha,
        ih harrivals⟩

/-- **Phases.** Nothing breaks exactly when the losses are harmless. -/
theorem Phase.foldl_next_ne_broken_iff (arrivals : List Arrival) :
    arrivals.foldl next clean ≠ broken ↔ Harmless arrivals := by
  induction arrivals with
  | nil => exact iff_of_true (by simp) (harmless_of_not_first (by simp))
  | cons a arrivals ih =>
      rw [harmless_cons, List.foldl_cons]
      by_cases hfirst : a.first = true
      · by_cases hlast : a.last = true
        · by_cases hcomplete : a.complete = true
          · have hnext : clean.next a = clean := by simp [next, hfirst, hlast, hcomplete]
            rw [hnext, ih]
            simp [hlast, hcomplete]
          · have hnext : clean.next a = broken := by simp [next, hfirst, hlast, hcomplete]
            rw [hnext, foldl_next_broken]
            exact iff_of_false (fun h => h rfl) fun h => hcomplete (h.1 hfirst hlast)
        · have hnext : clean.next a = left := by simp [next, hfirst, hlast]
          rw [hnext, foldl_next_left_ne_broken_iff]
          constructor
          · intro h
            exact ⟨fun _ h' => absurd h' hlast, fun _ _ => h,
              harmless_of_not_first fun b hb hfirst => h b hb (b.any_of_first hfirst)⟩
          · rintro ⟨-, h, -⟩
            exact h hfirst hlast
      · have hnext : clean.next a = clean := by simp [next, hfirst]
        rw [hnext, ih]
        simp [hfirst]

/-! ### One message of which some datagrams are lost -/

variable {M V α β : Type}

/-- A message on its way: its datagrams, and which of them arrive, by the number of the
fragment. -/
structure Sent (β : Type) where
  datagrams : List (Datagram β)
  cut : Cut datagrams
  arrives : ℕ → Bool

namespace Sent

/-- The message. -/
def bytes (self : Sent β) : List β := SbeReceiver.bytes self.datagrams

/-- Whether a datagram arrives. -/
def received (self : Sent β) (datagram : Datagram β) : Bool :=
  self.arrives datagram.header.fragment.toNat

/-- The datagrams that arrive. -/
def survivors (self : Sent β) : List (Datagram β) := self.datagrams.filter self.received

/-- Which of them arrive. -/
def arrival (self : Sent β) : Arrival :=
  .ofFragments (self.datagrams.length - 1) self.arrives

variable {self : Sent β} {datagram : Datagram β}

theorem received_of_isFirst (h : datagram.IsFirst) :
    self.received datagram = self.arrival.first := by
  rw [received, h]
  rfl

theorem received_of_isLast (hmem : datagram ∈ self.datagrams) (h : datagram.IsLast) :
    self.received datagram = self.arrival.last := by
  have hmax := self.cut.fragmentMax datagram hmem
  have hindex : datagram.header.fragmentMax.toNat = self.datagrams.length - 1 := by omega
  rw [received, h, hindex]
  rfl

/-- The fragments are numbered up to the last one. -/
theorem lt_length_iff (self : Sent β) (i : ℕ) :
    i ∈ List.range (self.datagrams.length - 1 + 1) ↔ i < self.datagrams.length := by
  have hpos : 0 < self.datagrams.length := List.length_pos_iff.mpr self.cut.nonempty
  rw [List.mem_range]
  omega

/-- All datagrams arrive when each of them does. -/
theorem survivors_of_complete (h : self.arrival.complete = true) :
    self.survivors = self.datagrams := by
  refine List.filter_eq_self.mpr fun d hd => ?_
  obtain ⟨i, hi, rfl⟩ := List.mem_iff_getElem.mp hd
  rw [received, self.cut.fragment i hi]
  exact List.all_eq_true.mp h i ((self.lt_length_iff i).mpr hi)

/-- When not all datagrams arrive, one of them is lost. -/
theorem exists_lost (h : self.arrival.complete ≠ true) :
    ∃ d ∈ self.datagrams, self.received d = false := by
  by_contra hall
  push Not at hall
  refine h (List.all_eq_true.mpr fun i hi => ?_)
  have hi := (self.lt_length_iff i).mp hi
  have hreceived := hall self.datagrams[i] (List.getElem_mem hi)
  rw [received, self.cut.fragment i hi] at hreceived
  simpa using hreceived

/-- When any datagram arrives, the receiver sees one. -/
theorem exists_survivor (h : self.arrival.any = true) : ∃ d, d ∈ self.survivors := by
  obtain ⟨i, hmem, harrives⟩ := List.any_eq_true.mp h
  have hi := (self.lt_length_iff i).mp hmem
  refine ⟨self.datagrams[i], List.mem_filter.mpr ⟨List.getElem_mem hi, ?_⟩⟩
  rw [received, self.cut.fragment i hi]
  exact harrives

/-- When no datagram arrives, the receiver sees none. -/
theorem survivors_of_not_any (h : self.arrival.any ≠ true) : self.survivors = [] := by
  refine List.filter_eq_nil_iff.mpr fun d hd hreceived => h ?_
  obtain ⟨i, hi, rfl⟩ := List.mem_iff_getElem.mp hd
  rw [received, self.cut.fragment i hi] at hreceived
  exact List.any_eq_true.mpr ⟨i, (self.lt_length_iff i).mpr hi, hreceived⟩

/-- The bytes that arrive are bytes of the message. -/
theorem bytes_survivors_subset : SbeReceiver.bytes self.survivors ⊆ self.bytes := by
  intro x hx
  obtain ⟨d, hd, hx⟩ := List.mem_flatMap.mp hx
  exact List.mem_flatMap.mpr ⟨d, (List.mem_filter.mp hd).1, hx⟩

/-- When a datagram is lost, bytes are missing. -/
theorem length_bytes_survivors_lt (h : self.arrival.complete ≠ true) :
    (SbeReceiver.bytes self.survivors).length < self.bytes.length := by
  obtain ⟨d, hd, hlost⟩ := exists_lost h
  obtain ⟨before, after, hsplit⟩ := List.append_of_mem hd
  have hpayload : 0 < d.payload.length := List.length_pos_iff.mpr (self.cut.payload d hd)
  have hle : ∀ ds : List (Datagram β),
      (SbeReceiver.bytes (ds.filter self.received)).length ≤ (SbeReceiver.bytes ds).length :=
    fun ds => (List.filter_sublist.flatMap _).length_le
  have hbefore := hle before
  have hafter := hle after
  rw [survivors, bytes, hsplit, List.filter_append, List.filter_cons_of_neg (by simp [hlost])]
  simp only [SbeReceiver.bytes, List.flatMap_append, List.flatMap_cons, List.length_append] at *
  omega

theorem survivors_not_first (h : self.arrival.first ≠ true) :
    ∀ d ∈ self.survivors, ¬ d.IsFirst := by
  intro d hd hfirst
  obtain ⟨-, hreceived⟩ := List.mem_filter.mp hd
  exact h (received_of_isFirst hfirst ▸ hreceived)

theorem survivors_not_last (h : self.arrival.last ≠ true) :
    ∀ d ∈ self.survivors, ¬ d.IsLast := by
  intro d hd hlast
  obtain ⟨hmem, hreceived⟩ := List.mem_filter.mp hd
  exact h (received_of_isLast hmem hlast ▸ hreceived)

/-- **The shape of what arrives.** Of a message with one datagram, all or nothing; of another
one, the first datagram or not, some in the middle, and the last one or not. -/
theorem survivors_shape (self : Sent β) :
    (∃ only, self.datagrams = [only] ∧ only.IsFirst ∧ only.IsLast ∧
      self.survivors = if self.arrival.first then [only] else []) ∨
    ∃ first middle last, first ∈ self.datagrams ∧ last ∈ self.datagrams ∧
      first.IsFirst ∧ ¬ first.IsLast ∧ (∀ d ∈ middle, ¬ d.IsFirst ∧ ¬ d.IsLast) ∧
      ¬ last.IsFirst ∧ last.IsLast ∧
      self.survivors = (if self.arrival.first then [first] else []) ++
        (middle ++ if self.arrival.last then [last] else []) := by
  obtain ⟨datagrams, cut, arrives⟩ := self
  set self : Sent β := ⟨datagrams, cut, arrives⟩ with hself
  cases cut.shape with
  | @single only hfirst hlast =>
      refine .inl ⟨only, rfl, hfirst, hlast, ?_⟩
      rw [survivors, List.filter_cons, received_of_isFirst hfirst]
      rfl
  | @several first last middle hfirst hnlast hmiddle hnfirst hlast =>
      have hmem : last ∈ self.datagrams := by simp [hself]
      refine .inr ⟨first, middle.filter self.received, last, List.mem_cons_self, hmem, hfirst,
        hnlast, fun d hd => hmiddle d (List.mem_filter.mp hd).1, hnfirst, hlast, ?_⟩
      rw [survivors, List.filter_cons, List.filter_append, List.filter_cons,
        received_of_isFirst hfirst, received_of_isLast hmem hlast]
      split <;> rfl

/-! ### What a message does to the receiver -/

variable (native : NativeDecoder M V β) {receiver : Receiver β}

/-- What arrives of a message, one datagram after the other. -/
def receive (receiver : Receiver β) (sent : Sent β) : Receiver β :=
  sent.survivors.foldl (Receiver.assemble native) receiver

/-- A message whose first datagram is lost is discarded. -/
theorem receive_of_not_first (hbuffer : receiver.decodeBuffer = [])
    (hfirst : self.arrival.first ≠ true) :
    ∃ header, receive native receiver self = { receiver with header := header } :=
  foldl_skip (survivors_not_first hfirst) hbuffer

/-- A message that arrives is passed to the decoder. -/
theorem receive_of_complete (hbuffer : receiver.decodeBuffer = [])
    (hcomplete : self.arrival.complete = true)
    (hreturns : ¬ native.Fails receiver.dispatched self.bytes) :
    ∃ header, receive native receiver self =
      { receiver with
        header := header
        dispatched := receiver.dispatched ++ [self.bytes] } := by
  rw [receive, survivors_of_complete hcomplete]
  exact foldl_of_returns self.cut hbuffer hreturns

/-- The bytes of a message whose last datagram is lost are left in the buffer. -/
theorem receive_of_not_last (hbuffer : receiver.decodeBuffer = [])
    (hfirst : self.arrival.first = true) (hlast : self.arrival.last ≠ true) :
    SbeReceiver.bytes self.survivors ≠ [] ∧ ∃ header, receive native receiver self =
      { receiver with
        header := header
        decodeBuffer := SbeReceiver.bytes self.survivors } := by
  rcases self.survivors_shape with ⟨only, honly, -⟩ |
    ⟨first, middle, last, hmem, -, hisFirst, hnlast, hmiddle, -, -, hsurvivors⟩
  · -- The first datagram is the last one.
    refine absurd ?_ hlast
    rw [arrival, honly]
    exact hfirst
  · have hne : first.payload ≠ [] := self.cut.payload first hmem
    rw [if_pos hfirst, if_neg hlast, List.append_nil, List.singleton_append] at hsurvivors
    rw [receive, hsurvivors]
    exact ⟨bytes_ne_nil hne, foldl_unfinished native hisFirst hnlast hmiddle hne hbuffer⟩

/-- When only datagrams in the middle of a message are lost, the rest of it is passed to the
decoder. -/
theorem receive_of_incomplete (hbuffer : receiver.decodeBuffer = [])
    (hfirst : self.arrival.first = true) (hlast : self.arrival.last = true)
    (hcomplete : self.arrival.complete ≠ true) :
    SbeReceiver.bytes self.survivors ≠ [] ∧
      SbeReceiver.bytes self.survivors ∈ (receive native receiver self).dispatched := by
  rcases self.survivors_shape with ⟨only, honly, -⟩ |
    ⟨first, middle, last, hmem, -, hisFirst, hnlast, hmiddle, -, hisLast, hsurvivors⟩
  · -- The only datagram arrives.
    refine absurd ?_ hcomplete
    rw [arrival, honly]
    simpa [arrival, Arrival.ofFragments] using hfirst
  · have hne : first.payload ≠ [] := self.cut.payload first hmem
    rw [if_pos hfirst, if_pos hlast, List.singleton_append] at hsurvivors
    obtain ⟨header, hfoldl⟩ := foldl_unfinished native hisFirst hnlast hmiddle hne hbuffer
    rw [receive, hsurvivors, bytes_several]
    refine ⟨fun h => bytes_ne_nil hne (List.append_eq_nil_iff.mp h).1, ?_⟩
    rw [← List.cons_append, List.foldl_append, hfoldl, List.foldl_cons, List.foldl_nil,
      assemble_last_dispatched hisLast (bytes_ne_nil hne)]
    exact List.mem_append_right _ List.mem_cons_self

/-- Bytes that are left stay, as long as no first and no last datagram arrives. -/
theorem receive_of_left (hbuffer : receiver.decodeBuffer ≠ [])
    (hfirst : self.arrival.first ≠ true) (hlast : self.arrival.last ≠ true) :
    ∃ header, receive native receiver self =
      { receiver with
        header := header
        decodeBuffer := receiver.decodeBuffer ++ SbeReceiver.bytes self.survivors } :=
  foldl_middle native
    (fun d hd => ⟨survivors_not_first hfirst d hd, survivors_not_last hlast d hd⟩) hbuffer

/-- Bytes that are left are joined with a last datagram that arrives before any first one. -/
theorem receive_of_concat (hbuffer : receiver.decodeBuffer ≠ []) {middle : List (Datagram β)}
    {last : Datagram β} (hmiddle : ∀ d ∈ middle, ¬ d.IsFirst ∧ ¬ d.IsLast)
    (hmem : last ∈ self.datagrams) (hlast : last.IsLast)
    (hsurvivors : self.survivors = middle ++ [last]) :
    ∃ message ∈ (receive native receiver self).dispatched,
      receiver.decodeBuffer ⊆ message ∧ ∃ x ∈ message, x ∈ self.bytes := by
  obtain ⟨header, hfoldl⟩ := foldl_middle native hmiddle hbuffer
  obtain ⟨x, hx⟩ := List.exists_mem_of_ne_nil _ (self.cut.payload last hmem)
  have hbuffer' : receiver.decodeBuffer ++ SbeReceiver.bytes middle ≠ [] :=
    fun h => hbuffer (List.append_eq_nil_iff.mp h).1
  rw [receive, hsurvivors, List.foldl_append, hfoldl, List.foldl_cons, List.foldl_nil,
    assemble_last_dispatched hlast hbuffer']
  refine ⟨_, List.mem_append_right _ List.mem_cons_self, ?_, x, ?_, ?_⟩
  · exact fun y hy => List.mem_append_left _ (List.mem_append_left _ hy)
  · exact List.mem_append_right _ hx
  · exact List.mem_flatMap.mpr ⟨last, hmem, hx⟩

/-- Bytes that are left are joined with a last datagram, or make the assertion fail at a
first one. -/
theorem receive_of_joined (hbuffer : receiver.decodeBuffer ≠ [])
    (h : self.arrival.first = true ∨ self.arrival.last = true) :
    .internalError ∈ (receive native receiver self).raised ∨
      ∃ message ∈ (receive native receiver self).dispatched,
        receiver.decodeBuffer ⊆ message ∧ ∃ x ∈ message, x ∈ self.bytes := by
  rcases self.survivors_shape with ⟨only, honly, hisFirst, hisLast, hsurvivors⟩ |
    ⟨first, middle, last, -, hmem, hisFirst, hnlast, hmiddle, -, hisLast, hsurvivors⟩
  · -- The only datagram arrives, and is the last one.
    have hfirst : self.arrival.first = true := by
      refine h.elim id fun hlast => ?_
      rw [arrival, honly] at hlast
      exact hlast
    have hmem : only ∈ self.datagrams := honly ▸ List.mem_cons_self
    rw [if_pos hfirst] at hsurvivors
    exact .inr (receive_of_concat native hbuffer (List.forall_mem_nil _) hmem hisLast hsurvivors)
  · by_cases hfirst : self.arrival.first = true
    · rw [if_pos hfirst, List.singleton_append] at hsurvivors
      refine .inl ?_
      rw [receive, hsurvivors, List.foldl_cons, assemble_first_left hisFirst hnlast hbuffer]
      exact (foldl_records _ _ _).2.subset (List.mem_append_right _ List.mem_cons_self)
    · have hlast : self.arrival.last = true := h.resolve_left hfirst
      rw [if_neg hfirst, if_pos hlast, List.nil_append] at hsurvivors
      exact .inr (receive_of_concat native hbuffer hmiddle hmem hisLast hsurvivors)

end Sent

/-! ### Runs -/

section

variable {native : NativeDecoder M V (ℕ × α)} {messages : List (List (ℕ × α))}

/-- Every byte string that was passed to the decoder is a message, the bytes in the buffer
are of one message, and no assertion has failed. -/
structure Unbroken (messages : List (List (ℕ × α))) (receiver : Receiver (ℕ × α)) : Prop where
  dispatched : ∀ message ∈ receiver.dispatched, message ∈ messages
  buffer : ∀ x ∈ receiver.decodeBuffer, ∀ y ∈ receiver.decodeBuffer, x.1 = y.1
  raised : .internalError ∉ receiver.raised

/-- How the receiver stands to the phase when `k` messages are over, where every byte
carries the number of its message. -/
inductive Refines (messages : List (List (ℕ × α))) (k : ℕ) : Phase → Receiver (ℕ × α) → Prop
  | clean {receiver} : receiver.decodeBuffer = [] →
      receiver.dispatched.Sublist (messages.take k) → .internalError ∉ receiver.raised →
      Refines messages k .clean receiver
  | left {receiver} {i} : receiver.decodeBuffer ≠ [] → (∀ x ∈ receiver.decodeBuffer, x.1 = i) →
      i < k → receiver.dispatched.Sublist (messages.take k) →
      .internalError ∉ receiver.raised → Refines messages k .left receiver
  | broken {receiver} : ¬ Unbroken messages receiver → Refines messages k .broken receiver

/-- The bytes of each message carry its number. -/
def Numbered (messages : List (List (ℕ × α))) : Prop :=
  ∀ i (h : i < messages.length), ∀ x ∈ messages[i], x.1 = i

/-- A byte string with bytes of one message that is not that message is none. -/
theorem notMem_of_ne (hnumbered : Numbered messages) {k : ℕ} (hk : k < messages.length)
    {message : List (ℕ × α)} {x : ℕ × α} (hmem : x ∈ message) (hx : x.1 = k)
    (hne : message ≠ messages[k]) : message ∉ messages := by
  intro hmessage
  obtain ⟨i, hi, rfl⟩ := List.mem_iff_getElem.mp hmessage
  obtain rfl : i = k := (hnumbered i hi x hmem).symm.trans hx
  exact hne rfl

/-- The bytes of a message carry the same number. -/
theorem Numbered.eq_of_mem (hnumbered : Numbered messages) {message : List (ℕ × α)}
    (hmessage : message ∈ messages) {x y : ℕ × α} (hx : x ∈ message) (hy : y ∈ message) :
    x.1 = y.1 := by
  obtain ⟨i, hi, rfl⟩ := List.mem_iff_getElem.mp hmessage
  rw [hnumbered i hi x hx, hnumbered i hi y hy]

/-- What is broken stays broken: bytes that were joined are passed to the decoder together or
stay in the buffer. -/
theorem Unbroken.of_receive (hnumbered : Numbered messages) {receiver : Receiver (ℕ × α)}
    {sent : Sent (ℕ × α)} (h : Unbroken messages (Sent.receive native receiver sent)) :
    Unbroken messages receiver := by
  obtain ⟨hdispatched, hraised⟩ := foldl_records native sent.survivors receiver
  refine ⟨fun message hmem => h.dispatched message (hdispatched.subset hmem), ?_,
    fun hinternal => h.raised (hraised.subset hinternal)⟩
  intro x hx y hy
  have hbuffer : receiver.decodeBuffer ≠ [] := List.ne_nil_of_mem hx
  by_cases harrival : sent.arrival.first = true ∨ sent.arrival.last = true
  · rcases Sent.receive_of_joined native hbuffer harrival with
      hinternal | ⟨message, hmem, hsubset, -⟩
    · exact absurd hinternal h.raised
    · exact hnumbered.eq_of_mem (h.dispatched message hmem) (hsubset hx) (hsubset hy)
  · rw [not_or] at harrival
    obtain ⟨header, hreceive⟩ := Sent.receive_of_left native hbuffer harrival.1 harrival.2
    refine h.buffer x ?_ y ?_
    · rw [hreceive]
      exact List.mem_append_left _ hx
    · rw [hreceive]
      exact List.mem_append_left _ hy

/-- The messages so far, with one more. -/
theorem take_messages_succ {k : ℕ} (hk : k < messages.length) {sent : Sent (ℕ × α)}
    (hsent : messages[k] = sent.bytes) :
    messages.take (k + 1) = messages.take k ++ [sent.bytes] := by
  rw [List.take_succ_eq_append_getElem hk, hsent]

section

variable (hnumbered : Numbered messages) {k : ℕ} (hk : k < messages.length)
  {sent : Sent (ℕ × α)} (hsent : messages[k] = sent.bytes) {receiver : Receiver (ℕ × α)}
include hnumbered hk hsent

/-- The bytes of the message carry its number. -/
theorem owner_eq {x : ℕ × α} (hx : x ∈ sent.bytes) : x.1 = k := hnumbered k hk x (hsent ▸ hx)

/-- A message of which only datagrams in the middle are lost breaks the receiver: what is
passed to the decoder is too short. -/
theorem not_unbroken_of_incomplete (hbuffer : receiver.decodeBuffer = [])
    (hfirst : sent.arrival.first = true) (hlast : sent.arrival.last = true)
    (hcomplete : sent.arrival.complete ≠ true) :
    ¬ Unbroken messages (Sent.receive native receiver sent) := by
  intro h
  obtain ⟨hne, hmem⟩ := Sent.receive_of_incomplete native hbuffer hfirst hlast hcomplete
  obtain ⟨x, hx⟩ := List.exists_mem_of_ne_nil _ hne
  have howner : x.1 = k := owner_eq hnumbered hk hsent (Sent.bytes_survivors_subset hx)
  refine notMem_of_ne hnumbered hk hx howner ?_ (h.dispatched _ hmem)
  intro hbytes
  have hlength := Sent.length_bytes_survivors_lt hcomplete
  rw [hbytes, hsent] at hlength
  omega

/-- Any datagram that arrives when bytes of an earlier message are left breaks the receiver:
they are joined, or the assertion fails. -/
theorem not_unbroken_of_left (hany : sent.arrival.any = true) {x : ℕ × α}
    (hx : x ∈ receiver.decodeBuffer) (hlt : x.1 < k) :
    ¬ Unbroken messages (Sent.receive native receiver sent) := by
  intro h
  have hbuffer : receiver.decodeBuffer ≠ [] := List.ne_nil_of_mem hx
  by_cases harrival : sent.arrival.first = true ∨ sent.arrival.last = true
  · rcases Sent.receive_of_joined native hbuffer harrival with
      hinternal | ⟨message, hmessage, hsubset, y, hy, hbytes⟩
    · exact h.raised hinternal
    · have hxy : x.1 = y.1 :=
        hnumbered.eq_of_mem (h.dispatched message hmessage) (hsubset hx) hy
      have hyk : y.1 = k := owner_eq hnumbered hk hsent hbytes
      omega
  · rw [not_or] at harrival
    obtain ⟨header, hreceive⟩ := Sent.receive_of_left native hbuffer harrival.1 harrival.2
    obtain ⟨d, hd⟩ := Sent.exists_survivor hany
    obtain ⟨y, hy⟩ := List.exists_mem_of_ne_nil _
      (sent.cut.payload d (List.mem_filter.mp hd).1)
    have hbytes : y ∈ SbeReceiver.bytes sent.survivors := List.mem_flatMap.mpr ⟨d, hd, hy⟩
    rw [hreceive] at h
    have hxy : x.1 = y.1 :=
      h.buffer x (List.mem_append_left _ hx) y (List.mem_append_right _ hbytes)
    have hyk : y.1 = k := owner_eq hnumbered hk hsent (Sent.bytes_survivors_subset hbytes)
    omega

/-- A message that arrives at an empty buffer. -/
theorem refines_clean (hreturns : ∀ before, ¬ native.Fails before sent.bytes)
    (hbuffer : receiver.decodeBuffer = [])
    (hdispatched : receiver.dispatched.Sublist (messages.take k))
    (hraised : .internalError ∉ receiver.raised) :
    Refines messages (k + 1) (Phase.clean.next sent.arrival)
      (Sent.receive native receiver sent) := by
  have htake := take_messages_succ hk hsent
  have hgrow : (messages.take k).Sublist (messages.take (k + 1)) :=
    htake ▸ List.sublist_append_left _ _
  by_cases hfirst : sent.arrival.first = true
  · by_cases hlast : sent.arrival.last = true
    · by_cases hcomplete : sent.arrival.complete = true
      · -- The message arrives.
        obtain ⟨header, hreceive⟩ :=
          Sent.receive_of_complete native hbuffer hcomplete (hreturns receiver.dispatched)
        have hnext : Phase.clean.next sent.arrival = .clean := by
          simp [Phase.next, hfirst, hlast, hcomplete]
        rw [hnext, hreceive]
        exact .clean hbuffer (htake ▸ hdispatched.append (.refl _)) hraised
      · -- Datagrams in the middle are lost.
        have hnext : Phase.clean.next sent.arrival = .broken := by
          simp [Phase.next, hfirst, hlast, hcomplete]
        rw [hnext]
        exact .broken
          (not_unbroken_of_incomplete hnumbered hk hsent hbuffer hfirst hlast hcomplete)
    · -- The last datagram is lost.
      obtain ⟨hne, header, hreceive⟩ := Sent.receive_of_not_last native hbuffer hfirst hlast
      have hnext : Phase.clean.next sent.arrival = .left := by
        simp [Phase.next, hfirst, hlast]
      have hleft : ∀ x ∈ SbeReceiver.bytes sent.survivors, x.1 = k :=
        fun x hx => owner_eq hnumbered hk hsent (Sent.bytes_survivors_subset hx)
      rw [hnext, hreceive]
      exact .left hne hleft (Nat.lt_succ_self k) (hdispatched.trans hgrow) hraised
  · -- The first datagram is lost.
    obtain ⟨header, hreceive⟩ := Sent.receive_of_not_first native hbuffer hfirst
    have hnext : Phase.clean.next sent.arrival = .clean := if_neg hfirst
    rw [hnext, hreceive]
    exact .clean hbuffer (hdispatched.trans hgrow) hraised

/-- A message that arrives, or is lost, when bytes of an earlier one are left. -/
theorem refines_left {i : ℕ} (hbuffer : receiver.decodeBuffer ≠ [])
    (hleft : ∀ x ∈ receiver.decodeBuffer, x.1 = i) (hlt : i < k)
    (hdispatched : receiver.dispatched.Sublist (messages.take k))
    (hraised : .internalError ∉ receiver.raised) :
    Refines messages (k + 1) (Phase.left.next sent.arrival)
      (Sent.receive native receiver sent) := by
  by_cases hany : sent.arrival.any = true
  · have hnext : Phase.left.next sent.arrival = .broken := if_pos hany
    obtain ⟨x, hx⟩ := List.exists_mem_of_ne_nil _ hbuffer
    have hxk : x.1 < k := hleft x hx ▸ hlt
    rw [hnext]
    exact .broken (not_unbroken_of_left hnumbered hk hsent hany hx hxk)
  · have hnext : Phase.left.next sent.arrival = .left := if_neg hany
    have hreceive : Sent.receive native receiver sent = receiver := by
      rw [Sent.receive, Sent.survivors_of_not_any hany, List.foldl_nil]
    have hgrow : (messages.take k).Sublist (messages.take (k + 1)) :=
      take_messages_succ hk hsent ▸ List.sublist_append_left _ _
    rw [hnext, hreceive]
    exact .left hbuffer hleft (by omega) (hdispatched.trans hgrow) hraised

/-- **Steps.** A message takes the receiver from one phase to the next. -/
theorem refines_step (hreturns : ∀ before, ¬ native.Fails before sent.bytes) {phase : Phase}
    (h : Refines messages k phase receiver) :
    Refines messages (k + 1) (phase.next sent.arrival) (Sent.receive native receiver sent) := by
  cases h with
  | clean hbuffer hdispatched hraised =>
      exact refines_clean hnumbered hk hsent hreturns hbuffer hdispatched hraised
  | left hbuffer hleft hlt hdispatched hraised =>
      exact refines_left hnumbered hk hsent hbuffer hleft hlt hdispatched hraised
  | broken hbroken => exact .broken fun h => hbroken (h.of_receive hnumbered)

end

/-- **Runs.** The receiver follows the phases over a stream. -/
theorem refines_run {stream : List (Sent (ℕ × α))}
    (hnumbered : Numbered (stream.map Sent.bytes))
    (hreturns : ∀ sent ∈ stream, ∀ before, ¬ native.Fails before sent.bytes) :
    Refines (stream.map Sent.bytes) stream.length
      ((stream.map Sent.arrival).foldl Phase.next .clean)
      (stream.foldl (Sent.receive native) Receiver.new) := by
  rw [List.foldl_map]
  refine foldl_simulation _ _ (Refines (stream.map Sent.bytes))
    (.clean rfl (List.nil_sublist _) List.not_mem_nil) ?_
  intro k hk phase receiver h
  have hlength : k < (stream.map Sent.bytes).length := by
    rw [List.length_map]
    omega
  exact refines_step hnumbered hlength (List.getElem_map _) (hreturns _ (List.getElem_mem hk)) h

/-- What is asked of the receiver: the byte strings that it passes to the decoder are
messages, none twice and in order, the bytes in the buffer are of one message, and no
assertion fails. -/
structure Assembled (messages : List (List (ℕ × α))) (receiver : Receiver (ℕ × α)) : Prop where
  dispatched : receiver.dispatched.Sublist messages
  buffer : ∀ x ∈ receiver.decodeBuffer, ∀ y ∈ receiver.decodeBuffer, x.1 = y.1
  raised : .internalError ∉ receiver.raised

/-- At the end of the stream, nothing is broken exactly when the messages are assembled. -/
theorem Refines.ne_broken_iff {phase : Phase} {receiver : Receiver (ℕ × α)}
    (h : Refines messages messages.length phase receiver) :
    phase ≠ .broken ↔ Assembled messages receiver := by
  cases h with
  | clean hbuffer hdispatched hraised =>
      rw [List.take_length] at hdispatched
      refine iff_of_true (by simp) ⟨hdispatched, ?_, hraised⟩
      simp [hbuffer]
  | left hbuffer hleft hlt hdispatched hraised =>
      rw [List.take_length] at hdispatched
      refine iff_of_true (by simp) ⟨hdispatched, ?_, hraised⟩
      intro x hx y hy
      rw [hleft x hx, hleft y hy]
  | broken hbroken =>
      refine iff_of_false (fun h => h rfl) fun h => hbroken ?_
      exact ⟨fun _ hmem => h.dispatched.subset hmem, h.buffer, h.raised⟩

end

/-! ### Streams of datagrams -/

/-- A message, and which of its datagrams arrive, by the number of the fragment. -/
structure Transmission (codec : Udp.Codec) extends Message codec where
  arrives : ℕ → Bool

section

variable {codec : Udp.Codec}

/-- The datagrams, and whether they arrive. -/
def Transmission.datagrams (self : Transmission codec) : List (Bytes × Bool) :=
  self.data.map fun data => (data, self.arrives (codec.decode data).fragment.toNat)

/-- What matters of the datagrams that arrive. -/
def Transmission.arrival (self : Transmission codec) : Arrival :=
  .ofFragments (self.data.length - 1) self.arrives

/-- A stream as it reaches the receiver, through the re-order buffer. -/
def Receiver.run (native : NativeDecoder M V UInt8) (stream : List (Transmission codec)) :
    Receiver UInt8 :=
  (ReorderBuffer.calls false (stream.flatMap Transmission.datagrams)).foldl
    (Receiver.handle (Receiver._parse codec native)) Receiver.new

/-- A message whose bytes carry its number. -/
def Transmission.label (k : ℕ) (self : Transmission codec) : Sent (ℕ × UInt8) where
  datagrams := (self.data.map (split codec)).map (Datagram.map (k, ·))
  cut := self.cut.map _
  arrives := self.arrives

/-- The same stream, in which every byte carries the number of its message. -/
def Receiver.runLabelled (native : NativeDecoder M V UInt8)
    (stream : List (Transmission codec)) : Receiver (ℕ × UInt8) :=
  (stream.mapIdx Transmission.label).foldl (Sent.receive (native.comap Prod.snd)) Receiver.new

theorem map_snd_label (k : ℕ) (datagram : Datagram UInt8) :
    (datagram.map (k, ·)).map Prod.snd = datagram := by
  simp [Datagram.map, Function.comp_def]

/-- A message reaches the receiver in the same way with labels and without. -/
theorem map_receive_label (native : NativeDecoder M V UInt8) (k : ℕ)
    (self : Transmission codec) (receiver : Receiver (ℕ × UInt8)) :
    (Sent.receive (native.comap Prod.snd) receiver (self.label k)).map Prod.snd =
      ((self.datagrams.filter (·.2)).map (·.1)).foldl (Receiver._parse codec native)
        (receiver.map Prod.snd) := by
  have hsurvivors : (self.label k).survivors =
      (((self.datagrams.filter (·.2)).map (·.1)).map (split codec)).map
        (Datagram.map (k, ·)) := by
    rw [Sent.survivors, Transmission.label, Transmission.datagrams, List.filter_map,
      List.filter_map, List.filter_map]
    simp only [List.map_map]
    rfl
  rw [Sent.receive, hsurvivors, List.foldl_map, List.foldl_map]
  refine (List.foldl_hom (Receiver.map Prod.snd) fun receiver data => ?_).symm
  rw [map_assemble, map_snd_label]
  rfl

/-- **Labels are invisible.** The run over bytes that carry the number of their message is the
run over bytes. -/
theorem map_runLabelled (native : NativeDecoder M V UInt8)
    (stream : List (Transmission codec)) :
    (Receiver.runLabelled native stream).map Prod.snd = Receiver.run native stream := by
  -- The numbers do not matter.
  have hrun : ∀ (label : ℕ → Transmission codec → Sent (ℕ × UInt8))
      (receiver : Receiver (ℕ × UInt8)),
      (∀ k t receiver, (Sent.receive (native.comap Prod.snd) receiver (label k t)).map Prod.snd =
        ((t.datagrams.filter (·.2)).map (·.1)).foldl (Receiver._parse codec native)
          (receiver.map Prod.snd)) →
      ((stream.mapIdx label).foldl (Sent.receive (native.comap Prod.snd)) receiver).map Prod.snd =
        (((stream.flatMap Transmission.datagrams).filter (·.2)).map (·.1)).foldl
          (Receiver._parse codec native) (receiver.map Prod.snd) := by
    induction stream with
    | nil => exact fun _ _ _ => rfl
    | cons t stream ih =>
        intro label receiver hlabel
        rw [List.mapIdx_cons, List.foldl_cons, ih _ _ fun k => hlabel (k + 1), hlabel,
          List.flatMap_cons, List.filter_append, List.map_append, List.foldl_append]
  rw [Receiver.run, foldl_handle_calls]
  exact hrun _ Receiver.new (map_receive_label native)

/-- The messages of the stream, where every byte carries the number of its message. -/
def labelledMessages (stream : List (Transmission codec)) : List (List (ℕ × UInt8)) :=
  stream.mapIdx fun k t => t.bytes.map (k, ·)

theorem bytes_label (k : ℕ) (self : Transmission codec) :
    (self.label k).bytes = self.bytes.map (k, ·) := bytes_map _ _

theorem map_bytes_label (stream : List (Transmission codec)) :
    (stream.mapIdx Transmission.label).map Sent.bytes = labelledMessages stream := by
  refine List.ext_getElem (by simp [labelledMessages]) fun i hi hi' => ?_
  simp [labelledMessages, bytes_label]

theorem map_arrival_label (stream : List (Transmission codec)) :
    (stream.mapIdx Transmission.label).map Sent.arrival = stream.map Transmission.arrival := by
  refine List.ext_getElem (by simp) fun i hi hi' => ?_
  simp [Transmission.label, Sent.arrival, Transmission.arrival]

theorem numbered_labelledMessages (stream : List (Transmission codec)) :
    Numbered (labelledMessages stream) := by
  intro i hi x hx
  simp only [labelledMessages, List.getElem_mapIdx] at hx
  obtain ⟨b, -, rfl⟩ := List.mem_map.mp hx
  rfl

/-- **Reassembly.** For any losses, every byte string that is passed to the decoder is one
message of the stream, no message is passed twice and no assertion fails, exactly when the
losses are harmless. -/
theorem assembled_iff (native : NativeDecoder M V UInt8) (stream : List (Transmission codec))
    (hreturns : ∀ t ∈ stream, ∀ before, ¬ native.Fails before t.bytes) :
    (Receiver.runLabelled native stream).map Prod.snd = Receiver.run native stream ∧
      (Assembled (labelledMessages stream) (Receiver.runLabelled native stream) ↔
        Harmless (stream.map Transmission.arrival)) := by
  refine ⟨map_runLabelled native stream, ?_⟩
  have hmessages := map_bytes_label stream
  have hnumbered := numbered_labelledMessages stream
  have hlabelled : ∀ sent ∈ stream.mapIdx Transmission.label, ∀ before,
      ¬ (native.comap Prod.snd).Fails before sent.bytes := by
    intro sent hsent before
    obtain ⟨k, hk, rfl⟩ := List.mem_mapIdx.mp hsent
    have hdrop : (stream[k].bytes.map (k, ·)).map Prod.snd = stream[k].bytes := by
      simp [Function.comp_def]
    rw [fails_comap, bytes_label, hdrop]
    exact hreturns stream[k] (List.getElem_mem hk) _
  have hrefines := refines_run (hmessages ▸ hnumbered) hlabelled
  rw [map_arrival_label, hmessages] at hrefines
  have hlength :
      (stream.mapIdx Transmission.label).length = (labelledMessages stream).length := by
    simp [labelledMessages]
  rw [hlength] at hrefines
  exact hrefines.ne_broken_iff.symm.trans (Phase.foldl_next_ne_broken_iff _)

end

/-! ### Two streams -/

/-- A message of two fragments. -/
def twoFragments : Message .sample where
  data := [Udp.Codec.sampleDatagram 0 1 [1, 2], Udp.Codec.sampleDatagram 1 1 [3]]
  cut := ⟨by decide, by decide, by decide, by decide⟩

/-- A message of one fragment. -/
def oneFragment : Message .sample where
  data := [Udp.Codec.sampleDatagram 0 0 [4]]
  cut := ⟨by decide, by decide, by decide, by decide⟩

/-- A decoder that feeds one event for any message and consumes all of it. -/
def consumeAll : NativeDecoder Unit Unit β :=
  fun _ message => ([.event ⟨.topOfBook, (), ()⟩ default], message.length)

/-- The first fragment of the first message is lost. -/
def firstLost : List (Transmission .sample) :=
  [⟨twoFragments, fun i => i ≠ 0⟩, ⟨oneFragment, fun _ => true⟩]

/-- The last fragment of the first message is lost. -/
def lastLost : List (Transmission .sample) :=
  [⟨twoFragments, fun i => i = 0⟩, ⟨oneFragment, fun _ => true⟩]

theorem consumeAll_returns (before : List (List β)) (message : List β) :
    ¬ consumeAll.Fails before message := not_not.mpr rfl

theorem firstLost_assembled :
    Assembled (labelledMessages firstLost) (Receiver.runLabelled consumeAll firstLost) :=
  (assembled_iff consumeAll firstLost fun _ _ before => consumeAll_returns before _).2.mpr
    ⟨by decide, by decide⟩

/-- After the gap, a fragment of the first message is joined with the second message. -/
theorem lastLost_joined :
    (∀ t ∈ lastLost, ∀ before, ¬ consumeAll.Fails before t.bytes) ∧
      (Receiver.run consumeAll lastLost).dispatched = [[1, 2, 4]] ∧
      ¬ Assembled (labelledMessages lastLost) (Receiver.runLabelled consumeAll lastLost) := by
  refine ⟨fun _ _ before => consumeAll_returns before _, by decide, ?_⟩
  rintro ⟨hdispatched, -, -⟩
  exact absurd (hdispatched.subset (a := [(0, 1), (0, 2), (1, 4)]) (by decide)) (by decide)

end RoqPython.SbeReceiver
