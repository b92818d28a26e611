import RoqPython.Dispatch
import RoqPython.Udp

/-!
# The Receiver of the SBE Sample

`Receiver` of `samples/sbe_receiver.py` puts messages together from fragments. All that it
remembers of a message is a byte buffer: it does not know which message, and which of its
fragments, the bytes in the buffer came from.

The model is generic in what a payload consists of, so that the same code can be run on
bytes and on bytes that carry a label. What was passed to the decoder, and what was raised,
is recorded in the state; the native decoder may depend on all that it was given before.

## Main results

* `NativeDecoder.fails_iff`: when the processing of a message raises.
* `Cut.shape`: the datagrams of a message are a single one, or a first one, some in the
  middle, and a last one.
* `foldl_of_returns`, `foldl_of_fails`: a message all of whose datagrams arrive is passed to
  the decoder as it is, and what is left in the buffer then.
* `map_assemble`: the receiver does not look at labels.
-/

namespace RoqPython

open Pump

/-! ### The SBE decoder -/

section

variable {M V : Type}

/-- `sbe::Decoder::dispatch`: the value that it returns, or nothing when it raises. The
native decoder feeds items to the handler and then returns a length; `result` is still zero
when an exception was swallowed. -/
def Sbe.Decoder.dispatch (items : List (Item (Event M V))) (length : ℕ) : Option ℕ :=
  match (pump Sbe.Decoder.path.handle items).2 with
  | none => some length
  | some exception =>
      match Sbe.Decoder.catchAll exception with
      | none => some 0
      | some _ => none

/-- The length comes back exactly when no item raises. -/
theorem Sbe.Decoder.dispatch_eq_some_iff {items : List (Item (Event M V))} {length : ℕ}
    (hlength : length ≠ 0) :
    Sbe.Decoder.dispatch items length = some length ↔
      ∀ item ∈ items, (Sbe.Decoder.path.handle item).2 = none := by
  rw [Sbe.Decoder.dispatch, pump_snd, ← List.findSome?_eq_none_iff]
  cases items.findSome? fun item => (Sbe.Decoder.path.handle item).2 with
  | none => simp
  | some exception =>
      cases hcatch : Sbe.Decoder.catchAll exception with
      | none => simp [hcatch, hlength.symm]
      | some rethrown => simp [hcatch]

end

namespace SbeReceiver

variable {M V β γ : Type}

/-- The native decoder: for a byte string, after all the byte strings that it was given
before, the items that it feeds to the handler and the length that it returns. -/
abbrev NativeDecoder (M V β : Type) :=
  List (List β) → List β → List (Item (Event M V)) × ℕ

/-- The outcome of `self.decoder.dispatch`. -/
def NativeDecoder.dispatch (native : NativeDecoder M V β) (before : List (List β))
    (message : List β) : Option ℕ :=
  Sbe.Decoder.dispatch (native before message).1 (native before message).2

/-- Whether the processing of a message raises: the callback does, or the length is not the
one that is asserted. -/
def NativeDecoder.Fails (native : NativeDecoder M V β) (before : List (List β))
    (message : List β) : Prop :=
  native.dispatch before message ≠ some message.length

instance (native : NativeDecoder M V β) (before : List (List β)) (message : List β) :
    Decidable (native.Fails before message) :=
  inferInstanceAs (Decidable (_ ≠ _))

/-- A message that the decoder consumes entirely is processed normally exactly when none of
its events raises: neither in the callback, nor in an exception that is swallowed. -/
theorem NativeDecoder.fails_iff {native : NativeDecoder M V β} {before : List (List β)}
    {message : List β} (hconsumed : (native before message).2 = message.length)
    (hne : message ≠ []) :
    native.Fails before message ↔
      ∃ item ∈ (native before message).1, (Sbe.Decoder.path.handle item).2 ≠ none := by
  have hlength : message.length ≠ 0 := mt List.length_eq_zero_iff.mp hne
  rw [Fails, dispatch, hconsumed, Ne, Sbe.Decoder.dispatch_eq_some_iff hlength]
  push Not
  rfl

/-- What the event loop logs. -/
inductive Raised
  /-- An exception of the callback. -/
  | callback
  /-- `AssertionError`: "internal error". -/
  | internalError
deriving DecidableEq

/-- A datagram, taken apart into its header and its payload. -/
structure Datagram (β : Type) where
  header : Udp.Header
  payload : List β

/-- `Receiver`: its members, and the records of what it passed to the decoder and of what it
raised. -/
structure Receiver (β : Type) where
  header : Option Udp.Header
  decodeBuffer : List β
  dispatched : List (List β)
  raised : List Raised

/-- `Receiver.__init__`. -/
def Receiver.new : Receiver β := ⟨none, [], [], []⟩

/-- Take a datagram apart, as `_parse` does. -/
def split (codec : Udp.Codec) (data : Bytes) : Datagram UInt8 :=
  ⟨codec.decode data, data.drop codec.sizeof⟩

namespace Receiver

/-- An exception leaves the handler. -/
def raise (self : Receiver β) (exception : Raised) : Receiver β :=
  { self with raised := self.raised ++ [exception] }

variable (native : NativeDecoder M V β)

/-- The call of the decoder and the assertion about the length, and whether both were
passed. -/
def dispatch (self : Receiver β) (message : List β) : Receiver β × Bool :=
  let result := native.dispatch self.dispatched message
  let self := { self with dispatched := self.dispatched ++ [message] }
  match result with
  | none => (self.raise .callback, false)
  | some length =>
      if length = message.length then (self, true) else (self.raise .internalError, false)

/-- `Receiver._parse`, for a datagram that was taken apart. -/
def assemble (self : Receiver β) (datagram : Datagram β) : Receiver β :=
  let self := { self with header := some datagram.header }
  let payload := datagram.payload
  if datagram.header.fragment = datagram.header.fragmentMax then
    if self.decodeBuffer.length > 0 then
      let self := { self with decodeBuffer := self.decodeBuffer ++ payload }
      let (self, returned) := self.dispatch native self.decodeBuffer
      if returned then { self with decodeBuffer := [] } else self
    else if datagram.header.fragment = 0 then (self.dispatch native payload).1
    else self  -- we have re-joined in the middle of a fragmented message
  else
    if datagram.header.fragment = 0 then
      if self.decodeBuffer.length = 0 then { self with decodeBuffer := payload }
      else self.raise .internalError
    else if self.decodeBuffer.length > 0 then
      { self with decodeBuffer := self.decodeBuffer ++ payload }
    else self  -- we have re-joined in the middle of a fragmented message

end Receiver

/-- `Receiver._parse`. -/
def Receiver._parse (codec : Udp.Codec) (native : NativeDecoder M V UInt8)
    (self : Receiver UInt8) (data : Bytes) : Receiver UInt8 :=
  self.assemble native (split codec data)

/-- `Receiver._reset`. -/
def Receiver._reset (self : Receiver β) : Receiver β := self

/-! ### The re-order buffer -/

/-- What the native re-order buffer calls. -/
inductive ReorderBuffer.Call (δ : Type)
  | parse (data : δ)
  | reset

/-- The calls for a sequence of datagrams of which some are lost: `reset` before the first
datagram that arrives after a gap. -/
def ReorderBuffer.calls {δ : Type} (gap : Bool) : List (δ × Bool) → List (ReorderBuffer.Call δ)
  | [] => []
  | (data, true) :: datagrams =>
      (if gap then [.reset] else []) ++ .parse data :: calls false datagrams
  | (_, false) :: datagrams => calls true datagrams

/-- A call of the re-order buffer, for a handler `parse` of datagrams. -/
def Receiver.handle {δ : Type} (parse : Receiver β → δ → Receiver β) (self : Receiver β) :
    ReorderBuffer.Call δ → Receiver β
  | .parse data => parse self data
  | .reset => self._reset

/-- The receiver takes no notice of gaps: it is as if the datagrams that are lost had never
been. -/
theorem foldl_handle_calls {δ : Type} (parse : Receiver β → δ → Receiver β) (gap : Bool)
    (datagrams : List (δ × Bool)) (self : Receiver β) :
    (ReorderBuffer.calls gap datagrams).foldl (Receiver.handle parse) self =
      ((datagrams.filter (·.2)).map (·.1)).foldl parse self := by
  induction datagrams generalizing gap self with
  | nil => rfl
  | cons datagram datagrams ih =>
      obtain ⟨datagram, arrived⟩ := datagram
      cases arrived with
      | false => exact ih true self
      | true => cases gap <;> exact ih false _

/-! ### One datagram -/

/-- The first fragment of a message. -/
abbrev Datagram.IsFirst (self : Datagram β) : Prop := self.header.fragment = 0

/-- The last fragment of a message. -/
abbrev Datagram.IsLast (self : Datagram β) : Prop :=
  self.header.fragment = self.header.fragmentMax

/-- The payload of a datagram is appended to the buffer. -/
def Receiver.append (self : Receiver β) (datagram : Datagram β) : Receiver β :=
  { self with
    header := some datagram.header
    decodeBuffer := self.decodeBuffer ++ datagram.payload }

section

variable {native : NativeDecoder M V β} {self : Receiver β} {message : List β}
  {datagram : Datagram β}

/-- A message that is processed normally. -/
theorem dispatch_of_returns (self : Receiver β) (h : ¬ native.Fails self.dispatched message) :
    self.dispatch native message =
      ({ self with dispatched := self.dispatched ++ [message] }, true) := by
  have hresult : native.dispatch self.dispatched message = some message.length :=
    not_not.mp h
  simp [Receiver.dispatch, hresult]

/-- A message whose processing raises. -/
theorem dispatch_of_fails (self : Receiver β) (h : native.Fails self.dispatched message) :
    ∃ exception, self.dispatch native message =
      ({ self with
        dispatched := self.dispatched ++ [message]
        raised := self.raised ++ [exception] }, false) := by
  cases hresult : native.dispatch self.dispatched message with
  | none => exact ⟨.callback, by simp [Receiver.dispatch, hresult, Receiver.raise]⟩
  | some length =>
      have hlength : length ≠ message.length := by
        rintro rfl
        exact h hresult
      exact ⟨.internalError, by simp [Receiver.dispatch, hresult, hlength, Receiver.raise]⟩

/-- The only datagram of a message. -/
theorem assemble_single (hfirst : datagram.IsFirst) (hlast : datagram.IsLast)
    (hbuffer : self.decodeBuffer = []) :
    self.assemble native datagram =
      (Receiver.dispatch native { self with header := some datagram.header }
        datagram.payload).1 := by
  rw [Receiver.assemble]
  simp only [if_pos hlast, if_pos hfirst, hbuffer, List.length_nil, gt_iff_lt, Nat.lt_irrefl,
    if_false]

/-- The first of several datagrams. -/
theorem assemble_first (hfirst : datagram.IsFirst) (hlast : ¬ datagram.IsLast)
    (hbuffer : self.decodeBuffer = []) :
    self.assemble native datagram =
      { self with header := some datagram.header, decodeBuffer := datagram.payload } := by
  rw [Receiver.assemble]
  simp only [if_neg hlast, if_pos hfirst, hbuffer, List.length_nil, if_true]

/-- The first of several datagrams, when bytes are left in the buffer. -/
theorem assemble_first_left (hfirst : datagram.IsFirst) (hlast : ¬ datagram.IsLast)
    (hbuffer : self.decodeBuffer ≠ []) :
    self.assemble native datagram =
      { self with
        header := some datagram.header
        raised := self.raised ++ [.internalError] } := by
  have hlength : self.decodeBuffer.length ≠ 0 := mt List.length_eq_zero_iff.mp hbuffer
  rw [Receiver.assemble]
  simp only [if_neg hlast, if_pos hfirst, if_neg hlength]
  rfl

/-- A datagram in the middle of a message. -/
theorem assemble_middle (hfirst : ¬ datagram.IsFirst) (hlast : ¬ datagram.IsLast)
    (hbuffer : self.decodeBuffer ≠ []) :
    self.assemble native datagram = self.append datagram := by
  have hlength : 0 < self.decodeBuffer.length := List.length_pos_iff.mpr hbuffer
  rw [Receiver.assemble]
  simp only [if_neg hlast, if_neg hfirst, if_pos hlength]
  rfl

/-- A datagram that is not the first one, when nothing is in the buffer. -/
theorem assemble_skip (hfirst : ¬ datagram.IsFirst) (hbuffer : self.decodeBuffer = []) :
    self.assemble native datagram = { self with header := some datagram.header } := by
  rw [Receiver.assemble]
  simp [hfirst, hbuffer]

/-- The last datagram, when bytes are in the buffer: all of it is passed to the decoder. -/
theorem assemble_last (hlast : datagram.IsLast) (hbuffer : self.decodeBuffer ≠ []) :
    self.assemble native datagram =
      let result := (self.append datagram).dispatch native (self.append datagram).decodeBuffer
      if result.2 then { result.1 with decodeBuffer := [] } else result.1 := by
  have hlength : 0 < self.decodeBuffer.length := List.length_pos_iff.mpr hbuffer
  rw [Receiver.assemble]
  simp only [if_pos hlast, if_pos hlength]
  rfl

/-- The last datagram of a message that is processed normally. -/
theorem assemble_last_of_returns (hlast : datagram.IsLast) (hbuffer : self.decodeBuffer ≠ [])
    (h : ¬ native.Fails self.dispatched (self.append datagram).decodeBuffer) :
    self.assemble native datagram =
      { self with
        header := some datagram.header
        decodeBuffer := []
        dispatched := self.dispatched ++ [(self.append datagram).decodeBuffer] } := by
  rw [assemble_last hlast hbuffer]
  simp only [dispatch_of_returns (self.append datagram) h]
  rfl

/-- The last datagram of a message whose processing raises: the buffer is not emptied. -/
theorem assemble_last_of_fails (self : Receiver β) (hlast : datagram.IsLast)
    (hbuffer : self.decodeBuffer ≠ [])
    (h : native.Fails self.dispatched (self.append datagram).decodeBuffer) :
    ∃ exception, self.assemble native datagram =
      { self.append datagram with
        dispatched := self.dispatched ++ [(self.append datagram).decodeBuffer]
        raised := self.raised ++ [exception] } := by
  obtain ⟨exception, hdispatch⟩ := dispatch_of_fails (self.append datagram) h
  refine ⟨exception, ?_⟩
  rw [assemble_last hlast hbuffer]
  simp only [hdispatch]
  rfl

/-- A byte string that is passed to the decoder is recorded, and so is that it fails. -/
theorem dispatch_records (native : NativeDecoder M V β) (self : Receiver β)
    (message : List β) :
    (self.dispatch native message).1.dispatched = self.dispatched ++ [message] ∧
      ∃ exceptions, (self.dispatch native message).1.raised = self.raised ++ exceptions ∧
        (exceptions = [] ↔ ¬ native.Fails self.dispatched message) := by
  by_cases h : native.Fails self.dispatched message
  · obtain ⟨exception, hdispatch⟩ := dispatch_of_fails self h
    rw [hdispatch]
    exact ⟨rfl, [exception], rfl, iff_of_false (List.cons_ne_nil _ _) (not_not.mpr h)⟩
  · rw [dispatch_of_returns self h]
    exact ⟨rfl, [], (List.append_nil _).symm, iff_of_true rfl h⟩

/-- The last datagram, when bytes are in the buffer: all of it is recorded. -/
theorem assemble_last_dispatched (hlast : datagram.IsLast) (hbuffer : self.decodeBuffer ≠ []) :
    (self.assemble native datagram).dispatched =
      self.dispatched ++ [(self.append datagram).decodeBuffer] := by
  obtain ⟨hdispatched, -⟩ :=
    dispatch_records native (self.append datagram) (self.append datagram).decodeBuffer
  rw [assemble_last hlast hbuffer]
  dsimp only
  split <;> exact hdispatched

/-- What a datagram adds to the records: either nothing is passed to the decoder, or one byte
string is, and when that fails, something is raised. -/
theorem assemble_cases (native : NativeDecoder M V β) (self : Receiver β)
    (datagram : Datagram β) :
    ∃ exceptions, (self.assemble native datagram).raised = self.raised ++ exceptions ∧
      ((self.assemble native datagram).dispatched = self.dispatched ∨
        ∃ message, (self.assemble native datagram).dispatched = self.dispatched ++ [message] ∧
          (exceptions = [] ↔ ¬ native.Fails self.dispatched message)) := by
  have hnothing : self.raised = self.raised ++ [] := (List.append_nil _).symm
  by_cases hbuffer : self.decodeBuffer = []
  · by_cases hfirst : datagram.IsFirst
    · by_cases hlast : datagram.IsLast
      · rw [assemble_single hfirst hlast hbuffer]
        obtain ⟨hdispatched, exceptions, hraised, hiff⟩ := dispatch_records native
          { self with header := some datagram.header } datagram.payload
        exact ⟨exceptions, hraised, .inr ⟨_, hdispatched, hiff⟩⟩
      · rw [assemble_first hfirst hlast hbuffer]
        exact ⟨[], hnothing, .inl rfl⟩
    · rw [assemble_skip hfirst hbuffer]
      exact ⟨[], hnothing, .inl rfl⟩
  · by_cases hlast : datagram.IsLast
    · obtain ⟨hdispatched, exceptions, hraised, hiff⟩ :=
        dispatch_records native (self.append datagram) (self.append datagram).decodeBuffer
      rw [assemble_last hlast hbuffer]
      refine ⟨exceptions, ?_, .inr ⟨_, ?_, hiff⟩⟩
      · dsimp only
        split <;> exact hraised
      · dsimp only
        split <;> exact hdispatched
    · by_cases hfirst : datagram.IsFirst
      · rw [assemble_first_left hfirst hlast hbuffer]
        exact ⟨[.internalError], rfl, .inl rfl⟩
      · rw [assemble_middle hfirst hlast hbuffer]
        exact ⟨[], hnothing, .inl rfl⟩

/-- The records only grow. -/
theorem assemble_records (native : NativeDecoder M V β) (self : Receiver β)
    (datagram : Datagram β) :
    self.dispatched <+: (self.assemble native datagram).dispatched ∧
      self.raised <+: (self.assemble native datagram).raised := by
  obtain ⟨exceptions, hraised, hdispatched | ⟨message, hdispatched, -⟩⟩ :=
    assemble_cases native self datagram
  · rw [hdispatched, hraised]
    exact ⟨List.prefix_rfl, List.prefix_append _ _⟩
  · rw [hdispatched, hraised]
    exact ⟨List.prefix_append _ _, List.prefix_append _ _⟩

end

/-! ### One message -/

/-- The datagrams of a message: its fragments are numbered from zero, and every one of them
carries the number of the last one and a part of the message. -/
structure Cut (datagrams : List (Datagram β)) : Prop where
  nonempty : datagrams ≠ []
  fragment : ∀ i (h : i < datagrams.length), datagrams[i].header.fragment.toNat = i
  fragmentMax : ∀ d ∈ datagrams, d.header.fragmentMax.toNat + 1 = datagrams.length
  payload : ∀ d ∈ datagrams, d.payload ≠ []

/-- A message as it is sent: the datagrams of its fragments, in order. -/
structure Message (codec : Udp.Codec) where
  data : List Bytes
  cut : Cut (data.map (split codec))

/-- The bytes that datagrams carry. -/
def bytes (datagrams : List (Datagram β)) : List β := datagrams.flatMap (·.payload)

theorem bytes_singleton (only : Datagram β) : bytes [only] = only.payload := by
  simp [bytes]

theorem bytes_several (first last : Datagram β) (middle : List (Datagram β)) :
    bytes (first :: (middle ++ [last])) = bytes (first :: middle) ++ last.payload := by
  simp [bytes]

/-- The bytes of a message. -/
def Message.bytes {codec : Udp.Codec} (self : Message codec) : Bytes :=
  SbeReceiver.bytes (self.data.map (split codec))

theorem bytes_ne_nil {first : Datagram β} {rest : List (Datagram β)}
    (h : first.payload ≠ []) : bytes (first :: rest) ≠ [] :=
  fun hbytes => h (List.append_eq_nil_iff.mp hbytes).1

/-- What the receiver can tell of the datagrams of a message. -/
inductive Shape : List (Datagram β) → Prop
  | single {only : Datagram β} : only.IsFirst → only.IsLast → Shape [only]
  | several {first last : Datagram β} {middle : List (Datagram β)} :
      first.IsFirst → ¬ first.IsLast → (∀ d ∈ middle, ¬ d.IsFirst ∧ ¬ d.IsLast) →
      ¬ last.IsFirst → last.IsLast → Shape (first :: (middle ++ [last]))

section

variable {datagrams : List (Datagram β)}

/-- The first datagram is the one with the number zero. -/
theorem Cut.isFirst_iff (h : Cut datagrams) {i : ℕ} (hi : i < datagrams.length) :
    datagrams[i].IsFirst ↔ i = 0 := by
  rw [Datagram.IsFirst, ← UInt8.toNat_inj, h.fragment i hi]
  rfl

/-- The last datagram is the one with the greatest number. -/
theorem Cut.isLast_iff (h : Cut datagrams) {i : ℕ} (hi : i < datagrams.length) :
    datagrams[i].IsLast ↔ i + 1 = datagrams.length := by
  have hmax := h.fragmentMax _ (List.getElem_mem hi)
  rw [Datagram.IsLast, ← UInt8.toNat_inj, h.fragment i hi]
  omega

/-- **The shape of a message.** A message is a single datagram, or a first one, some in the
middle, and a last one. -/
theorem Cut.shape (h : Cut datagrams) : Shape datagrams := by
  cases datagrams with
  | nil => exact absurd rfl h.nonempty
  | cons first rest =>
      have hfirst : first.IsFirst := (h.isFirst_iff (i := 0) (by simp)).mpr rfl
      rcases List.eq_nil_or_concat' rest with rfl | ⟨middle, last, rfl⟩
      · exact .single hfirst ((h.isLast_iff (i := 0) (by simp)).mpr rfl)
      · have hlength : (first :: (middle ++ [last])).length = middle.length + 2 := by simp
        have hn : middle.length + 1 < (first :: (middle ++ [last])).length := by omega
        have hlast : (first :: (middle ++ [last]))[middle.length + 1] = last := by simp
        refine .several hfirst ?_ ?_ ?_ ?_
        · intro hfirst
          have := (h.isLast_iff (i := 0) (by simp)).mp hfirst
          omega
        · intro d hd
          obtain ⟨i, hi, rfl⟩ := List.mem_iff_getElem.mp hd
          have hi' : i + 1 < (first :: (middle ++ [last])).length := by omega
          have hmiddle : (first :: (middle ++ [last]))[i + 1] = middle[i] := by simp [hi]
          rw [← hmiddle, h.isFirst_iff, h.isLast_iff]
          omega
        · rw [← hlast, h.isFirst_iff]
          omega
        · rw [← hlast, h.isLast_iff]
          omega

theorem Cut.bytes_ne_nil (h : Cut datagrams) : bytes datagrams ≠ [] := by
  cases datagrams with
  | nil => exact absurd rfl h.nonempty
  | cons first rest => exact SbeReceiver.bytes_ne_nil (h.payload first List.mem_cons_self)

end

section

variable {native : NativeDecoder M V β} {self : Receiver β} {datagrams : List (Datagram β)}

/-- Datagrams that are not the first one, when nothing is in the buffer. -/
theorem foldl_skip (hdatagrams : ∀ d ∈ datagrams, ¬ d.IsFirst)
    (hbuffer : self.decodeBuffer = []) :
    ∃ header, datagrams.foldl (Receiver.assemble native) self =
      { self with header := header } := by
  induction datagrams generalizing self with
  | nil => exact ⟨self.header, rfl⟩
  | cons d datagrams ih =>
      obtain ⟨hd, hdatagrams⟩ := List.forall_mem_cons.mp hdatagrams
      rw [List.foldl_cons, assemble_skip hd hbuffer]
      exact ih hdatagrams hbuffer

/-- Datagrams in the middle of a message, when bytes are in the buffer. -/
theorem foldl_middle (native : NativeDecoder M V β)
    (hdatagrams : ∀ d ∈ datagrams, ¬ d.IsFirst ∧ ¬ d.IsLast)
    (hbuffer : self.decodeBuffer ≠ []) :
    ∃ header, datagrams.foldl (Receiver.assemble native) self =
      { self with header := header, decodeBuffer := self.decodeBuffer ++ bytes datagrams } := by
  induction datagrams generalizing self with
  | nil => exact ⟨self.header, by simp [bytes]⟩
  | cons d datagrams ih =>
      obtain ⟨⟨hfirst, hlast⟩, hdatagrams⟩ := List.forall_mem_cons.mp hdatagrams
      have happend : (self.append d).decodeBuffer ≠ [] :=
        fun h => hbuffer (List.append_eq_nil_iff.mp h).1
      obtain ⟨header, hfoldl⟩ := ih hdatagrams happend
      refine ⟨header, ?_⟩
      rw [List.foldl_cons, assemble_middle hfirst hlast hbuffer, hfoldl]
      simp [Receiver.append, bytes]

/-- The records only grow over any datagrams. -/
theorem foldl_records (native : NativeDecoder M V β) (datagrams : List (Datagram β))
    (self : Receiver β) :
    self.dispatched <+: (datagrams.foldl (Receiver.assemble native) self).dispatched ∧
      self.raised <+: (datagrams.foldl (Receiver.assemble native) self).raised := by
  induction datagrams generalizing self with
  | nil => exact ⟨List.prefix_rfl, List.prefix_rfl⟩
  | cons d datagrams ih =>
      obtain ⟨hdispatched, hraised⟩ := assemble_records native self d
      exact ⟨hdispatched.trans (ih _).1, hraised.trans (ih _).2⟩

/-- Datagrams that are received one after the other are taken apart first. -/
theorem foldl_parse {codec : Udp.Codec} (native : NativeDecoder M V UInt8)
    (data : List Bytes) (self : Receiver UInt8) :
    data.foldl (Receiver._parse codec native) self =
      (data.map (split codec)).foldl (Receiver.assemble native) self := by
  rw [List.foldl_map]
  rfl

/-- The datagrams of a message before the last one, when nothing is in the buffer. -/
theorem foldl_unfinished (native : NativeDecoder M V β) {first : Datagram β}
    {middle : List (Datagram β)} (hfirst : first.IsFirst) (hlast : ¬ first.IsLast)
    (hmiddle : ∀ d ∈ middle, ¬ d.IsFirst ∧ ¬ d.IsLast) (hpayload : first.payload ≠ [])
    (hbuffer : self.decodeBuffer = []) :
    ∃ header, (first :: middle).foldl (Receiver.assemble native) self =
      { self with header := header, decodeBuffer := bytes (first :: middle) } := by
  rw [List.foldl_cons, assemble_first hfirst hlast hbuffer]
  exact foldl_middle native hmiddle hpayload

/-- The datagrams of a message so far, when nothing is in the buffer. -/
theorem foldl_take (native : NativeDecoder M V β) (h : Cut datagrams) {e : ℕ}
    (he : e < datagrams.length) (hbuffer : self.decodeBuffer = []) :
    ∃ header, (datagrams.take e).foldl (Receiver.assemble native) self =
      { self with header := header, decodeBuffer := bytes (datagrams.take e) } := by
  cases e with
  | zero => exact ⟨self.header, by simp [bytes, ← hbuffer]⟩
  | succ e =>
      have hpayload := h.payload
      cases h.shape with
      | single => exact absurd he (by simp)
      | @several first last middle hfirst hnlast hmiddle hnfirst hlast =>
          have hne : first.payload ≠ [] := hpayload first List.mem_cons_self
          have hle : e ≤ middle.length := by
            simp only [List.length_cons, List.length_append, List.length_nil] at he
            omega
          rw [List.take_succ_cons, List.take_append_of_le_length hle]
          exact foldl_unfinished native hfirst hnlast
            (fun d hd => hmiddle d (List.mem_of_mem_take hd)) hne hbuffer

/-- **Whole messages.** When nothing is in the buffer and all datagrams of a message arrive,
the message is passed to the decoder. If that returns, the buffer is empty again. -/
theorem foldl_of_returns (h : Cut datagrams) (hbuffer : self.decodeBuffer = [])
    (hreturns : ¬ native.Fails self.dispatched (bytes datagrams)) :
    ∃ header, datagrams.foldl (Receiver.assemble native) self =
      { self with header := header, dispatched := self.dispatched ++ [bytes datagrams] } := by
  have hpayload := h.payload
  cases h.shape with
  | @single only hfirst hlast =>
      rw [bytes_singleton] at hreturns ⊢
      refine ⟨some only.header, ?_⟩
      have hdispatch :=
        dispatch_of_returns { self with header := some only.header } hreturns
      rw [List.foldl_cons, List.foldl_nil, assemble_single hfirst hlast hbuffer, hdispatch]
  | @several first last middle hfirst hnlast hmiddle hnfirst hlast =>
      have hne : first.payload ≠ [] := hpayload first List.mem_cons_self
      obtain ⟨header, hfoldl⟩ := foldl_unfinished native hfirst hnlast hmiddle hne hbuffer
      rw [bytes_several] at hreturns ⊢
      refine ⟨some last.header, ?_⟩
      rw [← List.cons_append, List.foldl_append, hfoldl, List.foldl_cons, List.foldl_nil,
        assemble_last_of_returns hlast (bytes_ne_nil hne) hreturns, hbuffer]
      rfl

/-- When the processing of a message of several datagrams raises, the message is left in the
buffer. -/
theorem foldl_of_fails (h : Cut datagrams) (hbuffer : self.decodeBuffer = [])
    (hfails : native.Fails self.dispatched (bytes datagrams)) :
    ∃ header exception, datagrams.foldl (Receiver.assemble native) self =
      { header := header
        decodeBuffer := if datagrams.length = 1 then [] else bytes datagrams
        dispatched := self.dispatched ++ [bytes datagrams]
        raised := self.raised ++ [exception] } := by
  have hpayload := h.payload
  cases h.shape with
  | @single only hfirst hlast =>
      rw [bytes_singleton] at hfails ⊢
      obtain ⟨exception, hdispatch⟩ :=
        dispatch_of_fails { self with header := some only.header } hfails
      refine ⟨some only.header, exception, ?_⟩
      rw [List.foldl_cons, List.foldl_nil, assemble_single hfirst hlast hbuffer, hdispatch,
        hbuffer]
      rfl
  | @several first last middle hfirst hnlast hmiddle hnfirst hlast =>
      have hne : first.payload ≠ [] := hpayload first List.mem_cons_self
      obtain ⟨header, hfoldl⟩ := foldl_unfinished native hfirst hnlast hmiddle hne hbuffer
      have hlength : (first :: (middle ++ [last])).length ≠ 1 := by simp
      rw [bytes_several] at hfails ⊢
      obtain ⟨exception, hassemble⟩ :=
        assemble_last_of_fails { self with
          header := header, decodeBuffer := bytes (first :: middle) }
          hlast (bytes_ne_nil hne) hfails
      refine ⟨some last.header, exception, ?_⟩
      rw [← List.cons_append, List.foldl_append, hfoldl, List.foldl_cons, List.foldl_nil,
        hassemble, List.cons_append, if_neg hlength]
      rfl

end

/-! ### Labels -/

/-- A datagram with other bytes. -/
def Datagram.map (f : β → γ) (self : Datagram β) : Datagram γ :=
  ⟨self.header, self.payload.map f⟩

/-- A receiver with other bytes. -/
def Receiver.map (f : β → γ) (self : Receiver β) : Receiver γ :=
  ⟨self.header, self.decodeBuffer.map f, self.dispatched.map (List.map f), self.raised⟩

/-- A decoder that does not look at labels. -/
def NativeDecoder.comap (f : β → γ) (native : NativeDecoder M V γ) : NativeDecoder M V β :=
  fun before message => native (before.map (List.map f)) (message.map f)

theorem Cut.map {datagrams : List (Datagram β)} (h : Cut datagrams) (f : β → γ) :
    Cut (datagrams.map (Datagram.map f)) where
  nonempty := mt List.map_eq_nil_iff.mp h.nonempty
  fragment i hi := by
    rw [List.length_map] at hi
    rw [List.getElem_map]
    exact h.fragment i hi
  fragmentMax d hd := by
    obtain ⟨e, he, rfl⟩ := List.mem_map.mp hd
    rw [List.length_map]
    exact h.fragmentMax e he
  payload d hd := by
    obtain ⟨e, he, rfl⟩ := List.mem_map.mp hd
    exact mt List.map_eq_nil_iff.mp (h.payload e he)

theorem bytes_map (f : β → γ) (datagrams : List (Datagram β)) :
    bytes (datagrams.map (Datagram.map f)) = (bytes datagrams).map f := by
  simp [bytes, List.map_flatMap, List.flatMap_map, Datagram.map]

/-- A message fails with labels when it fails without. -/
theorem fails_comap {native : NativeDecoder M V γ} {f : β → γ} {before : List (List β)}
    {message : List β} :
    (native.comap f).Fails before message ↔
      native.Fails (before.map (List.map f)) (message.map f) := by
  rw [NativeDecoder.Fails, NativeDecoder.Fails, List.length_map]
  rfl

section

variable (native : NativeDecoder M V γ) (f : β → γ) (self : Receiver β)

/-- The decoder is called with the same bytes, and the same comes of it. -/
theorem map_dispatch (message : List β) :
    (self.dispatch (native.comap f) message).1.map f =
        ((self.map f).dispatch native (message.map f)).1 ∧
      (self.dispatch (native.comap f) message).2 =
        ((self.map f).dispatch native (message.map f)).2 := by
  have hresult : (native.comap f).dispatch self.dispatched message =
      native.dispatch (self.map f).dispatched (message.map f) := rfl
  simp only [Receiver.dispatch, hresult]
  cases native.dispatch (self.map f).dispatched (message.map f) with
  | none => simp [Receiver.map, Receiver.raise]
  | some length =>
      by_cases hlength : length = message.length
      · simp [Receiver.map, hlength]
      · simp [Receiver.map, Receiver.raise, hlength]

theorem map_append (datagram : Datagram β) :
    (self.append datagram).map f = (self.map f).append (datagram.map f) := by
  simp [Receiver.append, Receiver.map, Datagram.map]

/-- **Labels.** The receiver does the same whether the bytes carry labels or not. -/
theorem map_assemble (datagram : Datagram β) :
    (self.assemble (native.comap f) datagram).map f =
      (self.map f).assemble native (datagram.map f) := by
  have hfirst' : (datagram.map f).IsFirst ↔ datagram.IsFirst := Iff.rfl
  have hlast' : (datagram.map f).IsLast ↔ datagram.IsLast := Iff.rfl
  have hempty' : (self.map f).decodeBuffer = [] ↔ self.decodeBuffer = [] :=
    List.map_eq_nil_iff
  by_cases hbuffer : self.decodeBuffer = []
  · by_cases hfirst : datagram.IsFirst
    · by_cases hlast : datagram.IsLast
      · rw [assemble_single hfirst hlast hbuffer,
          assemble_single (hfirst'.mpr hfirst) (hlast'.mpr hlast) (hempty'.mpr hbuffer)]
        exact (map_dispatch native f { self with header := some datagram.header } _).1
      · rw [assemble_first hfirst hlast hbuffer,
          assemble_first (hfirst'.mpr hfirst) (mt hlast'.mp hlast) (hempty'.mpr hbuffer)]
        rfl
    · rw [assemble_skip hfirst hbuffer,
        assemble_skip (mt hfirst'.mp hfirst) (hempty'.mpr hbuffer)]
      rfl
  · by_cases hlast : datagram.IsLast
    · obtain ⟨hreceiver, hreturned⟩ :=
        map_dispatch native f (self.append datagram) (self.append datagram).decodeBuffer
      have hmessage : (self.append datagram).decodeBuffer.map f =
          ((self.map f).append (datagram.map f)).decodeBuffer :=
        congrArg Receiver.decodeBuffer (map_append f self datagram)
      rw [map_append, hmessage] at hreceiver hreturned
      rw [assemble_last hlast hbuffer, assemble_last (hlast'.mpr hlast) (mt hempty'.mp hbuffer)]
      simp only [← hreceiver, ← hreturned]
      split <;> rfl
    · by_cases hfirst : datagram.IsFirst
      · rw [assemble_first_left hfirst hlast hbuffer, assemble_first_left
          (hfirst'.mpr hfirst) (mt hlast'.mp hlast) (mt hempty'.mp hbuffer)]
        rfl
      · rw [assemble_middle hfirst hlast hbuffer, assemble_middle
          (mt hfirst'.mp hfirst) (mt hlast'.mp hlast) (mt hempty'.mp hbuffer)]
        exact map_append f self datagram

end

end SbeReceiver

end RoqPython
