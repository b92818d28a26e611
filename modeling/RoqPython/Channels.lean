import RoqPython.Lib.Transducer
import RoqPython.MarketByPrice
import RoqPython.Receiver

/-!
# The Two Channels of the SBE Sample

`Snapshot` and `Incremental` of `samples/sbe_receiver.py` are two receivers, one for each
channel, that share one lookup table of instruments. Both callbacks hand every market by price
update to the table, together with the header of the last datagram that was parsed; all other
events are logged. Datagrams of the two channels arrive in any order.

Anything may go wrong in an invocation of a callback, at any place: logging, the construction
of an instrument, the native sequencer and the order book may raise, and an argument may be
kept. What goes wrong comes with the datagram that leads to the invocation, so that it may
depend on everything that has happened.

## Main results

* `Environment.drive_of_quiet`: an invocation of the callback that does not fail is an update
  of the table.
* `Environment.drive_of_ne`: whatever fails, a message leaves the instruments alone that it has
  no updates of.
* `Feed.receive_of_returns`: when nothing fails, a datagram is a step of its receiver, which
  emits updates, and the table takes them.
-/

namespace RoqPython

/-! ### The lookup table -/

/-- What goes wrong in an invocation of the callback: `logging` raises, an `Instrument` cannot
be constructed, or the sequencer raises after some of its calls, or one of these does, and it is
left in some state. `keeps` are the arguments to which a reference is kept. -/
structure Faults (σ : Type) where
  logging : Bool
  create : Bool
  apply : Option (ℕ × σ)
  keeps : ℕ → Bool

/-- Nothing goes wrong. -/
instance {σ : Type} : Inhabited (Faults σ) := ⟨⟨false, false, none, fun _ => false⟩⟩

section

variable {σ L R : Type} (native : NativeSequencer σ L)

/-- `Instrument.apply`, and whether it raises. -/
def Instrument.tryApply (self : Instrument σ L R) (delivery : Delivery L R)
    (faults : Faults σ) : Instrument σ L R × Bool :=
  match faults.apply with
  | none => (self.apply native delivery, false)
  | some (calls, sequencer) =>
      if self.skipped native delivery then (self, false)  -- the sequencer is not reached
      else
        let made := (sequenceHelper native self.sequencer delivery).2.take calls
        (made.foldl Instrument.call { self with sequencer }, true)

/-- `Shared.update`, and whether it raises. -/
def Shared.tryUpdate (self : Shared σ L R) (delivery : Delivery L R) (faults : Faults σ) :
    Shared σ L R × Bool :=
  if (self.instruments delivery.key).isNone && faults.create then (self, true)
  else
    let instrument := self._getInstrument native delivery.key
    let (instrument, raises) := instrument.tryApply native delivery faults
    (⟨Function.update self.instruments delivery.key (some instrument)⟩, raises)

/-- An update that does not raise is an update. -/
theorem Instrument.tryApply_of_returns {self : Instrument σ L R} {delivery : Delivery L R}
    {faults : Faults σ} (h : (self.tryApply native delivery faults).2 = false) :
    (self.tryApply native delivery faults).1 = self.apply native delivery := by
  cases hfault : faults.apply with
  | none => simp only [tryApply, hfault]
  | some fault =>
      by_cases hskipped : self.skipped native delivery = true
      · simp only [tryApply, hfault, if_pos hskipped]
        exact (Instrument.apply_of_skipped hskipped).symm
      · simp [tryApply, hfault, hskipped] at h

/-- An update that does not raise is an update of the table. -/
theorem Shared.tryUpdate_of_returns {self : Shared σ L R} {delivery : Delivery L R}
    {faults : Faults σ} (h : (self.tryUpdate native delivery faults).2 = false) :
    (self.tryUpdate native delivery faults).1 = self.update native delivery := by
  rw [tryUpdate] at h ⊢
  split at h
  · cases h
  · rw [if_neg ‹_›, Shared.update]
    exact congrArg (fun instrument => Shared.mk (Function.update self.instruments delivery.key
      (some instrument))) (Instrument.tryApply_of_returns native h)

/-- Whatever goes wrong, the instruments under other keys are left alone. -/
theorem Shared.tryUpdate_of_ne (self : Shared σ L R) {delivery : Delivery L R}
    (faults : Faults σ) {key : String × String} (h : delivery.key ≠ key) :
    (self.tryUpdate native delivery faults).1.instruments key = self.instruments key := by
  rw [tryUpdate]
  split
  · rfl
  · exact Function.update_of_ne (Ne.symm h) _ _

end

namespace SbeReceiver

open Machine Pump

variable {M V σ L R : Type}

/-! ### The callbacks -/

/-- The two channels. -/
inductive Channel
  | snapshot
  | incremental
deriving DecidableEq

/-- The native decoder: for a byte string, after those that it was given before, the events
that it feeds to the handler, `none` where it raises, and the length that it returns. -/
abbrev Decoding (M V : Type) := List Bytes → Bytes → List (Option (Event M V)) × ℕ

/-- A market by price update of one of the types that `sequence_helper` accepts. -/
abbrev Update (L R : Type) :=
  { update : MarketByPriceUpdate L R // update.updateType ≠ .undefined }

/-- What the sample depends on: the codec of the headers, the decoder of each channel, the
updates behind the values of the events, and the native sequencer. -/
structure Environment (M V σ L R : Type) where
  codec : Udp.Codec
  decoding : Channel → Decoding M V
  content : V → Update L R
  sequencer : NativeSequencer σ L

/-- The types for which the mixin of a channel has an overload of `_callback`. For any other
type `typedispatch` returns its first argument. -/
def overloads : Channel → EventType → Bool
  | .snapshot, type => type ∈ [.referenceData, .marketStatus, .marketByPriceUpdate,
      .statisticsUpdate]
  | .incremental, type => type ∈ [.referenceData, .marketStatus, .topOfBook,
      .marketByPriceUpdate, .tradeSummary, .statisticsUpdate]

/-- The byte string that a datagram completes, if it does. -/
def completed (self : Receiver UInt8) (datagram : Datagram UInt8) : Option Bytes :=
  if datagram.header.fragment = datagram.header.fragmentMax then
    if self.decodeBuffer.length > 0 then some (self.decodeBuffer ++ datagram.payload)
    else if datagram.header.fragment = 0 then some datagram.payload
    else none
  else none

/-- What is completed by a datagram that is not empty. -/
theorem completed_ne_nil {self : Receiver UInt8} {datagram : Datagram UInt8} {message : Bytes}
    (hpayload : datagram.payload ≠ []) (h : completed self datagram = some message) :
    message ≠ [] := by
  rw [completed] at h
  split at h
  · split at h
    · obtain rfl := Option.some.inj h
      exact fun hnil => hpayload (List.append_eq_nil_iff.mp hnil).2
    · split at h
      · obtain rfl := Option.some.inj h
        exact hpayload
      · cases h
  · cases h

namespace Environment

variable (env : Environment M V σ L R) (channel : Channel)

/-- The update of an event, if it has one, with a header. -/
def delivery (header : Udp.Header) (event : Event M V) : Option (Delivery L R) :=
  if event.type = .marketByPriceUpdate then
    some ⟨(env.content event.value).1, header, (env.content event.value).2⟩
  else none

/-- `_callback` of `SnapshotMixin` and of `IncrementalMixin`, and whether it raises: a log
entry, and `self.shared.update` with `self.header` for a market by price update. -/
def _callback (header : Option Udp.Header) (shared : Shared σ L R) (event : Event M V)
    (faults : Faults σ) : Shared σ L R × Bool :=
  if overloads channel event.type && faults.logging then (shared, true)
  else
    match header.bind fun header => env.delivery header event with
    | some delivery => shared.tryUpdate env.sequencer delivery faults
    | none => (shared, false)

/-- An event is fed to the handler: the table after it, and the event with what the callback
does when it is invoked. -/
def invoke (header : Option Udp.Header) (shared : Shared σ L R) (event : Event M V)
    (faults : Faults σ) : Shared σ L R × Item (Event M V) :=
  let (after, raises) := env._callback channel header shared event faults
  let item := .event event ⟨raises, faults.keeps⟩
  (if (Sbe.Decoder.path.handle item).1.any Happening.isInvocation then after else shared, item)

/-- The native decoder feeds its events, up to the first exception. -/
def drive (header : Option Udp.Header) :
    Shared σ L R → (ℕ → Faults σ) → List (Option (Event M V)) →
      Shared σ L R × List (Item (Event M V))
  | shared, _, [] => (shared, [])
  | shared, _, none :: _ => (shared, [.raise])
  | shared, faults, some event :: fed =>
      let (shared, item) := env.invoke channel header shared event (faults 0)
      match (Sbe.Decoder.path.handle item).2 with
      | some _ => (shared, [item])
      | none =>
          let (shared, items) := drive header shared (fun i => faults (i + 1)) fed
          (shared, item :: items)

/-- The native decoder with the callback behind it: what it feeds to the handler, each event
with what the callback does, and the length that it returns. -/
def native (header : Option Udp.Header) (shared : Shared σ L R) (faults : ℕ → Faults σ) :
    NativeDecoder M V UInt8 := fun before message =>
  let (fed, length) := env.decoding channel before message
  ((env.drive channel header shared faults fed).2, length)

/-- `self.decoder.dispatch(self._callback, message)` and the assertion about the length, and
whether both were passed. -/
def dispatch (self : Receiver UInt8) (shared : Shared σ L R) (faults : ℕ → Faults σ)
    (message : Bytes) : (Receiver UInt8 × Shared σ L R) × Bool :=
  let (fed, _) := env.decoding channel self.dispatched message
  let (receiver, returned) := self.dispatch (env.native channel self.header shared faults) message
  ((receiver, (env.drive channel self.header shared faults fed).1), returned)

/-- `Receiver._parse`, with its effect on the lookup table. -/
def parse (state : Receiver UInt8 × Shared σ L R) (faults : ℕ → Faults σ) (data : Bytes) :
    Receiver UInt8 × Shared σ L R :=
  let (self, shared) := state
  let datagram := split env.codec data
  let self := { self with header := some datagram.header }
  let payload := datagram.payload
  if datagram.header.fragment = datagram.header.fragmentMax then
    if self.decodeBuffer.length > 0 then
      let self := { self with decodeBuffer := self.decodeBuffer ++ payload }
      let ((self, shared), returned) := env.dispatch channel self shared faults self.decodeBuffer
      if returned then ({ self with decodeBuffer := [] }, shared) else (self, shared)
    else if datagram.header.fragment = 0 then
      (env.dispatch channel self shared faults payload).1
    else (self, shared)  -- we have re-joined in the middle of a fragmented message
  else
    if datagram.header.fragment = 0 then
      if self.decodeBuffer.length = 0 then ({ self with decodeBuffer := payload }, shared)
      else (self.raise .internalError, shared)
    else if self.decodeBuffer.length > 0 then
      ({ self with decodeBuffer := self.decodeBuffer ++ payload }, shared)
    else (self, shared)  -- we have re-joined in the middle of a fragmented message

end Environment

/-- `Snapshot` and `Incremental`, and the lookup table that they share. -/
structure Feed (σ L R : Type) where
  receivers : Channel → Receiver UInt8
  shared : Shared σ L R

/-- Two new receivers. -/
def Feed.new : Feed σ L R := ⟨fun _ => Receiver.new, Shared.new⟩

/-- What arrives on a channel, and what goes wrong in the invocations of the callback that it
leads to. -/
structure Input (σ δ : Type) where
  channel : Channel
  data : δ
  faults : ℕ → Faults σ

/-- A datagram arrives. -/
def Feed.receive (env : Environment M V σ L R) (self : Feed σ L R) (input : Input σ Bytes) :
    Feed σ L R :=
  let (receiver, shared) := env.parse input.channel (self.receivers input.channel, self.shared)
    input.faults input.data
  ⟨Function.update self.receivers input.channel receiver, shared⟩

/-- What a datagram completes, if it completes a message, is processed normally: neither the
decoder nor the callback raises, no argument is kept, and the decoder consumes all of it. -/
def Feed.Returns (env : Environment M V σ L R) (self : Feed σ L R) (input : Input σ Bytes) :
    Prop :=
  let datagram := split env.codec input.data
  let receiver := self.receivers input.channel
  ∀ message, completed receiver datagram = some message →
    ¬ (env.native input.channel (some datagram.header) self.shared input.faults).Fails
      receiver.dispatched message

/-! ### Whatever fails -/

section

variable {env : Environment M V σ L R} {channel : Channel} {header : Udp.Header}
  {shared : Shared σ L R} {faults : ℕ → Faults σ} {key : String × String}

/-- The updates of what is fed, one event after the other. -/
theorem filterMap_delivery (event : Event M V) (fed : List (Option (Event M V))) :
    (some event :: fed).filterMap (fun e => e.bind (env.delivery header)) =
      (env.delivery header event).toList ++
        fed.filterMap fun e => e.bind (env.delivery header) := by
  rw [List.filterMap_cons, Option.bind_some]
  cases env.delivery header event <;> rfl

/-- An event leaves the instruments under other keys alone. -/
theorem Environment.invoke_of_ne {event : Event M V} (faults : Faults σ)
    (h : ∀ delivery ∈ (env.delivery header event).toList, delivery.key ≠ key) :
    (env.invoke channel (some header) shared event faults).1.instruments key =
      shared.instruments key := by
  have hcallback : (env._callback channel (some header) shared event faults).1.instruments key =
      shared.instruments key := by
    rw [_callback]
    split
    · rfl
    · rw [Option.bind_some]
      cases hdelivery : env.delivery header event with
      | none => rfl
      | some delivery =>
          rw [hdelivery] at h
          exact shared.tryUpdate_of_ne env.sequencer faults (h delivery List.mem_cons_self)
  simp only [invoke]
  split
  · exact hcallback
  · rfl

/-- A message leaves the instruments alone that it has no updates of. -/
theorem Environment.drive_of_ne {fed : List (Option (Event M V))}
    (h : ∀ delivery ∈ fed.filterMap (fun e => e.bind (env.delivery header)),
      delivery.key ≠ key) :
    (env.drive channel (some header) shared faults fed).1.instruments key =
      shared.instruments key := by
  induction fed generalizing shared faults with
  | nil => rfl
  | cons event fed ih =>
      cases event with
      | none => rfl
      | some event =>
          rw [filterMap_delivery] at h
          have hfirst : (env.invoke channel (some header) shared event
              (faults 0)).1.instruments key = shared.instruments key :=
            invoke_of_ne (faults 0) fun delivery hdelivery =>
              h delivery (List.mem_append_left _ hdelivery)
          simp only [drive]
          split
          · exact hfirst
          · exact (ih fun delivery hdelivery =>
              h delivery (List.mem_append_right _ hdelivery)).trans hfirst

/-- What a datagram completes is what is passed to the decoder. -/
theorem assemble_dispatched (native : NativeDecoder M V UInt8) (self : Receiver UInt8)
    (datagram : Datagram UInt8) :
    (self.assemble native datagram).dispatched =
      self.dispatched ++ (completed self datagram).toList := by
  have hrecords := fun (self : Receiver UInt8) message =>
    (dispatch_records native self message).1
  simp only [Receiver.assemble, completed]
  split
  · split
    · split <;> exact hrecords _ _
    · split
      · exact hrecords _ _
      · exact (List.append_nil _).symm
  · split
    · split <;> exact (List.append_nil _).symm
    · split <;> exact (List.append_nil _).symm

/-- A call of the decoder is that of the receiver, and the events change the table. -/
theorem Environment.dispatch_eq (self : Receiver UInt8) (message : Bytes) :
    env.dispatch channel self shared faults message =
      (((self.dispatch (env.native channel self.header shared faults) message).1,
        (env.drive channel self.header shared faults
          (env.decoding channel self.dispatched message).1).1),
        (self.dispatch (env.native channel self.header shared faults) message).2) := rfl

/-- What a datagram makes of the table, which is given the events of what it completes. -/
def Environment.effect (env : Environment M V σ L R) (channel : Channel)
    (self : Receiver UInt8) (shared : Shared σ L R) (faults : ℕ → Faults σ) (data : Bytes) :
    Shared σ L R :=
  match completed self (split env.codec data) with
  | some message => (env.drive channel (some (split env.codec data).header) shared faults
      (env.decoding channel self.dispatched message).1).1
  | none => shared

/-- **A datagram.** `_parse` is that of the receiver, with an effect on the table. -/
theorem Environment.parse_eq (self : Receiver UInt8) (data : Bytes) :
    env.parse channel (self, shared) faults data =
      (self._parse env.codec
          (env.native channel (some (split env.codec data).header) shared faults) data,
        env.effect channel self shared faults data) := by
  simp only [parse, Receiver._parse, Receiver.assemble, effect, completed]
  split
  · split
    · rw [dispatch_eq]
      dsimp only
      split <;> rfl
    · split <;> rfl
  · split
    · split <;> rfl
    · split <;> rfl

/-- **A step of the two channels.** The receiver of the channel parses the datagram, and what
that completes changes the table. -/
theorem Feed.receive_eq (env : Environment M V σ L R) (self : Feed σ L R)
    (input : Input σ Bytes) :
    self.receive env input =
      ⟨Function.update self.receivers input.channel
          ((self.receivers input.channel)._parse env.codec (env.native input.channel
            (some (split env.codec input.data).header) self.shared input.faults) input.data),
        env.effect input.channel (self.receivers input.channel) self.shared input.faults
          input.data⟩ := by
  rw [receive, Environment.parse_eq]

end

/-! ### When nothing fails -/

/-- A decoder that feeds nothing and consumes everything. -/
def accepting : NativeDecoder M V UInt8 := fun _ message => ([], message.length)

theorem accepting_returns (before : List Bytes) (message : Bytes) :
    ¬ (accepting (M := M) (V := V)).Fails before message := not_not.mpr rfl

/-- Where a message is processed normally, no item fails, not even silently. -/
theorem NativeDecoder.quiet_of_returns {native : NativeDecoder M V UInt8} {before : List Bytes}
    {message : Bytes} (hne : message ≠ []) (h : ¬ native.Fails before message) :
    ∀ item ∈ (native before message).1, (Sbe.Decoder.path.handle item).2 = none := by
  have hlength : message.length ≠ 0 := mt List.length_eq_zero_iff.mp hne
  rw [← List.findSome?_eq_none_iff, ← pump_snd]
  have hresult := not_not.mp h
  rw [NativeDecoder.dispatch, Sbe.Decoder.dispatch] at hresult
  split at hresult
  · assumption
  · split at hresult
    · exact absurd (Option.some.inj hresult).symm hlength
    · cases hresult

namespace Environment

variable (env : Environment M V σ L R) (channel : Channel)

/-- The updates that the native decoder feeds for a message, with a header. -/
def updates (before : List Bytes) (message : Bytes) (header : Udp.Header) :
    List (Delivery L R) :=
  (env.decoding channel before message).1.filterMap fun event =>
    event.bind (env.delivery header)

/-- The updates that a receiver emits when a datagram arrives. -/
def output (self : Receiver UInt8) (data : Bytes) : List (Delivery L R) :=
  match completed self (split env.codec data) with
  | some message => env.updates channel self.dispatched message (split env.codec data).header
  | none => []

/-- What a receiver does with a datagram, when nothing fails. -/
def accept : Receiver UInt8 → Bytes → Receiver UInt8 :=
  Receiver._parse env.codec (accepting (M := M) (V := V))

variable {env} {channel} {header : Udp.Header} {shared : Shared σ L R} {faults : ℕ → Faults σ}

/-- When nothing goes wrong, an invocation does not raise. -/
theorem callback_default (header : Option Udp.Header) (shared : Shared σ L R)
    (event : Event M V) : (env._callback channel header shared event default).2 = false := by
  simp only [_callback, default, Bool.and_false]
  cases header.bind fun header => env.delivery header event with
  | none => rfl
  | some delivery => simp [Shared.tryUpdate, Instrument.tryApply]

/-- When nothing goes wrong, the callback returns and keeps nothing. -/
theorem invoke_default (header : Option Udp.Header) (shared : Shared σ L R)
    (event : Event M V) :
    (env.invoke channel header shared event default).2 = .event event default :=
  congrArg (fun raises => Item.event event ⟨raises, fun _ => false⟩)
    (callback_default header shared event)

/-- An invocation that does not raise. -/
theorem callback_of_returns {event : Event M V} {faults : Faults σ}
    (h : (env._callback channel (some header) shared event faults).2 = false) :
    (env._callback channel (some header) shared event faults).1 =
      (env.delivery header event).toList.foldl (Shared.update env.sequencer) shared := by
  rw [_callback] at h ⊢
  split at h
  · cases h
  · rw [if_neg ‹_›, Option.bind_some]
    rw [Option.bind_some] at h
    cases hdelivery : env.delivery header event with
    | none => rfl
    | some delivery =>
        simp only [hdelivery] at h ⊢
        exact Shared.tryUpdate_of_returns env.sequencer h

/-- **One event.** When the handler does not throw, the table takes the update of the event, if
it has one. -/
theorem invoke_of_quiet {event : Event M V} {faults : Faults σ}
    (h : (Sbe.Decoder.path.handle
      (env.invoke channel (some header) shared event faults).2).2 = none) :
    (env.invoke channel (some header) shared event faults).1 =
      (env.delivery header event).toList.foldl (Shared.update env.sequencer) shared := by
  by_cases hforward : Sbe.Decoder.overrides event.type = some .forward
  · have hregistered := Sbe.Decoder.registered_of_forward event.type hforward
    have hhandle (behaviour : Behaviour) : Sbe.Decoder.path.handle (.event event behaviour) =
        ([.invoked event 2 behaviour], RoqPython.dispatch 2 behaviour) :=
      handle_of_registered hforward hregistered
    rw [invoke, hhandle] at h
    have hreturns : (env._callback channel (some header) shared event faults).2 = false := by
      by_contra hraises
      rw [RoqPython.dispatch, if_pos (Bool.not_eq_false _ ▸ hraises)] at h
      cases h
    simp only [invoke, hhandle]
    exact callback_of_returns hreturns
  · have htype : event.type ≠ .marketByPriceUpdate := by
      intro htype
      exact hforward (htype ▸ rfl)
    have hdelivery : env.delivery header event = none := if_neg htype
    have hhandle (behaviour : Behaviour) :
        Sbe.Decoder.path.handle (.event event behaviour) = ([], none) :=
      handle_of_not_forward hforward
    simp only [invoke, hhandle, hdelivery]
    rfl

/-- **A message.** When no item fails, the table takes the updates of the events, in order. -/
theorem drive_of_quiet {fed : List (Option (Event M V))}
    (h : ∀ item ∈ (env.drive channel (some header) shared faults fed).2,
      (Sbe.Decoder.path.handle item).2 = none) :
    (env.drive channel (some header) shared faults fed).1 =
      (fed.filterMap fun event => event.bind (env.delivery header)).foldl
        (Shared.update env.sequencer) shared := by
  induction fed generalizing shared faults with
  | nil => rfl
  | cons event fed ih =>
      cases event with
      | none => exact absurd (h .raise List.mem_cons_self) nofun
      | some event =>
          rw [filterMap_delivery, List.foldl_append]
          cases hitem : (Sbe.Decoder.path.handle
              (env.invoke channel (some header) shared event (faults 0)).2).2 with
          | some exception =>
              simp only [drive, hitem, List.mem_singleton, forall_eq] at h
              cases h
          | none =>
              simp only [drive, hitem, List.forall_mem_cons] at h ⊢
              rw [ih h.2, invoke_of_quiet hitem]

end Environment

/-- A receiver does the same with every decoder for which what a datagram completes is
processed normally. -/
theorem assemble_of_returns {native : NativeDecoder M V UInt8} {self : Receiver UInt8}
    {datagram : Datagram UInt8} (h : ∀ message, completed self datagram = some message →
      ¬ native.Fails self.dispatched message) :
    self.assemble native datagram = self.assemble (accepting (M := M) (V := V)) datagram := by
  have hdispatch (self : Receiver UInt8) {message : Bytes}
      (h : ¬ native.Fails self.dispatched message) :
      self.dispatch native message = self.dispatch (accepting (M := M) (V := V)) message :=
    (dispatch_of_returns self h).trans
      (dispatch_of_returns self (accepting_returns _ message)).symm
  simp only [completed] at h
  simp only [Receiver.assemble]
  split
  case isTrue hlast =>
    rw [if_pos hlast] at h
    split
    case isTrue hbuffer =>
      rw [if_pos hbuffer] at h
      rw [hdispatch { self with
        header := some datagram.header
        decodeBuffer := self.decodeBuffer ++ datagram.payload } (h _ rfl)]
    case isFalse hbuffer =>
      rw [if_neg hbuffer] at h
      split
      case isTrue hfirst =>
        rw [if_pos hfirst] at h
        rw [hdispatch { self with header := some datagram.header } (h _ rfl)]
      case isFalse => rfl
  case isFalse => rfl

/-- A datagram is accepted: its receiver takes a step, and the table takes what it emits. -/
def Feed.accept (env : Environment M V σ L R) (self : Feed σ L R) (input : Input σ Bytes) :
    Feed σ L R :=
  let receiver := self.receivers input.channel
  ⟨Function.update self.receivers input.channel (env.accept receiver input.data),
    (env.output input.channel receiver input.data).foldl (Shared.update env.sequencer)
      self.shared⟩

/-- **One step of the two channels.** When what a datagram completes is processed normally, it
is a step of the receiver, and the table takes what the receiver emits. -/
theorem Feed.receive_of_returns {env : Environment M V σ L R} {self : Feed σ L R}
    {input : Input σ Bytes} (hpayload : (split env.codec input.data).payload ≠ [])
    (h : self.Returns env input) : self.receive env input = self.accept env input := by
  have hreceiver := assemble_of_returns h
  have hshared : env.effect input.channel (self.receivers input.channel) self.shared input.faults
      input.data = (env.output input.channel (self.receivers input.channel) input.data).foldl
        (Shared.update env.sequencer) self.shared := by
    rw [Environment.effect, Environment.output]
    cases hcompleted : completed (self.receivers input.channel)
        (split env.codec input.data) with
    | none => rfl
    | some message =>
        refine Environment.drive_of_quiet
          (NativeDecoder.quiet_of_returns ?_ (h message hcompleted))
        exact completed_ne_nil hpayload hcompleted
  rw [Feed.receive_eq, hshared]
  exact congrArg (Feed.mk · _) (congrArg (Function.update self.receivers input.channel) hreceiver)

end SbeReceiver

end RoqPython
