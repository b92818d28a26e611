import RoqPython.Fix.Encoder
import RoqPython.Fix.RoundTrip
import RoqPython.Workflow

/-!
# From Encoder to Callback

One program encodes objects and writes the bytes to a connection; another one receives them in
chunks, drains its buffer through the decoder, and is given objects. The bytes for a header and
a message are made by one native codec, and what they decode to is up to the other one, which
need not be what was encoded: text can hold the separator of the fields.

A wrapper stands for the native message that it is converted to. It loses nothing more when
that message is made a wrapper again.

## Main results

* `Encodeable.Made.reencode_toValue`: a message that came from a wrapper survives the
  conversions.
* `Encodeable.relayed`: a chain of programs that encode what they are given again.
* `arrives`: the receiver is given the objects for what the sender has written, up to some
  point; they show what was sent, wherever that is what the bytes decode to.
-/

namespace RoqPython.Fix

variable {X : Foreign}

/-- Views that are replaced by themselves. -/
theorem Encodeable.map_id (self : Encodeable Bytes) : self.map id = self := by
  cases self with
  | securityList value =>
      exact congrArg (fun entries => securityList { value with noRelatedSym2 := entries })
        (List.map_id value.noRelatedSym2)
  | marketDataRequest value =>
      exact congrArg (fun entries => marketDataRequest { value with noRelatedSym2 := entries })
        (List.map_id value.noRelatedSym2)
  | marketDataSnapshotFullRefresh value =>
      exact congrArg
        (fun entries => marketDataSnapshotFullRefresh { value with noMdEntries2 := entries })
        (List.map_id value.noMdEntries2)
  | marketDataIncrementalRefresh value =>
      exact congrArg
        (fun entries => marketDataIncrementalRefresh { value with noMdEntries2 := entries })
        (List.map_id value.noMdEntries2)
  | _ => rfl

/-- An object that Python can get hold of, as it reads when it is encoded: Python has called a
constructor, or it was given the object by a decoder and has kept it. The object may have views
of memory that was overwritten since. -/
inductive Encodeable.Made (X : Foreign) : Encodeable Bytes → Prop
  | construct {V : Type} (args : Arguments V) (string : V → Bytes) (view : Member → Bytes → V)
      (read : V → Bytes) : Made X ((args.construct string view).map read)
  | ofValue {V : Type} (message : Native.Message X V) (string : V → Bytes)
      (view : Member → Bytes → V) (read : V → Bytes) :
      Made X ((Encodeable.ofValue string view message).map read)

/-- The native entries of a `SecurityList` were made from entries that have no precisions, so
that there are none to lose. -/
theorem Encodeable.Made.dropOpen {value : SecurityList Bytes}
    (h : Made X (.securityList value)) :
    value.noRelatedSym2.map (·.dropOpen) = value.noRelatedSym2 := by
  generalize hobject : Encodeable.securityList value = object at h
  cases h with
  | construct args string view read =>
      cases args with
      | securityList args =>
          cases hobject
          simp only [SecurityList.map, SecurityList.construct, create2, List.map_map]
          rfl
      | _ => cases hobject
  | ofValue message string view read =>
      cases message with
      | securityList message =>
          cases hobject
          simp only [SecurityList.map, SecurityList.ofValue, create2, List.map_map]
          rfl
      | _ => cases hobject

/-- **Stability.** What came from a wrapper survives being made a wrapper and converted again,
whatever its type. -/
theorem Encodeable.Made.reencode_toValue {object : Encodeable Bytes} (h : Made X object) :
    reencode X (object.toValue X ownText) = object.toValue X ownText := by
  cases object with
  | logon value => exact congrArg Native.Message.logon (Logon.ofValue_toValue _)
  | securityList value =>
      refine congrArg Native.Message.securityList ((SecurityList.ofValue_toValue _).trans ?_)
      simp only [SecurityList.toValue, h.dropOpen]
  | marketDataRequest value =>
      exact congrArg Native.Message.marketDataRequest (MarketDataRequest.ofValue_toValue _)
  | marketDataSnapshotFullRefresh value =>
      exact congrArg Native.Message.marketDataSnapshotFullRefresh
        (MarketDataSnapshotFullRefresh.ofValue_toValue _)
  | marketDataIncrementalRefresh value =>
      exact congrArg Native.Message.marketDataIncrementalRefresh
        (MarketDataIncrementalRefresh.ofValue_toValue _)
  -- The other types copy each field into a member and back.
  | _ => rfl

/-- **Relays.** A program that encodes the messages that it is given again alters a message as
`reencode` does, and any further programs of this kind alter it no more. -/
theorem Encodeable.relayed (message : Native.Message X Bytes) (n : ℕ) :
    (reencode X)^[n + 1] message = reencode X message := by
  rw [Function.iterate_succ_apply]
  have hmade : Made X (Encodeable.ofValue id ownText message) :=
    map_id (Encodeable.ofValue id ownText message) ▸ .ofValue message id ownText id
  exact Function.iterate_fixed hmade.reencode_toValue n

end RoqPython.Fix

namespace RoqPython.FixSession

open RoqPython.Fix Framing

variable {X : Foreign} {ν ε : Type}

/-! ### The two ends -/

/-- The calls of a sender, each with what happened in it. -/
def outcomes (native : NativeEncoder X ν ε) (self : Encoder ν) (calls : List Call) :
    List (Call × Record ε) :=
  calls.zip (self.run native calls)

/-- The bytes that the calls return, which are written to the connection. -/
def frames (outcomes : List (Call × Record ε)) : List Bytes :=
  outcomes.filterMap fun p => p.2.result.toOption

/-- The calls that return. -/
def returned (outcomes : List (Call × Record ε)) : List (Call × Record ε) :=
  outcomes.filter (·.2.result.isOk)

/-- What the sender stands for: the header of the call, and the object as a native message. -/
def sent (X : Foreign) (p : Call × Record ε) : Native.Header Bytes × Native.Message X Bytes :=
  (p.2.header, p.1.encodeable.toValue X ownText)

/-- `Decoder::Handler::dispatch`: the objects that the callback is given. -/
def wrap (message : Native.Header Bytes × Native.Message X Bytes) : Header × Encodeable Bytes :=
  (.ofValue id message.1, .ofValue id ownText message.2)

/-- `fix::Decoder::dispatch`, of which the callback returns. -/
def deliver (native : Bytes → ℕ × List (Native.Header Bytes × Native.Message X Bytes))
    (buffer : Bytes) : ℕ × List (Header × Encodeable Bytes) :=
  ((native buffer).1, (native buffer).2.map wrap)

/-- What the objects of the receiver are read as. -/
def shown (X : Foreign) (message : Header × Encodeable Bytes) :
    Native.Header Bytes × Native.Message X Bytes :=
  (message.1.toValue X ownText, message.2.toValue X ownText)

variable {IsFrame : Bytes → Prop}
  {decode : Bytes → Native.Header Bytes × Native.Message X Bytes}
  {receiver : Bytes → ℕ × List (Native.Header Bytes × Native.Message X Bytes)}

/-- The decoder finds the same frames when it delivers objects. -/
theorem decodes_deliver (h : Decodes IsFrame decode receiver) :
    Decodes IsFrame (fun f => wrap (decode f)) (deliver receiver) := h.map wrap

/-- What the receiver is given for a call: the objects for what its frame decodes to. Where that
is what the sender has sent, the objects show it, header and message. -/
def Reaches (decode : Bytes → Native.Header Bytes × Native.Message X Bytes)
    (message : Header × Encodeable Bytes) (p : Call × Record ε) : Prop :=
  ∃ data, p.2.result = .ok data ∧ message = wrap (decode data) ∧
    (decode data = sent X p → shown X message = sent X p)

/-- The frames on the connection are those of the calls that return, one for each. -/
theorem frames_returned {P : Call × Record ε → Prop} {outcomes : List (Call × Record ε)}
    (h : ∀ p ∈ outcomes, P p) :
    List.Forall₂ (fun f p => p.2.result = .ok f ∧ P p) (frames outcomes) (returned outcomes) := by
  induction outcomes with
  | nil => exact .nil
  | cons p outcomes ih =>
      obtain ⟨hp, houtcomes⟩ := List.forall_mem_cons.mp h
      have hrest := ih houtcomes
      rw [frames, returned] at hrest
      rw [frames, returned, List.filterMap_cons, List.filter_cons]
      cases hresult : p.2.result with
      | error error => exact hrest
      | ok data => exact .cons ⟨hresult, hp⟩ hrest

/-- The objects of the receiver show what was sent, when the sender's object was made by
Python. -/
theorem shown_wrap_sent {native : NativeEncoder X ν ε} {self : Encoder ν} {calls : List Call}
    (hmade : ∀ call ∈ calls, call.encodeable.Made X) {p : Call × Record ε}
    (hp : p ∈ outcomes native self calls) : shown X (wrap (sent X p)) = sent X p := by
  obtain ⟨hcall, hrecord⟩ := List.of_mem_zip hp
  obtain ⟨self', call, hrecord⟩ := Encoder.exists_of_mem_run hrecord
  refine Prod.ext ?_ (hmade p.1 hcall).reencode_toValue
  -- The header has the version that the wrapper assumes.
  rw [shown, wrap, sent, hrecord]
  rfl

/-! ### Arrival -/

/-- **Numbers.** The call at each position has the next number and the ids of the encoder,
whether it returns or not. -/
theorem outcomes_numbered {native : NativeEncoder X ν ε} {encoder : ν}
    {senderCompId targetCompId : Bytes} {calls : List Call} {i : ℕ} {p : Call × Record ε}
    (h : (outcomes native (.create encoder senderCompId targetCompId) calls)[i]? = some p) :
    p.2.header.msgSeqNum = UInt64.ofNat (i + 1) ∧ p.2.header.senderCompId = senderCompId ∧
      p.2.header.targetCompId = targetCompId := by
  obtain ⟨-, hrecord⟩ := List.getElem?_zip_eq_some.mp h
  obtain ⟨hnum, hids⟩ := Encoder.getElem_run hrecord
  exact ⟨hnum.trans (UInt64.zero_add _), hids⟩

/-- **Arrival.** A sender makes any calls, of which some may fail, and what it writes are frames.
A part of it has arrived, in any chunks that are valid UTF-8. The receiver's callback was given
the objects for the first of the successful calls, in order, each once; for all of them when
everything has arrived; and they show what was sent, wherever that is what the bytes decode to.
The calls are numbered 1, 2, 3, ..., so that the numbers that are missing are those of the
failed calls. -/
theorem arrives {native : NativeEncoder X ν ε} {encoder : ν} {senderCompId targetCompId : Bytes}
    {calls : List Call} (hmade : ∀ call ∈ calls, call.encodeable.Made X)
    (hdecodes : Decodes IsFrame decode receiver) (hnil : Unfinished IsFrame [])
    (hframes : ∀ f ∈ frames (outcomes native (.create encoder senderCompId targetCompId) calls),
      IsFrame f)
    {chunks : List Bytes} {rest : Bytes}
    (hstream : (frames (outcomes native (.create encoder senderCompId targetCompId)
      calls)).flatten = chunks.flatten ++ rest)
    (hutf8 : ∀ data ∈ chunks, isUtf8 data = true) :
    let outcomes := outcomes native (.create encoder senderCompId targetCompId) calls
    (∀ i p, outcomes[i]? = some p → p.2.header.msgSeqNum = UInt64.ofNat (i + 1) ∧
      p.2.header.senderCompId = senderCompId ∧ p.2.header.targetCompId = targetCompId) ∧
    ∃ arrived, arrived <+: returned outcomes ∧ (rest = [] → arrived = returned outcomes) ∧
      List.Forall₂ (Reaches decode)
        ((Client.mk [] []).run (deliver receiver) chunks).1.messages arrived := by
  intro outcomes
  refine ⟨fun i p h => outcomes_numbered h, ?_⟩
  -- The chunks end somewhere in the stream.
  obtain ⟨done, todo, q, hsplit, hchunks, hq, hrest⟩ :=
    exists_cut hframes hnil ((List.append_nil _).trans hstream)
  have hdone : ∀ f ∈ done, IsFrame f :=
    fun f hf => hframes f (hsplit ▸ List.mem_append_left _ hf)
  have htodo : ∀ f ∈ todo, IsFrame f :=
    fun f hf => hframes f (hsplit ▸ List.mem_append_right _ hf)
  have hmessages : ((Client.mk [] []).run (deliver receiver) chunks).1.messages =
      done.map fun f => wrap (decode f) := by
    rw [run_of_utf8 hutf8,
      (decodes_deliver hdecodes).foldl_receive hdone hq hnil hchunks.symm]
    rfl
  have hshown : ∀ p ∈ outcomes, shown X (wrap (sent X p)) = sent X p :=
    fun p hp => shown_wrap_sent hmade hp
  have hreturned := frames_returned hshown
  refine ⟨(returned outcomes).take done.length, List.take_prefix _ _, fun hall => ?_, ?_⟩
  · rw [hall, List.append_nil, List.append_nil] at hrest
    obtain rfl : todo = [] := hdecodes.frames_eq_nil htodo hq (hrest ▸ List.prefix_rfl)
    have hlength := hreturned.length_eq
    rw [hsplit, List.append_nil] at hlength
    exact List.take_of_length_le (Nat.le_of_eq hlength.symm)
  · have harrived := List.forall₂_take done.length hreturned
    rw [hsplit, List.take_left] at harrived
    rw [hmessages, List.forall₂_map_left_iff]
    refine harrived.imp fun f p hp => ⟨f, hp.1, rfl, fun hdecode => ?_⟩
    rw [hdecode]
    exact hp.2

/-! ### A test request -/

open MySession (sampleFrame sampleHeader)

/-- A test request from `A` to `B`. -/
def sampleRequest : Bytes := sampleFrame 49 65 66 56

/-- The header and the message that the test request is made of. -/
def sampleSent : Native.Header Bytes × Native.Message default Bytes :=
  (sampleHeader .testRequest [65] [66], .testRequest ⟨[97]⟩)

/-- An encoder that knows the test request, and fails for anything else. -/
def sampleEncoder : NativeEncoder default Unit Unit := fun _ header value =>
  match value with
  | .testRequest ⟨testReqId⟩ =>
      if header = sampleHeader .testRequest [65] [66] ∧ testReqId = [97] then
        (.ok sampleRequest, ())
      else (.error (), ())
  | _ => (.error (), ())

/-- A decoder that knows the test request. -/
def sampleReceiver (buffer : Bytes) :
    ℕ × List (Native.Header Bytes × Native.Message default Bytes) :=
  ((decodeOne sampleRequest buffer).1, (decodeOne sampleRequest buffer).2.map fun _ => sampleSent)

/-- A test request, and a logout that is not sent. -/
def sampleCalls : List Call :=
  [⟨construct (.testRequest ⟨[97]⟩), 0⟩, ⟨construct (.logout ⟨[98]⟩), 0⟩]

/-- The test request arrives in two chunks, and shows what was sent. -/
theorem arrives_testRequest :
    ((Client.mk [] []).run (deliver sampleReceiver)
      [sampleRequest.take 11, sampleRequest.drop 11]).1.messages.map (shown default) =
        [sampleSent] := by
  have hmade : ∀ call ∈ sampleCalls, call.encodeable.Made default := by
    intro call hcall
    rcases List.mem_cons.mp hcall with rfl | hcall
    · exact .construct (.testRequest ⟨[97]⟩) id ownText id
    · obtain rfl := List.mem_singleton.mp hcall
      exact .construct (.logout ⟨[98]⟩) id ownText id
  have hdecodes : Decodes (· = sampleRequest) (fun _ => sampleSent) sampleReceiver :=
    (decodes_decodeOne (by decide)).map fun _ => sampleSent
  have hnil : Unfinished (· = sampleRequest) [] :=
    ⟨sampleRequest, rfl, List.nil_prefix, by decide⟩
  have houtcomes : frames (outcomes sampleEncoder (.create () [65] [66]) sampleCalls) =
      [sampleRequest] := by decide +kernel
  have hstream : (frames (outcomes sampleEncoder (.create () [65] [66]) sampleCalls)).flatten =
      [sampleRequest.take 11, sampleRequest.drop 11].flatten ++ [] := by
    rw [houtcomes]
    decide
  obtain ⟨-, arrived, -, hall, hreaches⟩ := arrives hmade hdecodes hnil
    (by simp [houtcomes]) hstream (by decide)
  obtain rfl := hall rfl
  -- Of the two calls the first one returns.
  cases hmessages : ((Client.mk [] []).run (deliver sampleReceiver)
      [sampleRequest.take 11, sampleRequest.drop 11]).1.messages with
  | nil =>
      rw [hmessages] at hreaches
      cases hreaches
  | cons message messages =>
      rw [hmessages] at hreaches
      cases hreaches with
      | cons hfirst hrest =>
          cases hrest
          obtain ⟨data, -, -, hshown⟩ := hfirst
          rw [List.map_cons, hshown rfl]
          rfl

end RoqPython.FixSession
