import RoqPython.Feed

/-!
# Two Lossy Channels

The two channels of the sample, when any datagrams are lost on either of them. The re-order
buffer of a channel passes what arrives to `_parse`, and calls `_reset` at each gap, which
does nothing.

As long as the losses of each channel are harmless, and the messages that are passed to the
decoders are processed normally, the lookup table takes exactly the updates of the messages that
arrived entirely, whatever the interleaving.

## Main results

* `emit_survivors`: what a receiver emits over a stream with harmless losses.
* `feed_lossy`: the two channels.
-/

namespace RoqPython.SbeReceiver

open Machine

variable {M V σ L R : Type}

/-! ### What arrives of a stream -/

section

variable {codec : Udp.Codec}

/-- The datagrams of a message that arrive. -/
def Transmission.arrived (self : Transmission codec) : List Bytes :=
  (self.datagrams.filter (·.2)).map (·.1)

/-- A message whose datagrams are taken apart, and which of them arrive. -/
def Transmission.sent (self : Transmission codec) : Sent UInt8 where
  datagrams := self.data.map (split codec)
  cut := self.cut
  arrives := self.arrives

/-- The messages of a stream that arrive entirely. -/
def entire (stream : List (Transmission codec)) : List (Message codec) :=
  (stream.filter (·.arrival.complete)).map Transmission.toMessage

theorem Transmission.sent_arrival (self : Transmission codec) :
    self.sent.arrival = self.arrival := by
  rw [Sent.arrival, Transmission.arrival, Transmission.sent, List.length_map]

/-- Taken apart, the datagrams that arrive are the survivors. -/
theorem Transmission.map_split_arrived (self : Transmission codec) :
    self.arrived.map (split codec) = self.sent.survivors := by
  rw [arrived, datagrams, List.filter_map, List.map_map, List.map_map, Sent.survivors, sent,
    List.filter_map]
  rfl

/-- All datagrams of a message arrive. -/
theorem Transmission.arrived_of_complete (self : Transmission codec)
    (h : self.arrival.complete = true) : self.arrived = self.data := by
  rw [← self.sent_arrival] at h
  rw [arrived, datagrams, List.filter_map, List.map_map]
  have hall : self.data.filter ((·.2) ∘ fun data =>
      (data, self.arrives (codec.decode data).fragment.toNat)) = self.data := by
    refine List.filter_eq_self.mpr fun data hdata => ?_
    have hsurvivors := Sent.survivors_of_complete h
    have hmem : split codec data ∈ self.sent.datagrams := List.mem_map_of_mem hdata
    rw [← hsurvivors] at hmem
    exact (List.mem_filter.mp hmem).2
  rw [hall]
  exact List.map_id _

/-- What arrives of a message, one datagram after the other. -/
theorem foldl_arrived (native : NativeDecoder M V UInt8) (self : Transmission codec)
    (receiver : Receiver UInt8) :
    self.arrived.foldl (Receiver._parse codec native) receiver =
      Sent.receive native receiver self.sent := by
  rw [foldl_parse, self.map_split_arrived]
  rfl

/-- The datagrams that arrive are not empty. -/
theorem payload_of_mem_arrived {stream : List (Transmission codec)} {data : Bytes}
    (h : data ∈ stream.flatMap Transmission.arrived) : (split codec data).payload ≠ [] := by
  obtain ⟨t, -, hdata⟩ := List.mem_flatMap.mp h
  have hmem : split codec data ∈ t.sent.survivors :=
    t.map_split_arrived ▸ List.mem_map_of_mem hdata
  exact t.cut.payload _ (List.mem_filter.mp hmem).1

/-- A message of which all datagrams arrive has a first one. -/
theorem Transmission.first_of_complete (self : Transmission codec)
    (h : self.arrival.complete = true) : self.arrival.first = true :=
  List.all_eq_true.mp h 0 (by simp)

/-- A message of which all datagrams arrive has a last one. -/
theorem Transmission.last_of_complete (self : Transmission codec)
    (h : self.arrival.complete = true) : self.arrival.last = true :=
  List.all_eq_true.mp h _ (by simp)

/-- A message of which no datagram arrives. -/
theorem Transmission.arrived_of_not_any (self : Transmission codec)
    (h : ¬ self.arrival.any = true) : self.arrived = [] := by
  rw [← self.sent_arrival] at h
  have hsurvivors := self.map_split_arrived
  rw [Sent.survivors_of_not_any h] at hsurvivors
  exact List.map_eq_nil_iff.mp hsurvivors

theorem entire_cons_of_complete {self : Transmission codec} (stream : List (Transmission codec))
    (h : self.arrival.complete = true) :
    entire (self :: stream) = self.toMessage :: entire stream := by
  simp [entire, h]

theorem entire_cons_of_not_complete {self : Transmission codec}
    (stream : List (Transmission codec)) (h : ¬ self.arrival.complete = true) :
    entire (self :: stream) = entire stream := by
  simp [entire, h]

/-- When nothing arrives, no message does. -/
theorem entire_eq_nil {stream : List (Transmission codec)}
    (h : ∀ t ∈ stream, ¬ t.arrival.any = true) : entire stream = [] := by
  have hnone : stream.filter (·.arrival.complete) = [] := by
    refine List.filter_eq_nil_iff.mpr fun t ht hcomplete => h t ht ?_
    exact t.arrival.any_of_first (t.first_of_complete hcomplete)
  rw [entire, hnone, List.map_nil]

/-- **Harmless losses.** The first message arrives entirely, or its first datagram is lost, or
its last one is and nothing arrives any more. -/
theorem Harmless.cases {self : Transmission codec} {stream : List (Transmission codec)}
    (h : Harmless ((self :: stream).map Transmission.arrival)) :
    (self.arrival.complete = true ∧ Harmless (stream.map Transmission.arrival)) ∨
      (self.arrival.first ≠ true ∧ Harmless (stream.map Transmission.arrival)) ∨
      (self.arrival.first = true ∧ self.arrival.last ≠ true ∧
        ∀ t ∈ stream, ¬ t.arrival.any = true) := by
  rw [List.map_cons, harmless_cons] at h
  obtain ⟨hcomplete, hlost, hrest⟩ := h
  by_cases hfirst : self.arrival.first = true
  · by_cases hlast : self.arrival.last = true
    · exact .inl ⟨hcomplete hfirst hlast, hrest⟩
    · exact .inr (.inr ⟨hfirst, hlast, fun t ht =>
        hlost hfirst hlast _ (List.mem_map_of_mem ht)⟩)
  · exact .inr (.inl ⟨hfirst, hrest⟩)

/-- **The receiver.** Over a stream with harmless losses, a receiver with an empty buffer
passes the messages that arrive entirely to a decoder that does not fail, and nothing is
raised. -/
theorem foldl_survivors {stream : List (Transmission codec)} (self : Receiver UInt8)
    (hbuffer : self.decodeBuffer = [])
    (hharmless : Harmless (stream.map Transmission.arrival)) :
    ∃ header left, (stream.flatMap Transmission.arrived).foldl
        (Receiver._parse codec (accepting (M := M) (V := V))) self =
      { self with
        header := header
        decodeBuffer := left
        dispatched := self.dispatched ++ (entire stream).map Message.bytes } := by
  induction stream generalizing self with
  | nil => exact ⟨self.header, [], by simp [entire, ← hbuffer]⟩
  | cons t stream ih =>
      rw [List.flatMap_cons, List.foldl_append]
      rcases hharmless.cases with ⟨hcomplete, hrest⟩ | ⟨hfirst, hrest⟩ | ⟨hfirst, hlast, hnone⟩
      · rw [entire_cons_of_complete stream hcomplete, t.arrived_of_complete hcomplete]
        obtain ⟨header, hfoldl⟩ := foldl_whole (accepting (M := M) (V := V)) t.toMessage hbuffer
          (accepting_returns _ _)
        obtain ⟨header, left, hrun⟩ := ih
          { self with header := header, dispatched := self.dispatched ++ [t.bytes] }
          hbuffer hrest
        refine ⟨header, left, ?_⟩
        rw [hfoldl, hrun, List.map_cons, List.append_assoc, List.singleton_append]
      · have hincomplete := mt t.first_of_complete hfirst
        rw [← t.sent_arrival] at hfirst
        obtain ⟨header, hreceive⟩ :=
          Sent.receive_of_not_first (accepting (M := M) (V := V)) hbuffer hfirst
        rw [entire_cons_of_not_complete stream hincomplete, foldl_arrived, hreceive]
        exact ih { self with header := header } hbuffer hrest
      · -- The bytes of the message stay in the buffer, and nothing else arrives.
        have hincomplete := mt t.last_of_complete hlast
        have hrest : stream.flatMap Transmission.arrived = [] :=
          List.flatMap_eq_nil_iff.mpr fun u hu => u.arrived_of_not_any (hnone u hu)
        rw [← t.sent_arrival] at hfirst hlast
        obtain ⟨-, header, hreceive⟩ :=
          Sent.receive_of_not_last (accepting (M := M) (V := V)) hbuffer hfirst hlast
        refine ⟨header, bytes t.sent.survivors, ?_⟩
        rw [entire_cons_of_not_complete stream hincomplete, entire_eq_nil hnone, hrest,
          List.foldl_nil, foldl_arrived, hreceive, List.map_nil, List.append_nil]

end

/-! ### What a receiver emits -/

namespace Environment

variable (env : Environment M V σ L R) (channel : Channel)

/-- **Emission.** Over a stream with harmless losses, a receiver with an empty buffer emits
the updates of the messages that arrive entirely, and of no other. -/
theorem emit_survivors {stream : List (Transmission env.codec)} (self : Receiver UInt8)
    (hbuffer : self.decodeBuffer = [])
    (hharmless : Harmless (stream.map Transmission.arrival)) :
    emit env.accept (env.output channel) self (stream.flatMap Transmission.arrived) =
      env.sent channel self.dispatched (entire stream) := by
  induction stream generalizing self with
  | nil => rfl
  | cons t stream ih =>
      rw [List.flatMap_cons, emit_append]
      rcases hharmless.cases with ⟨hcomplete, hrest⟩ | ⟨hfirst, hrest⟩ | ⟨hfirst, hlast, hnone⟩
      · rw [entire_cons_of_complete stream hcomplete, t.arrived_of_complete hcomplete, sent,
          env.emit_message channel t.toMessage hbuffer]
        obtain ⟨header, hfoldl⟩ := foldl_whole (accepting (M := M) (V := V)) t.toMessage hbuffer
          (accepting_returns _ _)
        rw [accept, hfoldl, ← accept]
        exact congrArg _ (ih
          { self with header := header, dispatched := self.dispatched ++ [t.bytes] }
          hbuffer hrest)
      · have hincomplete := mt t.first_of_complete hfirst
        rw [← t.sent_arrival] at hfirst
        obtain ⟨header, hreceive⟩ :=
          Sent.receive_of_not_first (accepting (M := M) (V := V)) hbuffer hfirst
        rw [← foldl_arrived, ← accept] at hreceive
        have hnothing : emit env.accept (env.output channel) self t.arrived = [] := by
          refine env.emit_eq_nil channel ?_
          rw [hreceive]
        rw [entire_cons_of_not_complete stream hincomplete, hreceive, hnothing, List.nil_append]
        exact ih { self with header := header } hbuffer hrest
      · have hincomplete := mt t.last_of_complete hlast
        have hrest : stream.flatMap Transmission.arrived = [] :=
          List.flatMap_eq_nil_iff.mpr fun u hu => u.arrived_of_not_any (hnone u hu)
        rw [← t.sent_arrival] at hfirst hlast
        obtain ⟨-, header, hreceive⟩ :=
          Sent.receive_of_not_last (accepting (M := M) (V := V)) hbuffer hfirst hlast
        rw [← foldl_arrived, ← accept] at hreceive
        have hnothing : emit env.accept (env.output channel) self t.arrived = [] := by
          refine env.emit_eq_nil channel ?_
          rw [hreceive]
        rw [entire_cons_of_not_complete stream hincomplete, entire_eq_nil hnone, hrest, hnothing]
        rfl

end Environment

/-! ### A sample of losses -/

/-- Of the snapshot channel, the last datagram is lost; of the incremental channel, the first
one. -/
def sampleLosses : Channel → List (Transmission .sample)
  | .snapshot => [⟨oneFragment, fun _ => true⟩, ⟨twoFragments, fun i => i = 0⟩]
  | .incremental => firstLost

theorem sampleLosses_harmless (channel : Channel) :
    Harmless ((sampleLosses channel).map Transmission.arrival) := by
  cases channel <;> exact ⟨by decide, by decide⟩

/-- The calls of the two re-order buffers, in turn. -/
def sampleCalls : List (Input Unit (ReorderBuffer.Call Bytes)) :=
  [⟨.incremental, .reset, fun _ => default⟩,
    ⟨.snapshot, .parse (Udp.Codec.sampleDatagram 0 0 [4]), fun _ => default⟩,
    ⟨.incremental, .parse (Udp.Codec.sampleDatagram 1 1 [3]), fun _ => default⟩,
    ⟨.snapshot, .parse (Udp.Codec.sampleDatagram 0 1 [1, 2]), fun _ => default⟩,
    ⟨.incremental, .parse (Udp.Codec.sampleDatagram 0 0 [4]), fun _ => default⟩]

theorem sampleCalls_calls (channel : Channel) :
    arrivals channel sampleCalls =
      ReorderBuffer.calls false ((sampleLosses channel).flatMap Transmission.datagrams) := by
  cases channel <;> rfl

/-! ### The two channels -/

/-- The datagram that a call of the re-order buffer carries. -/
def ReorderBuffer.Call.data {δ : Type} : ReorderBuffer.Call δ → Option δ
  | .parse data => some data
  | .reset => none

/-- The re-order buffer passes on what arrives. -/
theorem filterMap_calls {δ : Type} (gap : Bool) (datagrams : List (δ × Bool)) :
    (ReorderBuffer.calls gap datagrams).filterMap ReorderBuffer.Call.data =
      (datagrams.filter (·.2)).map (·.1) := by
  induction datagrams generalizing gap with
  | nil => rfl
  | cons datagram datagrams ih =>
      obtain ⟨datagram, arrived⟩ := datagram
      cases arrived with
      | false => exact ih true
      | true => cases gap <;> exact congrArg (datagram :: ·) (ih false)

/-- A call of the re-order buffer of a channel. -/
def Feed.handle (env : Environment M V σ L R) (self : Feed σ L R)
    (input : Input σ (ReorderBuffer.Call Bytes)) : Feed σ L R :=
  match input.data with
  | .parse data => self.receive env { input with data }
  | .reset =>
      let receiver := (self.receivers input.channel)._reset
      { self with receivers := Function.update self.receivers input.channel receiver }

/-- The datagrams that the re-order buffers of the two channels pass on. -/
def parsed (inputs : List (Input σ (ReorderBuffer.Call Bytes))) : List (Input σ Bytes) :=
  inputs.filterMap fun input => input.data.data.map fun data => { input with data }

/-- Gaps do nothing. -/
theorem Feed.foldl_handle (env : Environment M V σ L R)
    (inputs : List (Input σ (ReorderBuffer.Call Bytes))) (self : Feed σ L R) :
    inputs.foldl (Feed.handle env) self = (parsed inputs).foldl (Feed.receive env) self := by
  induction inputs generalizing self with
  | nil => rfl
  | cons input inputs ih =>
      obtain ⟨channel, call, faults⟩ := input
      rw [List.foldl_cons, ih]
      cases call with
      | parse data => rfl
      | reset =>
          have hsame : self.handle env ⟨channel, .reset, faults⟩ = self :=
            congrArg (Feed.mk · self.shared) (Function.update_eq_self channel self.receivers)
          rw [hsame]
          rfl

/-- What is passed on of a channel. -/
theorem arrivals_parsed (inputs : List (Input σ (ReorderBuffer.Call Bytes)))
    (channel : Channel) :
    arrivals channel (parsed inputs) =
      (arrivals channel inputs).filterMap ReorderBuffer.Call.data := by
  induction inputs with
  | nil => rfl
  | cons input inputs ih =>
      obtain ⟨other, call, faults⟩ := input
      cases call with
      | parse data =>
          have hparse : parsed (⟨other, .parse data, faults⟩ :: inputs) =
              ⟨other, data, faults⟩ :: parsed inputs := rfl
          rw [hparse]
          by_cases hother : other = channel
          · rw [arrivals_cons_of_eq _ hother, arrivals_cons_of_eq _ hother, ih]
            rfl
          · rw [arrivals_cons_of_ne _ hother, arrivals_cons_of_ne _ hother, ih]
      | reset =>
          have hreset : parsed (⟨other, .reset, faults⟩ :: inputs) = parsed inputs := rfl
          rw [hreset, ih]
          by_cases hother : other = channel
          · rw [arrivals_cons_of_eq _ hother]
            rfl
          · rw [arrivals_cons_of_ne _ hother]

section

variable (env : Environment M V σ L R)

/-- **Losses.** On each channel a stream of messages is sent, and losses are harmless; what is
passed to the decoders is processed normally. In whatever order the calls of the two re-order
buffers come, the lookup table takes the updates of the messages that arrived entirely, those
of each channel in the order in which they were sent, each with the header of the last datagram
of its message; the receivers have passed these messages to their decoders, and nothing
else. -/
theorem feed_lossy (streams : Channel → List (Transmission env.codec))
    (hharmless : ∀ channel, Harmless ((streams channel).map Transmission.arrival))
    (inputs : List (Input σ (ReorderBuffer.Call Bytes)))
    (hinputs : ∀ channel, arrivals channel inputs =
      ReorderBuffer.calls false ((streams channel).flatMap Transmission.datagrams))
    (hreturns : Along (Feed.receive env) (Feed.Returns env) Feed.new (parsed inputs)) :
    let feed := inputs.foldl (Feed.handle env) Feed.new
    (∀ channel, (feed.receivers channel).dispatched =
        (entire (streams channel)).map Message.bytes ∧
      (feed.receivers channel).raised = []) ∧
    ∃ deliveries : List (Channel × Delivery L R),
      feed.shared = (deliveries.map Prod.snd).foldl (Shared.update env.sequencer) Shared.new ∧
      ∀ channel, select channel deliveries = env.sent channel [] (entire (streams channel)) := by
  have harrived : ∀ channel, arrivals channel (parsed inputs) =
      (streams channel).flatMap Transmission.arrived := by
    intro channel
    rw [arrivals_parsed, hinputs, filterMap_calls, List.filter_flatMap, List.map_flatMap]
    rfl
  have hpayload : ∀ input ∈ parsed inputs, (split env.codec input.data).payload ≠ [] := by
    intro input hinput
    have hmem := mem_arrivals hinput
    rw [harrived] at hmem
    exact payload_of_mem_arrived hmem
  dsimp only
  rw [Feed.foldl_handle, Feed.foldl_receive env hpayload hreturns]
  refine ⟨fun channel => ?_, env.emitted (parsed inputs), rfl, fun channel => ?_⟩
  · obtain ⟨header, left, hrun⟩ := foldl_survivors (M := M) (V := V) Receiver.new rfl
      (hharmless channel)
    dsimp only
    rw [harrived, Environment.accept, hrun]
    exact ⟨rfl, rfl⟩
  · rw [env.select_emitted, harrived]
    exact env.emit_survivors channel Receiver.new rfl (hharmless channel)

/-- On each channel the message of one fragment arrives. -/
theorem feed_lossy_sample :
    let feed := sampleCalls.foldl (Feed.handle sampleEnvironment) Feed.new
    (∀ channel, (feed.receivers channel).dispatched =
        (entire (sampleLosses channel)).map Message.bytes ∧
      (feed.receivers channel).raised = []) ∧
    ∃ deliveries : List (Channel × Delivery Unit Unit),
      feed.shared = (deliveries.map Prod.snd).foldl
        (Shared.update sampleEnvironment.sequencer) Shared.new ∧
      ∀ channel, select channel deliveries =
        sampleEnvironment.sent channel [] (entire (sampleLosses channel)) := by
  have hfaults : ∀ input ∈ parsed sampleCalls, input.faults = fun _ => default := by
    intro input hinput
    obtain ⟨call, hcall, hdata⟩ := List.mem_filterMap.mp hinput
    obtain ⟨data, -, rfl⟩ := Option.map_eq_some_iff.mp hdata
    simp only [sampleCalls, List.mem_cons, List.not_mem_nil, or_false] at hcall
    rcases hcall with rfl | rfl | rfl | rfl | rfl <;> rfl
  exact feed_lossy sampleEnvironment sampleLosses sampleLosses_harmless sampleCalls
    sampleCalls_calls
    (Along.of_forall (fun _ _ hinput => sampleEnvironment_returns (hfaults _ hinput)) _)

end

end RoqPython.SbeReceiver
