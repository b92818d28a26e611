import RoqPython.Channels
import RoqPython.Joining

/-!
# The Two Channels in Any Order

The datagrams of the two channels of the SBE sample arrive in any order. Each receiver joins
its stream at some position, and passes the messages to its decoder that it receives entirely.

As long as the messages that are passed to a decoder are processed normally, the table takes
their updates. For one instrument it is enough that this is so on the channel that has its
updates; on the other channel anything may fail.

## Main results

* `emit_window`: what a receiver emits over a window of its stream.
* `Feed.foldl_receive`: a run of the two channels in which nothing fails.
* `feed_shuffles`: the table takes the updates of all messages that were received entirely,
  those of each channel in order, each with the header of its last datagram.
* `Feed.instruments_foldl`: what a run makes of an instrument, when its own channel does not
  fail.
* `feed_isolated`: an instrument of one channel is as if the other channel did not exist.
-/

namespace RoqPython.SbeReceiver

open Blocks Machine

variable {M V σ L R : Type}

/-! ### One message -/

namespace Environment

variable (env : Environment M V σ L R) (channel : Channel)

/-- Where nothing is passed to the decoder, nothing is emitted. -/
theorem emit_eq_nil {data : List Bytes} {self : Receiver UInt8}
    (h : (data.foldl env.accept self).dispatched = self.dispatched) :
    emit env.accept (env.output channel) self data = [] := by
  induction data generalizing self with
  | nil => rfl
  | cons datagram data ih =>
      have hfirst : (env.accept self datagram).dispatched =
          self.dispatched ++ (completed self (split env.codec datagram)).toList :=
        assemble_dispatched _ self (split env.codec datagram)
      have hrest : (env.accept self datagram).dispatched <+:
          (data.foldl env.accept (env.accept self datagram)).dispatched := by
        rw [accept, foldl_parse]
        exact (foldl_records _ (data.map (split env.codec)) _).1
      rw [List.foldl_cons] at h
      rw [h] at hrest
      have hnone : completed self (split env.codec datagram) = none := by
        have hlength := hrest.length_le
        rw [hfirst, List.length_append] at hlength
        cases hcompleted : completed self (split env.codec datagram) with
        | none => rfl
        | some message =>
            rw [hcompleted, Option.toList_some, List.length_singleton] at hlength
            omega
      have hsame : (env.accept self datagram).dispatched = self.dispatched := by
        rw [hfirst, hnone, Option.toList_none, List.append_nil]
      rw [emit_cons, output, hnone, List.nil_append]
      exact ih (h.trans hsame.symm)

end Environment

/-- The header of the last datagram of a message. -/
def Message.header {codec : Udp.Codec} (self : Message codec) : Udp.Header :=
  (split codec (self.data.getLast self.data_ne_nil)).header

namespace Environment

variable (env : Environment M V σ L R) (channel : Channel)

/-- **One message.** A receiver with an empty buffer emits the updates of a message with the
header of its last datagram. -/
theorem emit_message {self : Receiver UInt8} (message : Message env.codec)
    (hbuffer : self.decodeBuffer = []) :
    emit env.accept (env.output channel) self message.data =
      env.updates channel self.dispatched message.bytes message.header := by
  have hne := message.data_ne_nil
  have hlength : message.data.length - 1 < message.data.length := by
    have := List.length_pos_iff.mpr hne
    omega
  obtain ⟨header, hbegun⟩ := foldl_begun (accepting (M := M) (V := V)) message hlength hbuffer
  rw [← List.dropLast_eq_take] at hbegun
  have hnothing : emit env.accept (env.output channel) self message.data.dropLast = [] := by
    refine env.emit_eq_nil channel ?_
    rw [accept, hbegun]
  -- The last datagram completes the message.
  obtain ⟨hwhole, -⟩ := parseMessage_spec (accepting (M := M) (V := V)) message hbuffer
  rw [Receiver.parseMessage, ← List.dropLast_append_getLast hne, List.foldl_append, hbegun,
    List.foldl_cons, List.foldl_nil, Receiver._parse, assemble_dispatched] at hwhole
  have hcompleted := List.append_cancel_left hwhole
  rw [← List.dropLast_append_getLast hne, emit_append, hnothing, accept, hbegun,
    List.nil_append, emit_cons, output, Option.toList_eq_singleton_iff.mp hcompleted]
  exact List.append_nil _

/-- What a channel sends: the updates of messages, each with the header of its last
datagram. -/
def sent : List Bytes → List (Message env.codec) → List (Delivery L R)
  | _, [] => []
  | before, message :: messages =>
      env.updates channel before message.bytes message.header ++
        sent (before ++ [message.bytes]) messages

/-! ### A window of the stream -/

/-- A new receiver passes the messages within a window of the stream to the decoder, and
nothing is raised. -/
theorem accept_window (stream : List (Message env.codec)) (j e : ℕ) :
    ((window Message.data stream j e).foldl env.accept Receiver.new).dispatched =
        (within Message.data stream j e).map Message.bytes ∧
      ((window Message.data stream j e).foldl env.accept Receiver.new).raised = [] := by
  have hreturns : Returns (accepting (M := M) (V := V)) stream
      ((window Message.data stream j e).foldl env.accept Receiver.new).dispatched :=
    fun message _ before _ => accepting_returns before message.bytes
  obtain ⟨header, hrun⟩ := foldl_window Receiver.new rfl hreturns
  rw [accept, hrun]
  exact ⟨rfl, rfl⟩

/-- **Windows.** A receiver with an empty buffer emits the updates of the messages within a
window of the stream, and of no other. -/
theorem emit_window {stream : List (Message env.codec)} {j e : ℕ} (self : Receiver UInt8)
    (hbuffer : self.decodeBuffer = []) :
    emit env.accept (env.output channel) self (window Message.data stream j e) =
      env.sent channel self.dispatched (within Message.data stream j e) := by
  induction stream generalizing j e self with
  | nil => simp [window, within, sent, emit]
  | cons message stream ih =>
      rcases Nat.lt_or_ge e message.data.length with he | he
      · -- The window ends in the first message, which is not complete.
        rw [window_cons_of_lt stream j he, within_cons_of_lt Message.data_ne_nil stream j he]
        refine env.emit_eq_nil channel ?_
        rw [accept]
        by_cases hj : j = 0
        · obtain ⟨header, hfoldl⟩ :=
            foldl_begun (accepting (M := M) (V := V)) message he hbuffer
          rw [hj, List.drop_zero, hfoldl]
        · obtain ⟨header, hfoldl⟩ :=
            foldl_midway (accepting (M := M) (V := V)) message hj e hbuffer
          rw [hfoldl]
      · rw [window_cons, emit_append, within_cons Message.data_ne_nil]
        by_cases hj : j = 0
        · -- All of the first message is within the window.
          rw [hj, List.drop_zero, List.take_of_length_le he, if_pos ⟨rfl, he⟩,
            List.singleton_append, sent, env.emit_message channel message hbuffer]
          obtain ⟨header, hfoldl⟩ := foldl_whole (accepting (M := M) (V := V)) message hbuffer
            (accepting_returns _ _)
          rw [accept, hfoldl, ← accept]
          exact congrArg _ (ih
            { self with header := header, dispatched := self.dispatched ++ [message.bytes] }
            hbuffer)
        · -- The first message was joined midway.
          obtain ⟨header, hfoldl⟩ :=
            foldl_midway (accepting (M := M) (V := V)) message hj e hbuffer
          have hnothing : emit env.accept (env.output channel) self
              ((message.data.take e).drop j) = [] := by
            refine env.emit_eq_nil channel ?_
            rw [accept, hfoldl]
          rw [if_neg fun h => hj h.1, List.nil_append, hnothing, List.nil_append, accept, hfoldl,
            ← accept]
          exact ih _ hbuffer

end Environment

/-! ### Two channels -/

/-- What arrives on a channel. -/
def arrivals {δ : Type} (channel : Channel) (inputs : List (Input σ δ)) : List δ :=
  (inputs.filter (·.channel = channel)).map Input.data

/-- An input that arrives on a channel. -/
theorem arrivals_cons_of_eq {δ : Type} {channel : Channel} {input : Input σ δ}
    (inputs : List (Input σ δ)) (h : input.channel = channel) :
    arrivals channel (input :: inputs) = input.data :: arrivals channel inputs := by
  rw [arrivals, List.filter_cons_of_pos (by simpa using h), List.map_cons, arrivals]

/-- An input that arrives on the other channel. -/
theorem arrivals_cons_of_ne {δ : Type} {channel : Channel} {input : Input σ δ}
    (inputs : List (Input σ δ)) (h : input.channel ≠ channel) :
    arrivals channel (input :: inputs) = arrivals channel inputs := by
  rw [arrivals, List.filter_cons_of_neg (by simpa using h), arrivals]

/-- An input arrives on its channel. -/
theorem mem_arrivals {δ : Type} {input : Input σ δ} {inputs : List (Input σ δ)}
    (h : input ∈ inputs) : input.data ∈ arrivals input.channel inputs :=
  List.mem_map_of_mem (List.mem_filter.mpr ⟨h, decide_eq_true rfl⟩)

/-- The datagrams of a message are not empty. -/
theorem Message.payload_ne_nil {codec : Udp.Codec} {stream : List (Message codec)}
    {data : Bytes} (h : data ∈ stream.flatMap Message.data) :
    (split codec data).payload ≠ [] := by
  obtain ⟨message, -, hdata⟩ := List.mem_flatMap.mp h
  exact message.cut.payload _ (List.mem_map_of_mem hdata)

/-- The datagrams in a window of a stream are not empty. -/
theorem payload_of_mem_window {codec : Udp.Codec} {stream : List (Message codec)} {j e : ℕ}
    {data : Bytes} (h : data ∈ window Message.data stream j e) :
    (split codec data).payload ≠ [] :=
  Message.payload_ne_nil (List.mem_of_mem_take (List.mem_of_mem_drop h))

section

variable (env : Environment M V σ L R)

/-- What one of the receivers does with a datagram that arrives on its channel. -/
def Environment.step (_channel : Channel) (self : Receiver UInt8) (input : Input σ Bytes) :
    Receiver UInt8 :=
  env.accept self input.data

/-- What the two receivers emit, each update under its channel. -/
def Environment.emitted (inputs : List (Input σ Bytes)) : List (Channel × Delivery L R) :=
  emit (keyedStep Input.channel env.step)
    (keyedOutput Input.channel fun channel self input => env.output channel self input.data)
    (fun _ => Receiver.new) inputs

/-- The two receivers and the lookup table, side by side. -/
def Feed.ofPair (state : (Channel → Receiver UInt8) × Shared σ L R) : Feed σ L R :=
  ⟨state.1, state.2⟩

/-- One datagram is a step of its receiver, whose updates go to the lookup table. -/
theorem Feed.accept_ofPair (state : (Channel → Receiver UInt8) × Shared σ L R)
    (input : Input σ Bytes) :
    (Feed.ofPair state).accept env input =
      Feed.ofPair (attach (keyedStep Input.channel env.step)
        (keyedOutput Input.channel fun channel self input => env.output channel self input.data)
        (fun shared p => shared.update env.sequencer p.2) state input) := by
  simp only [attach, keyedOutput, List.foldl_map]
  rfl

/-- **Runs.** When nothing fails, each of the two receivers runs on its own datagrams, and the
lookup table takes what they emit. -/
theorem Feed.foldl_receive {inputs : List (Input σ Bytes)}
    (hpayload : ∀ input ∈ inputs, (split env.codec input.data).payload ≠ [])
    (h : Along (Feed.receive env) (Feed.Returns env) Feed.new inputs) :
    inputs.foldl (Feed.receive env) Feed.new =
      ⟨fun channel => (arrivals channel inputs).foldl env.accept Receiver.new,
        ((env.emitted inputs).map Prod.snd).foldl (Shared.update env.sequencer)
          Shared.new⟩ := by
  rw [h.foldl_eq fun self input hinput => Feed.receive_of_returns (hpayload input hinput)]
  have hrun : ∀ state, inputs.foldl (Feed.accept env) (Feed.ofPair state) =
      Feed.ofPair (inputs.foldl (attach (keyedStep Input.channel env.step)
        (keyedOutput Input.channel fun channel self input => env.output channel self input.data)
        (fun (shared : Shared σ L R) p => shared.update env.sequencer p.2)) state) :=
    fun state => List.foldl_hom Feed.ofPair (Feed.accept_ofPair env)
  have hreceivers : inputs.foldl (keyedStep Input.channel env.step) (fun _ => Receiver.new) =
      fun channel => (arrivals channel inputs).foldl env.accept Receiver.new := by
    funext channel
    rw [arrivals, List.foldl_map]
    exact foldl_keyedStep Input.channel env.step _ _ channel
  refine (hrun (fun _ => Receiver.new, Shared.new)).trans ?_
  rw [foldl_attach, hreceivers, List.foldl_map]
  rfl

/-- What is emitted under a channel is what its receiver emits over its own datagrams. -/
theorem Environment.select_emitted (inputs : List (Input σ Bytes)) (channel : Channel) :
    select channel (env.emitted inputs) =
      emit env.accept (env.output channel) Receiver.new (arrivals channel inputs) := by
  rw [emitted, select_emit_keyed, arrivals, emit_map]
  rfl

/-- **Shuffles.** On each channel a stream of messages is sent, a receiver joins it at some
position, and all datagrams from there on arrive; what is passed to the decoders is processed
normally. Whatever the order in which the datagrams of the two channels arrive, each receiver
passes the messages to its decoder that were received entirely, and nothing else; and the
lookup table takes their updates, those of each channel in the order in which they were sent,
each with the header of the last datagram of its message. -/
theorem feed_shuffles (streams : Channel → List (Message env.codec)) (j e : Channel → ℕ)
    (inputs : List (Input σ Bytes))
    (hinputs : ∀ channel, arrivals channel inputs =
      window Message.data (streams channel) (j channel) (e channel))
    (hreturns : Along (Feed.receive env) (Feed.Returns env) Feed.new inputs) :
    let feed := inputs.foldl (Feed.receive env) Feed.new
    (∀ channel, (feed.receivers channel).dispatched =
        (within Message.data (streams channel) (j channel) (e channel)).map Message.bytes ∧
      (feed.receivers channel).raised = []) ∧
    ∃ deliveries : List (Channel × Delivery L R),
      feed.shared = (deliveries.map Prod.snd).foldl (Shared.update env.sequencer) Shared.new ∧
      ∀ channel, select channel deliveries =
        env.sent channel []
          (within Message.data (streams channel) (j channel) (e channel)) := by
  have hpayload : ∀ input ∈ inputs, (split env.codec input.data).payload ≠ [] := by
    intro input hinput
    have hmem := mem_arrivals hinput
    rw [hinputs] at hmem
    exact payload_of_mem_window hmem
  dsimp only
  rw [Feed.foldl_receive env hpayload hreturns]
  refine ⟨fun channel => ?_, env.emitted inputs, rfl, fun channel => ?_⟩
  · dsimp only
    rw [hinputs]
    exact env.accept_window (streams channel) (j channel) (e channel)
  · rw [env.select_emitted, hinputs]
    exact env.emit_window channel Receiver.new rfl

/-! ### A sample of each channel -/

/-- The symbol that a channel sends updates of. -/
def sampleSymbol : Channel → String
  | .snapshot => "BTC"
  | .incremental => "ETH"

/-- Every message has one update, of an instrument of its channel, and is consumed entirely;
the sequencer publishes nothing. -/
def sampleEnvironment : Environment Unit String Unit Unit Unit where
  codec := .sample
  decoding channel _ message :=
    ([some ⟨.marketByPriceUpdate, (), sampleSymbol channel⟩], message.length)
  content symbol := ⟨⟨"deribit", symbol, [], [], .incremental, ()⟩, nofun⟩
  sequencer :=
    { create := ()
      ready := fun _ => true
      snapshot := fun _ _ _ _ _ => ((), [])
      incremental := fun _ _ _ _ _ _ => ((), [])
      isIncremental := fun _ => true }

/-- When nothing goes wrong, what a datagram completes is processed normally. -/
theorem sampleEnvironment_returns {self : Feed Unit Unit Unit} {input : Input Unit Bytes}
    (h : input.faults = fun _ => default) : self.Returns sampleEnvironment input := by
  intro message _
  have hnative (before : List Bytes) : sampleEnvironment.native input.channel
      (some (split sampleEnvironment.codec input.data).header) self.shared input.faults before
        message =
        ([.event ⟨.marketByPriceUpdate, (), sampleSymbol input.channel⟩ default],
          message.length) := by
    rw [h]
    simp only [Environment.native, sampleEnvironment, Environment.drive,
      Environment.invoke_default]
    rfl
  rw [NativeDecoder.Fails, NativeDecoder.dispatch, hnative]
  exact not_not.mpr rfl

/-- The messages of the two channels. -/
def sampleStreams : Channel → List (Message .sample)
  | .snapshot => [twoFragments]
  | .incremental => [twoFragments, oneFragment]

/-- The incremental channel is joined at its second datagram, and the datagrams of the two
channels arrive in turn. -/
def sampleInputs (faults : Channel → ℕ → Faults Unit) : List (Input Unit Bytes) :=
  [⟨.snapshot, Udp.Codec.sampleDatagram 0 1 [1, 2], faults .snapshot⟩,
    ⟨.incremental, Udp.Codec.sampleDatagram 1 1 [3], faults .incremental⟩,
    ⟨.snapshot, Udp.Codec.sampleDatagram 1 1 [3], faults .snapshot⟩,
    ⟨.incremental, Udp.Codec.sampleDatagram 0 0 [4], faults .incremental⟩]

/-- Where a channel is joined. -/
def sampleJoin : Channel → ℕ
  | .snapshot => 0
  | .incremental => 1

/-- How many datagrams were sent on a channel. -/
def sampleEnd : Channel → ℕ
  | .snapshot => 2
  | .incremental => 3

theorem sampleInputs_window (faults : Channel → ℕ → Faults Unit) (channel : Channel) :
    arrivals channel (sampleInputs faults) =
      window Message.data (sampleStreams channel) (sampleJoin channel) (sampleEnd channel) := by
  cases channel <;> rfl

theorem sampleInputs_faults {faults : Channel → ℕ → Faults Unit} {input : Input Unit Bytes}
    (h : input ∈ sampleInputs faults) : input.faults = faults input.channel := by
  simp only [sampleInputs, List.mem_cons, List.not_mem_nil, or_false] at h
  rcases h with rfl | rfl | rfl | rfl <;> rfl

/-- The snapshot channel sends one message, and of the incremental channel the second message
is received entirely. -/
theorem feed_shuffles_sample :
    let feed := (sampleInputs fun _ _ => default).foldl (Feed.receive sampleEnvironment) Feed.new
    (∀ channel, (feed.receivers channel).dispatched = (within Message.data
        (sampleStreams channel) (sampleJoin channel) (sampleEnd channel)).map Message.bytes ∧
      (feed.receivers channel).raised = []) ∧
    ∃ deliveries : List (Channel × Delivery Unit Unit),
      feed.shared = (deliveries.map Prod.snd).foldl
        (Shared.update sampleEnvironment.sequencer) Shared.new ∧
      ∀ channel, select channel deliveries = sampleEnvironment.sent channel []
        (within Message.data (sampleStreams channel) (sampleJoin channel)
          (sampleEnd channel)) :=
  feed_shuffles sampleEnvironment sampleStreams sampleJoin sampleEnd
    (sampleInputs fun _ _ => default) (sampleInputs_window _)
    (Along.of_forall (fun _ _ hinput => sampleEnvironment_returns (sampleInputs_faults hinput)) _)

/-! ### One instrument -/

/-- A datagram leaves the receiver of the other channel alone. -/
theorem Feed.receive_of_ne (self : Feed σ L R) {input : Input σ Bytes} {channel : Channel}
    (h : input.channel ≠ channel) :
    (self.receive env input).receivers channel = self.receivers channel :=
  Function.update_of_ne (Ne.symm h) _ _

/-- What was passed to a decoder stays passed. -/
theorem Feed.receive_dispatched (self : Feed σ L R) (input : Input σ Bytes)
    (channel : Channel) :
    (self.receivers channel).dispatched <+:
      ((self.receive env input).receivers channel).dispatched := by
  by_cases hchannel : input.channel = channel
  · subst hchannel
    rw [Feed.receive_eq]
    dsimp only
    rw [Function.update_self, Receiver._parse, assemble_dispatched]
    exact List.prefix_append _ _
  · exact (self.receive_of_ne env hchannel).symm ▸ List.prefix_rfl

/-- What was passed to a decoder before a run. -/
theorem Feed.foldl_dispatched (inputs : List (Input σ Bytes)) (self : Feed σ L R)
    (channel : Channel) :
    (self.receivers channel).dispatched <+:
      ((inputs.foldl (Feed.receive env) self).receivers channel).dispatched := by
  induction inputs generalizing self with
  | nil => exact List.prefix_rfl
  | cons input inputs ih => exact (self.receive_dispatched env input channel).trans (ih _)

/-- No message that was passed to the decoder of a channel has an update of an instrument. -/
def Environment.Silent (channel : Channel) (key : String × String) (dispatched : List Bytes) :
    Prop :=
  ∀ before message, before ++ [message] <+: dispatched →
    ∀ header, ∀ delivery ∈ env.updates channel before message header, delivery.key ≠ key

variable {env}

/-- **The other channel.** Whatever fails, a datagram leaves an instrument alone when the
decoder is given no update of it. -/
theorem Feed.receive_of_silent {self : Feed σ L R} {input : Input σ Bytes}
    {key : String × String} (h : env.Silent input.channel key
      ((self.receive env input).receivers input.channel).dispatched) :
    (self.receive env input).shared.instruments key = self.shared.instruments key := by
  rw [Feed.receive_eq] at h ⊢
  dsimp only at h ⊢
  rw [Function.update_self, Receiver._parse, assemble_dispatched] at h
  rw [Environment.effect]
  cases hcompleted : completed (self.receivers input.channel) (split env.codec input.data) with
  | none => rfl
  | some message =>
      rw [hcompleted, Option.toList_some] at h
      exact Environment.drive_of_ne (h _ message List.prefix_rfl _)

/-- **The own channel.** What an accepted datagram makes of an instrument. -/
theorem Feed.accept_instruments (self : Feed σ L R) (input : Input σ Bytes)
    (key : String × String) :
    (self.accept env input).shared.instruments key =
      ((env.output input.channel (self.receivers input.channel) input.data).filter
        (·.key = key)).foldl (Shared.entry env.sequencer key) (self.shared.instruments key) :=
  self.shared.foldl_instruments env.sequencer _ key

/-- **Runs.** When nothing fails on its own channel, and the other channel has no update of it,
an instrument is given the updates that the receiver of its channel emits. -/
theorem Feed.instruments_foldl {inputs : List (Input σ Bytes)} {self : Feed σ L R}
    {channel : Channel} {key : String × String}
    (hpayload : ∀ data ∈ arrivals channel inputs, (split env.codec data).payload ≠ [])
    (hreturns : Along (Feed.receive env)
      (fun feed input => input.channel = channel → feed.Returns env input) self inputs)
    (hother : ∀ other, other ≠ channel → env.Silent other key
      ((inputs.foldl (Feed.receive env) self).receivers other).dispatched) :
    (inputs.foldl (Feed.receive env) self).shared.instruments key =
      ((emit env.accept (env.output channel) (self.receivers channel)
        (arrivals channel inputs)).filter (·.key = key)).foldl
          (Shared.entry env.sequencer key) (self.shared.instruments key) := by
  induction inputs generalizing self with
  | nil => rfl
  | cons input inputs ih =>
      obtain ⟨hfirst, hrest⟩ := hreturns
      by_cases hchannel : input.channel = channel
      · subst hchannel
        rw [arrivals_cons_of_eq inputs rfl, List.forall_mem_cons] at hpayload
        have haccept := Feed.receive_of_returns hpayload.1 (hfirst rfl)
        have hreceiver : (self.receive env input).receivers input.channel =
            env.accept (self.receivers input.channel) input.data := by
          rw [haccept]
          exact Function.update_self _ _ _
        rw [List.foldl_cons, ih hpayload.2 hrest hother, hreceiver, haccept,
          self.accept_instruments, arrivals_cons_of_eq inputs rfl, emit_cons, List.filter_append,
          List.foldl_append]
      · rw [arrivals_cons_of_ne inputs hchannel] at hpayload ⊢
        have hreceiver := self.receive_of_ne env hchannel
        -- What is passed to the decoder for this datagram is passed in the run.
        have hsilent : env.Silent input.channel key
            ((self.receive env input).receivers input.channel).dispatched :=
          fun before message hbefore => hother input.channel hchannel before message
            (hbefore.trans (Feed.foldl_dispatched env inputs _ input.channel))
        rw [List.foldl_cons, ih hpayload hrest hother, hreceiver, Feed.receive_of_silent hsilent]

variable (env)

/-- **Isolation.** A stream is sent on one channel, its receiver joins it at some position, and
all datagrams from there on arrive; what is passed to the decoder of that channel is processed
normally. On the other channel anything arrives, in any order with these datagrams, and
anything may fail, but no message that is passed to its decoder has an update of some
instrument. That instrument is as if it had been given the updates of the one channel alone,
from the messages that were received entirely. -/
theorem feed_isolated (channel : Channel) (stream : List (Message env.codec)) (j e : ℕ)
    (inputs : List (Input σ Bytes)) (key : String × String)
    (hinputs : arrivals channel inputs = window Message.data stream j e)
    (hreturns : Along (Feed.receive env)
      (fun feed input => input.channel = channel → feed.Returns env input) Feed.new inputs)
    (hother : ∀ other, other ≠ channel → env.Silent other key
      ((inputs.foldl (Feed.receive env) Feed.new).receivers other).dispatched) :
    let own := (env.sent channel [] (within Message.data stream j e)).filter (·.key = key)
    (inputs.foldl (Feed.receive env) Feed.new).shared.instruments key =
      if own = [] then none
      else some (own.foldl (Instrument.apply env.sequencer)
        (Instrument.new env.sequencer key.1 key.2)) := by
  have hpayload : ∀ data ∈ arrivals channel inputs, (split env.codec data).payload ≠ [] := by
    rw [hinputs]
    exact fun data hdata => payload_of_mem_window hdata
  have hemitted : emit env.accept (env.output channel) Receiver.new (arrivals channel inputs) =
      env.sent channel [] (within Message.data stream j e) := by
    rw [hinputs]
    exact env.emit_window channel Receiver.new rfl
  dsimp only
  rw [Feed.instruments_foldl hpayload hreturns hother, ← Shared.foldl_entry, ← hemitted]
  rfl

/-- The updates of the sample are of the instrument of their channel. -/
theorem sampleEnvironment_silent {channel : Channel} {symbol : String}
    (h : sampleSymbol channel ≠ symbol) (dispatched : List Bytes) :
    sampleEnvironment.Silent channel ("deribit", symbol) dispatched := by
  intro before message _ header delivery hdelivery hkey
  simp only [Environment.updates, sampleEnvironment, Environment.delivery, List.filterMap_cons,
    List.filterMap_nil, Option.bind_some, if_true, List.mem_singleton] at hdelivery
  subst hdelivery
  exact h (Prod.ext_iff.mp hkey).2

/-- Logging raises in the callback of the snapshot channel. The instrument of the incremental
channel is given the update of the second message. -/
theorem feed_isolated_sample :
    let inputs := sampleInputs fun
      | .snapshot, _ => { (default : Faults Unit) with logging := true }
      | .incremental, _ => default
    let feed := inputs.foldl (Feed.receive sampleEnvironment) Feed.new
    (feed.receivers .snapshot).raised ≠ [] ∧
      (feed.shared.instruments ("deribit", "ETH")).isSome = true := by
  intro inputs feed
  refine ⟨by decide, ?_⟩
  have hother : ∀ other, other ≠ .incremental → sampleEnvironment.Silent other
      ("deribit", "ETH") (feed.receivers other).dispatched := by
    intro other hother
    cases other with
    | snapshot => exact sampleEnvironment_silent (by decide) _
    | incremental => exact absurd rfl hother
  have hreturns : Along (Feed.receive sampleEnvironment)
      (fun feed input => input.channel = .incremental → feed.Returns sampleEnvironment input)
      Feed.new inputs := by
    refine Along.of_forall (fun self input hinput hchannel => ?_) _
    refine sampleEnvironment_returns ((sampleInputs_faults hinput).trans ?_)
    rw [hchannel]
  rw [feed_isolated sampleEnvironment .incremental (sampleStreams .incremental) 1 3 inputs
    ("deribit", "ETH") (sampleInputs_window _ .incremental) hreturns hother]
  decide

end

end RoqPython.SbeReceiver
