import RoqPython.Lib.Machine
import RoqPython.Dispatch
import RoqPython.Udp

/-!
# Order Books of the SBE Sample

`samples/sbe_receiver.py` keeps an `Instrument` for each exchange and symbol, each with a
sequencer and a `MarketByPrice` object. Updates arrive from two channels, and
`sequence_helper` decides which of them reach the native sequencer: a snapshot from the
snapshot channel does so only while the sequencer is not ready.

The native sequencer is an arbitrary machine. A `MarketByPrice` object is the list of the
operations that were applied to it.

## Main results

* `Instrument.apply_of_skipped`: stale updates and late snapshots leave an instrument alone.
* `book_own`: an order book sees updates of its own exchange and symbol only.
* `update_isolated`: every instrument is in the state it reaches alone, on its own updates,
  with or without those that are skipped.
-/

namespace RoqPython

open Machine

/-- `UpdateType`. -/
inductive UpdateType
  | undefined
  | snapshot
  | incremental
  | stale
deriving DecidableEq

/-- `MarketByPriceUpdate`, with levels of type `L`. The members that nothing here looks at
are one member of type `R`. -/
structure MarketByPriceUpdate (L R : Type) where
  exchange : String
  symbol : String
  bids : List L
  asks : List L
  updateType : UpdateType
  others : R
deriving DecidableEq

/-- An update and its header, as they are given to `Shared.update`. `sequence_helper`
asserts that the type of the update is not `UNDEFINED`. -/
structure Delivery (L R : Type) where
  update : MarketByPriceUpdate L R
  header : Udp.Header
  defined : update.updateType ≠ .undefined

/-! ### The native sequencer -/

/-- What the native sequencer calls while it handles an update. -/
inductive NativeSequencer.Call (L : Type)
  | publishUpdate (bids asks : List L)
  | publishSnapshot (bids asks : List L) (sequence retries delay : ℕ)
  | requestSnapshot (retries : ℕ)

/-- `roq::market::mbp::Sequencer`, with states of type `σ`, and the native predicate on
headers that `use_snapshot` asks. -/
structure NativeSequencer (σ L : Type) where
  create : σ
  ready : σ → Bool
  snapshot (sequencer : σ) (bids asks : List L) (lastSequence : ℕ) (force : Bool) :
    σ × List (NativeSequencer.Call L)
  incremental (sequencer : σ) (bids asks : List L)
    (firstSequence lastSequence previousSequence : ℕ) : σ × List (NativeSequencer.Call L)
  isIncremental : Udp.Header → Bool

section

variable {σ L R : Type} (native : NativeSequencer σ L)

/-- `use_snapshot`. -/
def useSnapshot (header : Udp.Header) (sequencer : σ) : Bool :=
  if native.ready sequencer then native.isIncremental header
  else true  -- note! we're happy with a snapshot from either of incremental or snapshot

/-- The lambda `create` of `sequence_helper`. -/
def MarketByPriceUpdate.create (self : MarketByPriceUpdate L R) (bids asks : List L)
    (updateType : UpdateType) : MarketByPriceUpdate L R :=
  { self with bids, asks, updateType }

/-- The lambdas `publish_update`, `publish_snapshot` and `request_snapshot` of
`sequence_helper`. -/
def MarketByPriceUpdate.publish (self : MarketByPriceUpdate L R) :
    NativeSequencer.Call L → SequencerCall (MarketByPriceUpdate L R)
  | .publishUpdate bids asks => .publish (self.create bids asks .incremental)
  | .publishSnapshot bids asks _ _ _ => .publish (self.create bids asks .snapshot)
  | .requestSnapshot retries => .requestSnapshot retries

/-- `sequence_helper`: the sequencer after an update, and the calls that Python sees. -/
def sequenceHelper (sequencer : σ) (delivery : Delivery L R) :
    σ × List (SequencerCall (MarketByPriceUpdate L R)) :=
  let update := delivery.update
  let header := delivery.header
  match h : update.updateType with
  | .undefined => absurd h delivery.defined
  | .snapshot =>
      if useSnapshot native header sequencer then
        let (sequencer, calls) :=
          native.snapshot sequencer update.bids update.asks header.lastSequenceNumber
            true  -- note! use the snapshot even when we don't have any incremental history
        (sequencer, calls.map update.publish)
      else (sequencer, [])
  | .incremental =>
      let (sequencer, calls) :=
        native.incremental sequencer update.bids update.asks header.sequenceNumber
          header.sequenceNumber header.lastSequenceNumber
      (sequencer, calls.map update.publish)
  | .stale => (sequencer, [])

end

/-! ### Instruments -/

/-- An operation on a `MarketByPrice` object. -/
inductive BookOperation (L R : Type)
  | apply (update : MarketByPriceUpdate L R)
  | clear
deriving DecidableEq

/-- `Instrument`. -/
structure Instrument (σ L R : Type) where
  exchange : String
  symbol : String
  sequencer : σ
  marketByPrice : List (BookOperation L R)

/-- `Shared`: the lookup table. -/
structure Shared (σ L R : Type) where
  instruments : String × String → Option (Instrument σ L R)

section

variable {σ L R : Type} (native : NativeSequencer σ L)

/-- `Instrument.__init__`. -/
def Instrument.new (exchange symbol : String) : Instrument σ L R :=
  ⟨exchange, symbol, native.create, []⟩

/-- `Instrument._apply`. -/
def Instrument._apply (self : Instrument σ L R) (update : MarketByPriceUpdate L R) :
    Instrument σ L R :=
  { self with marketByPrice := self.marketByPrice ++ [.apply update] }

/-- `Instrument._reset`. -/
def Instrument._reset (self : Instrument σ L R) (_retries : ℕ) : Instrument σ L R :=
  { self with marketByPrice := self.marketByPrice ++ [.clear] }

/-- What an instrument does when the sequencer calls it. -/
def Instrument.call (self : Instrument σ L R) :
    SequencerCall (MarketByPriceUpdate L R) → Instrument σ L R
  | .publish update => self._apply update
  | .requestSnapshot retries => self._reset retries

/-- `Instrument.apply`. -/
def Instrument.apply (self : Instrument σ L R) (delivery : Delivery L R) :
    Instrument σ L R :=
  let (sequencer, calls) := sequenceHelper native self.sequencer delivery
  calls.foldl Instrument.call { self with sequencer }

/-- The key of an update in the lookup table. -/
def Delivery.key (delivery : Delivery L R) : String × String :=
  (delivery.update.exchange, delivery.update.symbol)

/-- `Shared._get_instrument`. -/
def Shared._getInstrument (self : Shared σ L R) (key : String × String) : Instrument σ L R :=
  match self.instruments key with
  | some instrument => instrument
  | none => Instrument.new native key.1 key.2

/-- `Shared.update`. -/
def Shared.update (self : Shared σ L R) (delivery : Delivery L R) : Shared σ L R :=
  let instrument := self._getInstrument native delivery.key
  ⟨Function.update self.instruments delivery.key (some (instrument.apply native delivery))⟩

/-- `Shared.__init__`. -/
def Shared.new : Shared σ L R := ⟨fun _ => none⟩

end

/-! ### One update -/

section

variable {σ L R : Type} {native : NativeSequencer σ L} {self : Instrument σ L R}
  {delivery : Delivery L R}

/-- The operation on the order book that a call of the sequencer ends in. -/
def SequencerCall.operation : SequencerCall (MarketByPriceUpdate L R) → BookOperation L R
  | .publish update => .apply update
  | .requestSnapshot _ => .clear

/-- The calls of the sequencer become operations, in order, and change nothing else. -/
theorem foldl_call (calls : List (SequencerCall (MarketByPriceUpdate L R)))
    (self : Instrument σ L R) :
    calls.foldl Instrument.call self =
      { self with
        marketByPrice := self.marketByPrice ++ calls.map SequencerCall.operation } := by
  induction calls generalizing self with
  | nil => simp
  | cons call calls ih =>
      rw [List.foldl_cons, ih]
      cases call with
      | publish update => simp [Instrument.call, Instrument._apply, SequencerCall.operation]
      | requestSnapshot retries =>
          simp [Instrument.call, Instrument._reset, SequencerCall.operation]

/-- What an update does to an instrument. -/
theorem Instrument.apply_eq :
    self.apply native delivery =
      { self with
        sequencer := (sequenceHelper native self.sequencer delivery).1
        marketByPrice := self.marketByPrice ++
          (sequenceHelper native self.sequencer delivery).2.map SequencerCall.operation } := by
  exact foldl_call _ _

/-- Whether an update is one that an instrument takes no notice of: a stale one, or a
snapshot from the snapshot channel while the sequencer is ready. -/
def Instrument.skipped (native : NativeSequencer σ L) (self : Instrument σ L R)
    (delivery : Delivery L R) : Bool :=
  match delivery.update.updateType with
  | .stale => true
  | .snapshot =>
      native.ready self.sequencer && !native.isIncremental delivery.header
  | _ => false

/-- The sequencer is not reached by an update that is skipped. -/
theorem sequenceHelper_of_skipped (h : self.skipped native delivery = true) :
    sequenceHelper native self.sequencer delivery = (self.sequencer, []) := by
  simp only [Instrument.skipped] at h
  simp only [sequenceHelper]
  split at h
  case h_1 hstale => split <;> simp_all
  case h_2 hsnapshot =>
    obtain ⟨hready, hincremental⟩ := Bool.and_eq_true_iff.mp h
    have huse : useSnapshot native delivery.header self.sequencer = false := by
      rw [useSnapshot, if_pos hready]
      simpa using hincremental
    split <;> simp_all
  case h_3 => cases h

/-- **Late snapshots.** A skipped update leaves the sequencer and the order book alone. -/
theorem Instrument.apply_of_skipped (h : self.skipped native delivery = true) :
    self.apply native delivery = self := by
  rw [Instrument.apply_eq, sequenceHelper_of_skipped h]
  simp

/-- What the sequencer publishes for an update is of the exchange and symbol of the
update. -/
theorem publish_own {sequencer : σ} {update : MarketByPriceUpdate L R}
    (h : .publish update ∈ (sequenceHelper native sequencer delivery).2) :
    (update.exchange, update.symbol) = delivery.key := by
  have hown : ∀ calls : List (NativeSequencer.Call L),
      .publish update ∈ calls.map delivery.update.publish →
        (update.exchange, update.symbol) = delivery.key := by
    intro calls hmem
    obtain ⟨call, -, hcall⟩ := List.mem_map.mp hmem
    cases call <;> cases hcall <;> rfl
  simp only [sequenceHelper] at h
  split at h
  case h_1 hundefined => exact absurd hundefined delivery.defined
  case h_2 =>
    split at h
    · exact hown _ h
    · cases h
  case h_3 => exact hown _ h
  case h_4 => cases h

end

/-! ### Runs -/

section

variable {σ L R : Type} (native : NativeSequencer σ L)

/-- What an update does to the entry of its key in the lookup table. -/
def Shared.entry (key : String × String) (entry : Option (Instrument σ L R))
    (delivery : Delivery L R) : Option (Instrument σ L R) :=
  some ((entry.getD (Instrument.new native key.1 key.2)).apply native delivery)

/-- An update goes to the entry of its key. -/
theorem Shared.update_instruments (self : Shared σ L R) (delivery : Delivery L R) :
    (self.update native delivery).instruments =
      keyedStep Delivery.key (Shared.entry native) self.instruments delivery := by
  rw [keyedStep, Shared.entry, Shared.update, Shared._getInstrument]
  cases self.instruments delivery.key <;> rfl

/-- The entry of a key after a run: it is given the updates with that key. -/
theorem Shared.foldl_instruments (self : Shared σ L R) (deliveries : List (Delivery L R))
    (key : String × String) :
    (deliveries.foldl (Shared.update native) self).instruments key =
      (deliveries.filter (·.key = key)).foldl (Shared.entry native key)
        (self.instruments key) := by
  have hrun : (deliveries.foldl (Shared.update native) self).instruments =
      deliveries.foldl (keyedStep Delivery.key (Shared.entry native)) self.instruments :=
    (List.foldl_hom Shared.instruments fun self delivery =>
      (self.update_instruments native delivery).symm).symm
  rw [hrun, foldl_keyedStep]

/-- There is no entry before the first update with a key, and then it is a new instrument that
was given the updates. -/
theorem Shared.foldl_entry (key : String × String) (own : List (Delivery L R)) :
    own.foldl (Shared.entry native key) none =
      if own = [] then none
      else some (own.foldl (Instrument.apply native) (Instrument.new native key.1 key.2)) := by
  cases own with
  | nil => rfl
  | cons delivery own =>
      rw [if_neg (List.cons_ne_nil _ _), List.foldl_cons, List.foldl_cons]
      exact List.foldl_hom some fun instrument delivery => rfl

/-- The entry of a key after a run from an empty lookup table. -/
theorem Shared.instruments_foldl (deliveries : List (Delivery L R)) (key : String × String) :
    (deliveries.foldl (Shared.update native) Shared.new).instruments key =
      if deliveries.filter (·.key = key) = [] then none
      else some ((deliveries.filter (·.key = key)).foldl (Instrument.apply native)
        (Instrument.new native key.1 key.2)) :=
  (Shared.new.foldl_instruments native deliveries key).trans (Shared.foldl_entry native key _)

/-- **Own updates.** Every update that was applied to an order book is of the exchange and
symbol of that order book. -/
theorem book_own (deliveries : List (Delivery L R)) {key : String × String}
    {instrument : Instrument σ L R}
    (h : (deliveries.foldl (Shared.update native) Shared.new).instruments key =
      some instrument) {update : MarketByPriceUpdate L R}
    (hupdate : .apply update ∈ instrument.marketByPrice) :
    (update.exchange, update.symbol) = key := by
  rw [Shared.instruments_foldl] at h
  split at h
  · cases h
  · obtain rfl := Option.some.inj h
    refine foldl_invariant (Q := fun delivery : Delivery L R => delivery.key = key)
      (P := fun self : Instrument σ L R => ∀ update, .apply update ∈ self.marketByPrice →
        (update.exchange, update.symbol) = key) ?_ ?_ ?_ update hupdate
    · intro self delivery hself hkey update hmem
      rw [Instrument.apply_eq] at hmem
      rcases List.mem_append.mp hmem with hold | hnew
      · exact hself update hold
      · obtain ⟨call, hcall, hoperation⟩ := List.mem_map.mp hnew
        cases call with
        | publish published =>
            cases hoperation
            exact (publish_own hcall).trans hkey
        | requestSnapshot retries => cases hoperation
    · intro delivery hdelivery
      simpa using (List.mem_filter.mp hdelivery).2
    · intro update hmem
      cases hmem

/-- **Isolation.** After any run over any number of instruments, each of them has the
sequencer and the order book of an instrument that is given its own updates only; and these
are the same when the updates that it skips are deleted. -/
theorem update_isolated (deliveries : List (Delivery L R)) (key : String × String) :
    let own := deliveries.filter (·.key = key)
    let fresh := Instrument.new native key.1 key.2
    (deliveries.foldl (Shared.update native) Shared.new).instruments key =
        (if own = [] then none else some (own.foldl (Instrument.apply native) fresh)) ∧
      (prune (Instrument.apply native) (Instrument.skipped native) fresh own).foldl
          (Instrument.apply native) fresh =
        own.foldl (Instrument.apply native) fresh := by
  refine ⟨Shared.instruments_foldl native deliveries key, ?_⟩
  exact foldl_prune (fun _ _ => Instrument.apply_of_skipped) _ _

end

end RoqPython
