import RoqPython.Callbacks
import RoqPython.MarketByPrice

/-!
# Order Books of the Clients

`samples/strategy.py`, `samples/event_log_reader.py` and `samples/event_log_multiplexer.py`
keep a `MarketByPrice` object for each exchange and symbol, and apply every update to the one
of its key. The native order book is an arbitrary machine, which may raise. So may everything
else that a callback does.

## Main results

* `performs_updateCache`: an update is applied to the order book of its key, unless something
  raises before.
* `foldl_applyUpdate`: the order book of a key is given the updates with that key.
* `performs_updates`: a run performs what the callback does for the updates that are fed.
-/

namespace RoqPython.Client

open Machine Raising

/-! ### The callbacks -/

/-- `roq::cache::MarketByPrice`, with states of type `σ` and layers of type `K`. The
constructor and `extract` return nothing when they raise; an `apply` that raises may have
changed the order book. -/
structure NativeBook (σ L R K : Type) where
  create (exchange symbol : String) : Option σ
  apply (mbp : σ) (update : MarketByPriceUpdate L R) : σ × Bool
  extract (mbp : σ) (depth : ℕ) : Option (List K)

/-- The value of an event. -/
inductive Value (L R : Type)
  | marketByPriceUpdate (update : MarketByPriceUpdate L R)
  | other (type : EventType) (h : type ≠ .marketByPriceUpdate)

/-- The type of the value. -/
def Value.type {L R : Type} : Value L R → EventType
  | .marketByPriceUpdate _ => .marketByPriceUpdate
  | .other type _ => type

/-- What goes wrong in an invocation of the callback, apart from the order book: one of the
two `print`s raises, or `send` does. -/
structure Faults where
  print : Bool
  depth : Bool
  send : Bool

/-- The order books by exchange and symbol. -/
abbrev Cache (σ : Type) := String × String → Option σ

section

variable {σ L R K M τ : Type} (native : NativeBook σ L R K)

/-- The key of an update in the cache. -/
def key (update : MarketByPriceUpdate L R) : String × String := (update.exchange, update.symbol)

/-- The statements on order books, which are the same in the callbacks of all the samples. -/
def updateCache (cache : Cache σ) (update : MarketByPriceUpdate L R) (faults : Faults) :
    Cache σ × Option Exception :=
  andThen (cache, raise faults.print) fun cache =>
  -- update cache
  match (cache (key update)).or (native.create update.exchange update.symbol) with
  | none => (cache, some .errorAlreadySet)
  | some mbp =>
      let (mbp, raises) := native.apply mbp update
      andThen (Function.update cache (key update) (some mbp), raise raises) fun cache =>
      -- extract top 2 layers
      (cache, raise ((native.extract mbp 2).isNone || faults.depth))

/-! ### What is done to the order books -/

/-- What an update does to the entry of its key in the cache. -/
def entry (key : String × String) (entry : Option σ) (update : MarketByPriceUpdate L R) :
    Option σ :=
  (entry.or (native.create key.1 key.2)).map fun mbp => (native.apply mbp update).1

/-- An update is applied to the order book of its key. -/
def applyUpdate : Cache σ → MarketByPriceUpdate L R → Cache σ := keyedStep key (entry native)

/-- **An update.** -/
theorem performs_updateCache (cache : Cache σ) (update : MarketByPriceUpdate L R)
    (faults : Faults) :
    Performs (applyUpdate native) cache [update] (updateCache native cache update faults) := by
  refine Performs.skip _ fun cache => ?_
  split
  case h_1 => exact Performs.raised _ _
  case h_2 mbp hmbp =>
    refine Performs.cons ?_ fun cache => Performs.nothing _
    rw [applyUpdate, keyedStep, entry]
    exact congrArg (Function.update cache (key update))
      (congrArg (Option.map fun mbp => (native.apply mbp update).1) hmbp).symm

/-- The order book under a key, when these updates with the key were applied. -/
def book (key : String × String) (updates : List (MarketByPriceUpdate L R)) : Option σ :=
  if updates = [] then none
  else (native.create key.1 key.2).map fun mbp =>
    updates.foldl (fun mbp update => (native.apply mbp update).1) mbp

/-- An order book is created for the first update of its key, and is given all of them. -/
theorem foldl_entry (k : String × String) (updates : List (MarketByPriceUpdate L R)) :
    updates.foldl (entry native k) none = book native k updates := by
  cases updates with
  | nil => rfl
  | cons update updates =>
      rw [book, if_neg (List.cons_ne_nil _ _)]
      cases hcreate : native.create k.1 k.2 with
      | none => exact List.foldl_fixed' (fun update => by simp [entry, hcreate]) _
      | some mbp =>
          rw [Option.map_some, List.foldl_cons, List.foldl_cons, entry, hcreate]
          exact List.foldl_hom some fun mbp update => rfl

/-- **Order books.** The order book of a key is given the updates with that key, in order. -/
theorem foldl_applyUpdate (updates : List (MarketByPriceUpdate L R)) (k : String × String) :
    updates.foldl (applyUpdate native) (fun _ => none) k =
      book native k (updates.filter (key · = k)) := by
  rw [applyUpdate, foldl_keyedStep]
  exact foldl_entry native k _

/-! ### What is fed -/

/-- What is fed to a callback that keeps order books. -/
abbrev MarketFed (M L R : Type) := Fed M (Value L R) Faults

/-- The update that an item carries. -/
def Fed.update? : MarketFed M L R → Option (MarketByPriceUpdate L R)
  | .event _ (.marketByPriceUpdate update) _ => some update
  | _ => none

/-- The updates that are fed. -/
def updates (fed : List (MarketFed M L R)) : List (MarketByPriceUpdate L R) :=
  fed.filterMap Fed.update?

/-- What a value asks for, when updates do. -/
def Value.asks {ι : Type} (asks : MarketByPriceUpdate L R → List ι) : Value L R → List ι
  | .marketByPriceUpdate update => asks update
  | .other _ _ => []

/-- The items ask for what their updates ask for. -/
theorem flatMap_asks {ι : Type} (asks : MarketByPriceUpdate L R → List ι)
    (fed : List (MarketFed M L R)) :
    fed.flatMap (Fed.asks fun _ value => value.asks asks) = (updates fed).flatMap asks := by
  induction fed with
  | nil => rfl
  | cons x fed ih =>
      rw [List.flatMap_cons, ih, updates, updates, List.filterMap_cons]
      cases x with
      | raise => rfl
      | event messageInfo value faults => cases value <;> rfl

/-- **A run.** When a callback does nothing but print for other events, a run performs what it
does for the updates. -/
theorem performs_updates {path : Path (Event M (Value L R))}
    {overrides : EventType → Option Override}
    {callback : τ → M → Value L R → Faults → τ × Option Exception} {ι : Type}
    {operate : τ → ι → τ} {asks : MarketByPriceUpdate L R → List ι}
    (hpath : path.toHandler = Handler.ofOverrides overrides)
    (hrethrow : path.rethrow = catchErrorAlreadySet)
    (hforward : overrides .marketByPriceUpdate = some .forward)
    (hcallback : ∀ self messageInfo value faults, Performs operate self (value.asks asks)
      (callback self messageInfo value faults))
    (self : τ) (calls : List (List (MarketFed M L R))) :
    Performs operate self ((updates calls.flatten).flatMap asks)
      (run (run (drive Value.type path callback)) self calls) := by
  rw [← flatMap_asks]
  refine performs_run hpath hrethrow ?_ hcallback self calls
  rintro messageInfo (update | ⟨type, htype⟩) hne
  · exact ⟨hforward, rfl⟩
  · exact absurd rfl hne

end

/-! ### A sample of updates -/

/-- An order book that counts its updates. -/
def sampleBook : NativeBook ℕ Unit Unit Unit where
  create _ _ := some 0
  apply mbp _ := (mbp + 1, false)
  extract _ _ := some []

/-- An incremental update of a symbol. -/
def sampleUpdate (exchange symbol : String) : MarketFed Unit Unit Unit :=
  .event () (.marketByPriceUpdate ⟨exchange, symbol, [], [], .incremental, ()⟩)
    ⟨false, false, false⟩

end RoqPython.Client
