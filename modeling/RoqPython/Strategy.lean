import RoqPython.Books
import RoqPython.Fix.Types

/-!
# The Strategy Sample

`samples/strategy.py` loops over `dispatcher.dispatch(strategy)`. Its callback keeps an order
book for each exchange and symbol, counts the updates of order books, and cancels all orders of
an account at the 20th. The first exception ends the loop.

## Main results

* `Strategy.foldl_operate`: what a part of the operations does to a strategy.
* `Strategy.loop_books`: whatever raises, the order books are those of an initial segment of
  the updates, and all orders are cancelled at most once.
-/

namespace RoqPython.Client

open Machine Raising

/-- `roq::CancelAllOrders`. -/
structure CancelAllOrders where
  account : String
  orderId : ℕ
  exchange : String
  symbol : String
  strategyId : ℕ
  side : Fix.Enum .side
deriving DecidableEq

/-- `Strategy`, and what was sent by its dispatcher. -/
structure Strategy (σ : Type) where
  mbpCache : Cache σ
  count : ℕ
  sent : List (CancelAllOrders × UInt8)

namespace Strategy

variable {σ L R K M : Type} (native : NativeBook σ L R K)

/-- `Strategy.__init__`. -/
def new : Strategy σ := ⟨fun _ => none, 0, []⟩

/-- A strategy with another cache. -/
def withCache (self : Strategy σ) (mbpCache : Cache σ) : Strategy σ := { self with mbpCache }

@[simp]
theorem count_withCache (self : Strategy σ) (mbpCache : Cache σ) :
    (self.withCache mbpCache).count = self.count := rfl

/-- The types for which there is an overload of `callback`. For any other type `typedispatch`
returns its first argument. -/
def overloads : EventType → Bool
  | .start | .stop | .connected | .disconnected | .downloadBegin | .downloadEnd
  | .gatewaySettings | .streamStatus | .externalLatency | .rateLimitTrigger | .referenceData
  | .marketStatus | .topOfBook | .marketByPriceUpdate | .tradeSummary | .statisticsUpdate
  | .orderAck | .orderUpdate | .tradeUpdate | .positionUpdate | .fundsUpdate
  | .customMetricsUpdate => true
  | _ => false

/-- `dispatcher.cancel_all_orders`: the native client is called, and may raise. The request is
taken as sent in either case. -/
def cancelAllOrders (self : Strategy σ) (account : String) (source : UInt8) (raises : Bool) :
    Strategy σ × Option Exception :=
  let cancelAllOrders : CancelAllOrders :=
    { account, orderId := 0, exchange := "", symbol := "", strategyId := 0, side := default }
  ({ self with sent := self.sent ++ [(cancelAllOrders, source)] }, raise raises)

/-- `Strategy.callback`. All overloads but that of `MarketByPriceUpdate` only print. -/
def callback (self : Strategy σ) (_messageInfo : M) (value : Value L R) (faults : Faults) :
    Strategy σ × Option Exception :=
  match value with
  | .other type _ => (self, raise (overloads type && faults.print))
  | .marketByPriceUpdate update =>
      let (mbpCache, exception) := updateCache native self.mbpCache update faults
      andThen (self.withCache mbpCache, exception) fun self =>
      -- cancel all orders
      let self := { self with count := self.count + 1 }
      if self.count = 20 then self.cancelAllOrders "A1" 0 faults.send
      else (self, none)

/-- `while dispatcher.dispatch(strategy)`: what the native client feeds in each of the calls,
the last of which returns `false`. -/
def loop (calls : List (List (MarketFed M L R))) : Strategy σ × Option Exception :=
  run (run (drive Value.type Dispatcher.path (callback native))) new calls

/-! ### Operations -/

/-- What an update asks for: it is applied to an order book, and it is counted. -/
inductive Operation (L R : Type)
  | apply (update : MarketByPriceUpdate L R)
  | count

/-- The operations. The 20th update that is counted cancels all orders. -/
def operate (self : Strategy σ) : Operation L R → Strategy σ
  | .apply update => self.withCache (applyUpdate native self.mbpCache update)
  | .count =>
      let self := { self with count := self.count + 1 }
      if self.count = 20 then (self.cancelAllOrders "A1" 0 false).1 else self

/-- What an update asks for, in order. -/
def asks (update : MarketByPriceUpdate L R) : List (Operation L R) := [.apply update, .count]

@[simp]
theorem count_operate (self : Strategy σ) :
    (operate native self .count).count = self.count + 1 := by
  by_cases h : self.count + 1 = 20
  · simp [operate, cancelAllOrders, h]
  · simp [operate, h]

@[simp]
theorem mbpCache_operate (self : Strategy σ) :
    (operate native self .count).mbpCache = self.mbpCache := by
  by_cases h : self.count + 1 = 20
  · simp [operate, cancelAllOrders, h]
  · simp [operate, h]

/-- An update is applied and counted, unless something raises before. Other values change
nothing. -/
theorem performs_callback (self : Strategy σ) (messageInfo : M) (value : Value L R)
    (faults : Faults) :
    Performs (operate native) self (value.asks asks)
      (self.callback native messageInfo value faults) := by
  cases value with
  | other type htype => exact Performs.nothing _
  | marketByPriceUpdate update =>
      have hcache : Performs (operate native) self [.apply update]
          (self.withCache (updateCache native self.mbpCache update faults).1,
            (updateCache native self.mbpCache update faults).2) :=
        (performs_updateCache native self.mbpCache update faults).map self.withCache
          Operation.apply fun _ _ => rfl
      refine hcache.andThen fun self => Performs.single ?_
      by_cases h : self.count + 1 = 20
      · simp [operate, cancelAllOrders, h]
      · simp [operate, h]

/-- **Initial segments.** A part of the operations that updates ask for applies the first of
the updates, and counts all of them but perhaps the last. -/
theorem foldl_operate (self : Strategy σ) (updates : List (MarketByPriceUpdate L R))
    {performed : List (Operation L R)} (h : performed <+: updates.flatMap asks) :
    ∃ applied, applied <+: updates ∧
      (performed.foldl (operate native) self).mbpCache =
        applied.foldl (applyUpdate native) self.mbpCache ∧
      (performed.foldl (operate native) self).count ≤ self.count + applied.length ∧
      self.count + applied.length ≤ (performed.foldl (operate native) self).count + 1 ∧
      (performed = updates.flatMap asks → applied = updates ∧
        (performed.foldl (operate native) self).count = self.count + updates.length) := by
  induction updates generalizing self performed with
  | nil =>
      obtain rfl := List.prefix_nil.mp h
      exact ⟨[], List.prefix_rfl, rfl, Nat.le_refl _, by simp, fun _ => ⟨rfl, rfl⟩⟩
  | cons update updates ih =>
      have hasks : (update :: updates).flatMap asks =
          .apply update :: .count :: updates.flatMap asks := rfl
      rw [hasks] at h ⊢
      -- Nothing was performed, or the update was applied only, or it was counted as well.
      rcases List.prefix_cons_iff.mp h with rfl | ⟨counted, rfl, hcounted⟩
      · exact ⟨[], List.nil_prefix, rfl, Nat.le_refl _, by simp, nofun⟩
      rcases List.prefix_cons_iff.mp hcounted with rfl | ⟨rest, rfl, hrest⟩
      · exact ⟨[update], by simp, rfl, by simp [operate], by simp [operate], by simp⟩
      obtain ⟨applied, happlied, hcache, hle, hge, hall⟩ :=
        ih (operate native (operate native self (.apply update)) .count) hrest
      have hcount : (operate native self (.apply update)).count = self.count := rfl
      rw [count_operate, hcount] at hle hge hall
      rw [mbpCache_operate] at hcache
      refine ⟨update :: applied, List.cons_prefix_cons.mpr ⟨rfl, happlied⟩, hcache, ?_, ?_, ?_⟩
      · rw [List.length_cons, List.foldl_cons, List.foldl_cons]
        omega
      · rw [List.length_cons, List.foldl_cons, List.foldl_cons]
        omega
      · intro heq
        injection heq with _ heq
        injection heq with _ heq
        obtain ⟨rfl, hlength⟩ := hall heq
        rw [List.length_cons, List.foldl_cons, List.foldl_cons]
        exact ⟨rfl, by omega⟩

/-- The requests that a strategy has sent when it has counted some updates. -/
def requests (count : ℕ) : List (CancelAllOrders × UInt8) :=
  if 20 ≤ count then [(⟨"A1", 0, "", "", 0, default⟩, 0)] else []

/-- The request is sent with the 20th update, and with no other. -/
theorem sent_operate {self : Strategy σ} (h : self.sent = requests self.count)
    (operation : Operation L R) :
    (operate native self operation).sent = requests (operate native self operation).count := by
  cases operation with
  | apply update => exact h
  | count =>
      by_cases hcount : self.count + 1 = 20
      · have hnone : self.sent = [] := by
          rw [h, requests, if_neg (by omega)]
        simp [operate, cancelAllOrders, hcount, hnone, requests]
      · have hle : 20 ≤ self.count + 1 ↔ 20 ≤ self.count := by omega
        simp [operate, hcount, h, requests, hle]

/-! ### The loop -/

/-- The loop performs what the updates ask for. -/
theorem performs_loop (calls : List (List (MarketFed M L R))) :
    Performs (operate native) (new : Strategy σ) ((updates calls.flatten).flatMap asks)
      (loop native calls) :=
  performs_updates rfl rfl rfl (performs_callback native) new calls

/-- **Initial segments.** The order books of the loop, and its count. -/
theorem loop_applied (calls : List (List (MarketFed M L R))) :
    ∃ applied, applied <+: updates calls.flatten ∧
      (∀ k, (loop native calls).1.mbpCache k = book native k (applied.filter (key · = k))) ∧
      (loop native calls).1.count ≤ applied.length ∧
      applied.length ≤ (loop native calls).1.count + 1 ∧
      ((loop native calls).2 = none → applied = updates calls.flatten ∧
        (loop native calls).1.count = applied.length) := by
  obtain ⟨performed, hperformed, hstate, hall⟩ := performs_loop native calls
  obtain ⟨applied, happlied, hcache, hle, hge, hcounted⟩ :=
    foldl_operate native new (updates calls.flatten) hperformed
  rw [← hstate] at hcache hle hge hcounted
  refine ⟨applied, happlied, ?_, ?_, ?_, ?_⟩
  · intro k
    rw [hcache]
    exact foldl_applyUpdate native applied k
  · simpa [new] using hle
  · simpa [new] using hge
  · intro hnone
    obtain ⟨rfl, hcount⟩ := hcounted (hall hnone)
    exact ⟨rfl, by simpa [new] using hcount⟩

/-- The requests of the loop are those of its count. -/
theorem sent_loop (calls : List (List (MarketFed M L R))) :
    (loop native calls).1.sent = requests (loop native calls).1.count := by
  obtain ⟨performed, -, hstate, -⟩ := performs_loop native calls
  rw [hstate]
  exact foldl_invariant (P := fun self : Strategy σ => self.sent = requests self.count)
    (Q := fun _ => True) (fun self operation h _ => sent_operate native h operation)
    (fun _ _ => trivial) rfl

/-- An item raises what the native client raises and what Python code raises: every event that
`Bridge2` forwards can be converted. -/
theorem drive_snd (self : Strategy σ) (fed : MarketFed M L R) :
    (drive Value.type Dispatcher.path (callback native) self fed).2 ≠ some .runtimeError ∧
      (drive Value.type Dispatcher.path (callback native) self fed).2 ≠ some .castError := by
  cases fed with
  | raise => exact ⟨nofun, nofun⟩
  | event messageInfo value faults =>
      have hpath : (Dispatcher.path (M := M) (V := Value L R)).toHandler =
          Handler.ofOverrides Bridge2.overrides := rfl
      rw [drive_event hpath rfl]
      split
      case isTrue hforward =>
        rw [if_pos (Bridge2.registered_of_forward _ hforward)]
        cases (self.callback native messageInfo value faults).2
        · exact ⟨nofun, nofun⟩
        · exact ⟨nofun, nofun⟩
      case isFalse => exact ⟨nofun, nofun⟩

/-- **The sample.** However the native client feeds the events, and whatever raises:
the order book of every exchange and symbol is the one that is given its own updates, of
an initial segment of the updates that were fed, in their order; this segment is counted, but
for the last update when something raised; and the orders of the account are all cancelled
once when 20 updates have been counted, and not before or again. When nothing raises, the
segment is everything that was fed. What is raised comes from Python or from the native
client.

`sent` has the request also when `send` raises: the 20th update is counted before. The callback
keeps none of its arguments, so that no reference check fails. -/
theorem loop_books (calls : List (List (MarketFed M L R))) :
    let result := loop native calls
    ∃ applied, applied <+: updates calls.flatten ∧
      (∀ k, result.1.mbpCache k = book native k (applied.filter (key · = k))) ∧
      result.1.count ≤ applied.length ∧ applied.length ≤ result.1.count + 1 ∧
      result.1.sent = requests result.1.count ∧
      (result.2 = none → applied = updates calls.flatten ∧
        result.1.count = applied.length) ∧
      result.2 ≠ some .runtimeError ∧ result.2 ≠ some .castError := by
  obtain ⟨applied, happlied, hcache, hle, hge, hall⟩ := loop_applied native calls
  refine ⟨applied, happlied, hcache, hle, hge, sent_loop native calls, hall, ?_, ?_⟩
  · intro hraised
    obtain ⟨s, call, -, hcall⟩ := exists_of_run_eq_some hraised
    obtain ⟨self, x, -, hx⟩ := exists_of_run_eq_some hcall
    exact (drive_snd native self x).1 hx
  · intro hraised
    obtain ⟨s, call, -, hcall⟩ := exists_of_run_eq_some hraised
    obtain ⟨self, x, -, hx⟩ := exists_of_run_eq_some hcall
    exact (drive_snd native self x).2 hx

/-- Twenty updates of one instrument, the last of which cancels all orders. -/
example :
    let result := loop sampleBook (.replicate 20 [sampleUpdate "deribit" "BTC-PERPETUAL"])
    result.2 = none ∧ result.1.count = 20 ∧
      result.1.mbpCache ("deribit", "BTC-PERPETUAL") = some 20 ∧
      result.1.sent = [(⟨"A1", 0, "", "", 0, default⟩, 0)] := by
  decide

end Strategy

end RoqPython.Client
