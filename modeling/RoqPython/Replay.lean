import RoqPython.Lib.Transducer
import RoqPython.Strategy

/-!
# Replays and Live Order Books

`samples/event_log_reader.py` and `samples/event_log_multiplexer.py` replay event logs with the
same callback, one of them a single log and the other one several at once. How the native
multiplexer merges its logs is its own affair.

An order book whose updates are all in one of the logs does not depend on the merge: it is the
one that the reader makes of that log alone, and the one of a live strategy that was fed the
same updates.

## Main results

* `replay_books`: the order books of a replay.
* `replays_agree_live`: multiplexer, reader and strategy agree on an order book.
-/

namespace RoqPython.Client

open Machine Raising

namespace Replay

variable {σ L R K M ι : Type} (native : NativeBook σ L R K)

/-- The types for which there is an overload of `callback`. -/
def overloads : EventType → Bool
  | .gatewaySettings | .streamStatus | .externalLatency | .rateLimitTrigger | .gatewayStatus
  | .referenceData | .marketStatus | .topOfBook | .marketByPriceUpdate | .tradeSummary
  | .statisticsUpdate | .createOrder | .modifyOrder | .cancelOrder | .cancelAllOrders
  | .orderAck | .orderUpdate | .tradeUpdate | .positionUpdate | .fundsUpdate
  | .customMetricsUpdate => true
  | _ => false

/-- `callback`, with `MBP_CACHE`. All overloads but that of `MarketByPriceUpdate` only
print. -/
def callback (cache : Cache σ) (_messageInfo : M) (value : Value L R) (faults : Faults) :
    Cache σ × Option Exception :=
  match value with
  | .other type _ => (cache, raise (overloads type && faults.print))
  | .marketByPriceUpdate update => updateCache native cache update faults

/-- `test_event_log_reader`: `reader.dispatch(callback)` loops over native calls. It returns
`false` in the end, so that it is called once. -/
def reader (log : List (List (MarketFed M L R))) : Cache σ × Option Exception :=
  run (run (drive Value.type EventLogReader.path (callback native))) (fun _ => none) log

/-- `test_event_log_multiplexer`. -/
def multiplexer (logs : List (List (MarketFed M L R))) : Cache σ × Option Exception :=
  run (run (drive Value.type EventLogMultiplexer.path (callback native))) (fun _ => none) logs

/-- An update is applied, unless something raises before. Other values change nothing. -/
theorem performs_callback (cache : Cache σ) (messageInfo : M) (value : Value L R)
    (faults : Faults) :
    Performs (applyUpdate native) cache (value.asks fun update => [update])
      (callback native cache messageInfo value faults) := by
  cases value with
  | other type htype => exact Performs.nothing _
  | marketByPriceUpdate update => exact performs_updateCache native cache update faults

/-- **Replays.** The order books of a replay that returns are given all updates of their key;
those of one that raises, the ones of an initial segment. -/
theorem replay_books {path : Path (Event M (Value L R))} {overrides : EventType → Option Override}
    (hpath : path.toHandler = Handler.ofOverrides overrides)
    (hrethrow : path.rethrow = catchErrorAlreadySet)
    (hforward : overrides .marketByPriceUpdate = some .forward)
    (log : List (List (MarketFed M L R))) :
    let result := run (run (drive Value.type path (callback native))) (fun _ => none) log
    ∃ applied, applied <+: updates log.flatten ∧
      (∀ k, result.1 k = book native k (applied.filter (key · = k))) ∧
      (result.2 = none → applied = updates log.flatten) := by
  have hrun : Performs (applyUpdate native) (fun _ => none)
      ((updates log.flatten).flatMap fun update => [update])
      (run (run (drive Value.type path (callback native))) (fun _ => none) log) :=
    performs_updates hpath hrethrow hforward (performs_callback native) _ log
  rw [List.flatMap_singleton'] at hrun
  obtain ⟨applied, happlied, hstate, hall⟩ := hrun
  refine ⟨applied, happlied, fun k => ?_, hall⟩
  rw [hstate]
  exact foldl_applyUpdate native applied k

/-- The order book of a replay that returns. -/
theorem book_of_returns {path : Path (Event M (Value L R))}
    {overrides : EventType → Option Override}
    (hpath : path.toHandler = Handler.ofOverrides overrides)
    (hrethrow : path.rethrow = catchErrorAlreadySet)
    (hforward : overrides .marketByPriceUpdate = some .forward)
    {log : List (List (MarketFed M L R))}
    (hnone : (run (run (drive Value.type path (callback native))) (fun _ => none) log).2 = none)
    (k : String × String) :
    (run (run (drive Value.type path (callback native))) (fun _ => none) log).1 k =
      book native k ((updates log.flatten).filter (key · = k)) := by
  obtain ⟨applied, -, hbooks, hall⟩ := replay_books native hpath hrethrow hforward log
  rw [hbooks, hall hnone]

/-! ### Merged logs -/

/-- Whether an item carries an update of a key. -/
def carries (k : String × String) (fed : MarketFed M L R) : Bool := fed.update?.any (key · = k)

/-- The updates of a key are carried by the items that carry them. -/
theorem filter_updates (fed : List (MarketFed M L R)) (k : String × String) :
    (updates fed).filter (key · = k) = updates (fed.filter (carries k)) := by
  rw [updates, updates, List.filter_filterMap, List.filterMap_filter]
  refine List.filterMap_congr fun x _ => ?_
  rw [carries]
  cases x.update? with
  | none => rfl
  | some update => by_cases hkey : key update = k <;> simp [hkey]

variable [DecidableEq ι]

/-- The updates of a key that is in one log only come from the merge as from that log. -/
theorem filter_updates_merged {logs : ι → List (MarketFed M L R)}
    {merged : List (ι × MarketFed M L R)}
    (hmerged : ∀ i, select i merged = logs i) {i : ι} {k : String × String}
    (hown : ∀ j ≠ i, ∀ update ∈ updates (logs j), key update ≠ k) :
    (updates (merged.map Prod.snd)).filter (key · = k) =
      (updates (logs i)).filter (key · = k) := by
  rw [filter_updates, filter_updates, ← hmerged i]
  refine congrArg updates (filter_of_select ?_)
  rintro ⟨j, x⟩ hx hcarries
  by_contra hj
  obtain ⟨update, hupdate, hkey⟩ := (Option.any_eq_true _ _).mp hcarries
  refine hown j hj update (List.mem_filterMap.mpr ⟨x, ?_, hupdate⟩) (of_decide_eq_true hkey)
  rw [← hmerged j]
  exact List.mem_map.mpr ⟨(j, x), List.mem_filter.mpr ⟨hx, by simp⟩, rfl⟩

/-- **Replays and live order books.** Several logs are merged in any way, and one of them has
all the updates of a key. When nothing raises, the order book of the key is the same after a
replay of all logs through the multiplexer, after a replay of this log through the reader, and
in a live strategy that was fed the same updates of the key in the same order. -/
theorem replays_agree_live (logs : ι → List (List (MarketFed M L R)))
    {merged : List (ι × MarketFed M L R)} (hmerged : ∀ i, select i merged = (logs i).flatten)
    {calls live : List (List (MarketFed M L R))}
    (hcalls : calls.flatten = merged.map Prod.snd) {i : ι} {k : String × String}
    (hown : ∀ j ≠ i, ∀ update ∈ updates (logs j).flatten, key update ≠ k)
    (hlive : (updates live.flatten).filter (key · = k) =
      (updates (logs i).flatten).filter (key · = k))
    (hmultiplexer : (multiplexer native calls).2 = none)
    (hreader : (reader native (logs i)).2 = none)
    (hloop : (Strategy.loop native live).2 = none) :
    (multiplexer native calls).1 k = (reader native (logs i)).1 k ∧
      (Strategy.loop native live).1.mbpCache k = (reader native (logs i)).1 k := by
  have hbook : (reader native (logs i)).1 k =
      book native k ((updates (logs i).flatten).filter (key · = k)) :=
    book_of_returns native rfl rfl rfl hreader k
  constructor
  · rw [hbook, ← filter_updates_merged hmerged hown, ← hcalls]
    exact book_of_returns native rfl rfl rfl hmultiplexer k
  · obtain ⟨applied, -, hbooks, -, -, hall⟩ := Strategy.loop_applied native live
    rw [hbook, hbooks, (hall hloop).1, hlive]

/-- A log of each of two exchanges. -/
def sampleLogs (i : Bool) : List (List (MarketFed Unit Unit Unit)) :=
  [[sampleUpdate (if i then "deribit" else "bitmex") "BTC-PERPETUAL"]]

/-- The order book of the one exchange, when the update of the other exchange comes first. -/
theorem replays_agree_live_sample :
    let calls := sampleLogs false ++ sampleLogs true
    let k := ("deribit", "BTC-PERPETUAL")
    (multiplexer sampleBook calls).1 k = (reader sampleBook (sampleLogs true)).1 k ∧
      (Strategy.loop sampleBook (sampleLogs true)).1.mbpCache k =
        (reader sampleBook (sampleLogs true)).1 k := by
  have hmerged : ∀ i, select i ((sampleLogs false).flatten.map (Prod.mk false) ++
      (sampleLogs true).flatten.map (Prod.mk true)) = (sampleLogs i).flatten := by
    intro i
    cases i <;> rfl
  refine replays_agree_live sampleBook sampleLogs hmerged rfl ?_ rfl rfl rfl rfl
  intro j hj update hupdate
  obtain rfl : j = false := by simpa using hj
  obtain rfl := List.mem_singleton.mp hupdate
  decide

end Replay

end RoqPython.Client
