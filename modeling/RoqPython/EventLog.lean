import RoqPython.Dispatch

/-!
# Replaying Event Logs

`EventLogReader` and `EventLogMultiplexer` replay a log through two handlers that were
written separately. With a callback that returns and keeps nothing, a replay invokes the
callback for the events that the handler forwards, in order, up to the first event that
cannot be converted.

A native reader and a native multiplexer may deliver one log in different chunks, one chunk
for each native call of the loop.

## Main results

* `replay_eq`: what a replay is, for a log whose forwarded events can all be converted.
* `replays_agree_iff`: the two replays of a log agree and come to its end exactly when the
  log has no event of risk limits.
-/

namespace RoqPython

open Pump

variable {M V : Type}

/-! ### Replays -/

/-- The arguments of an invocation. -/
def Happening.args : Happening (Event M V) → Option (M × V)
  | .invoked event _ _ => some (event.messageInfo, event.value)
  | .raised => none

/-- A replay with a callback that returns and keeps nothing: the arguments of the
invocations, and the exception that ended it. -/
def replay (path : Path (Event M V)) (chunks : List (List (Event M V))) :
    List (M × V) × Option Exception :=
  let (trace, exception) := path.loop (chunks.map fun chunk => chunk.map (.event · default))
  (trace.filterMap Happening.args, exception)

/-- The arguments of the events of a log that are forwarded. -/
def forwarded (overrides : EventType → Option Override) (log : List (Event M V)) :
    List (M × V) :=
  (log.filter fun event => overrides event.type = some .forward).map fun event =>
    (event.messageInfo, event.value)

theorem forwarded_append (overrides : EventType → Option Override) (xs ys : List (Event M V)) :
    forwarded overrides (xs ++ ys) = forwarded overrides xs ++ forwarded overrides ys := by
  rw [forwarded, List.filter_append, List.map_append]
  rfl

/-- A callback that returns and keeps nothing ends no dispatch. -/
theorem dispatch_default (refs : ℕ) : dispatch refs default = none := by
  simp [dispatch, default]

section

variable {path : Path (Event M V)} {overrides : EventType → Option Override}

/-- One event of a replay: its arguments if it is forwarded, nothing otherwise. -/
theorem handle_event (hpath : path.toHandler = Handler.ofOverrides overrides)
    {event : Event M V}
    (hevent : overrides event.type = some .forward → Module.registered event.type = true) :
    (path.handle (.event event default)).2 = none ∧
      (path.handle (.event event default)).1.filterMap Happening.args =
        forwarded overrides [event] := by
  rw [hpath]
  by_cases hforward : overrides event.type = some .forward
  · rw [handle_of_registered hforward (hevent hforward)]
    refine ⟨dispatch_default 2, ?_⟩
    simp [forwarded, hforward, Happening.args]
  · rw [handle_of_not_forward hforward]
    refine ⟨rfl, ?_⟩
    simp [forwarded, hforward]

/-- A replay is one call over the whole log. -/
theorem replay_eq_call (chunks : List (List (Event M V))) :
    replay path chunks =
      ((path.call (chunks.flatten.map (.event · default))).1.filterMap Happening.args,
        (path.call (chunks.flatten.map (.event · default))).2) := by
  rw [replay, Path.loop_eq_call, List.map_flatten]

/-- **Replays.** When the forwarded events of a log can all be converted, a replay hands
them to the callback in order, and comes to the end of the log. -/
theorem replay_eq (hpath : path.toHandler = Handler.ofOverrides overrides)
    {chunks : List (List (Event M V))}
    (hlog : ∀ event ∈ chunks.flatten, overrides event.type = some .forward →
      Module.registered event.type = true) :
    replay path chunks = (forwarded overrides chunks.flatten, none) := by
  have hquiet : ∀ item ∈ chunks.flatten.map (Item.event · default),
      (path.handle item).2 = none := by
    intro item hitem
    obtain ⟨event, hevent, rfl⟩ := List.mem_map.mp hitem
    exact (handle_event hpath (hlog event hevent)).1
  rw [replay_eq_call, Path.call, pump_of_quiet hquiet]
  refine Prod.ext ?_ rfl
  show ((chunks.flatten.map (Item.event · default)).flatMap
    fun item => (path.handle item).1).filterMap Happening.args =
      forwarded overrides chunks.flatten
  generalize chunks.flatten = log at hlog
  induction log with
  | nil => rfl
  | cons event log ih =>
      obtain ⟨hevent, hrest⟩ := List.forall_mem_cons.mp hlog
      rw [List.map_cons, List.flatMap_cons, List.filterMap_append,
        (handle_event hpath hevent).2, ih hrest, ← forwarded_append]
      rfl

/-- A replay of a log with a forwarded event that cannot be converted raises. -/
theorem replay_raises (hpath : path.toHandler = Handler.ofOverrides overrides)
    (hrethrow : ∀ exception, path.rethrow exception ≠ none)
    {chunks : List (List (Event M V))} {event : Event M V} (hevent : event ∈ chunks.flatten)
    (hforward : overrides event.type = some .forward)
    (hregistered : Module.registered event.type = false) :
    (replay path chunks).2 ≠ none := by
  rw [replay_eq_call, Path.call_snd]
  intro hnone
  cases hfirst : path.firstException (chunks.flatten.map (Item.event · default)) with
  | none =>
      have hquiet := List.findSome?_eq_none_iff.mp hfirst _
        (List.mem_map_of_mem hevent)
      rw [hpath, handle_of_not_registered hforward hregistered] at hquiet
      cases hquiet
  | some exception =>
      rw [hfirst] at hnone
      exact hrethrow exception hnone

end

/-! ### The two replays of a log -/

/-- The two handlers treat all other types alike. -/
theorem overrides_eq {t : EventType} (ht : t ≠ .riskLimits ∧ t ≠ .riskLimitsUpdate) :
    EventLogReader.overrides t = EventLogMultiplexer.overrides t := by
  cases t <;> simp_all [EventLogReader.overrides, EventLogMultiplexer.overrides]

/-- So they forward the same events of a log without risk limits. -/
theorem forwarded_eq {log : List (Event M V)}
    (hlog : ∀ event ∈ log, event.type ≠ .riskLimits ∧ event.type ≠ .riskLimitsUpdate) :
    forwarded EventLogReader.overrides log = forwarded EventLogMultiplexer.overrides log := by
  rw [forwarded, forwarded]
  refine congrArg (List.map _) (List.filter_congr ?_)
  intro event hevent
  rw [overrides_eq (hlog event hevent)]

/-- **The two replays.** The reader and the multiplexer invoke the callback alike, and both
come to the end of the log without raising, exactly when the log has no event of type
`RiskLimits` or `RiskLimitsUpdate`. -/
theorem replays_agree_iff {reader multiplexer : List (List (Event M V))}
    (hlog : multiplexer.flatten = reader.flatten) :
    ((replay EventLogReader.path reader).1 = (replay EventLogMultiplexer.path multiplexer).1 ∧
        (replay EventLogReader.path reader).2 = none ∧
        (replay EventLogMultiplexer.path multiplexer).2 = none) ↔
      ∀ event ∈ reader.flatten, event.type ≠ .riskLimits ∧ event.type ≠ .riskLimitsUpdate := by
  constructor
  · rintro ⟨-, hreader, -⟩ event hevent
    by_contra htype
    have hrisk : event.type = .riskLimits ∨ event.type = .riskLimitsUpdate := by
      tauto
    obtain ⟨hforward, hregistered⟩ := (EventLogReader.not_registered_iff _).mpr hrisk
    exact replay_raises rfl catchErrorAlreadySet_ne_none hevent hforward hregistered hreader
  · intro hevents
    have hregistered : ∀ event ∈ reader.flatten,
        EventLogReader.overrides event.type = some .forward →
          Module.registered event.type = true := by
      intro event hevent hforward
      by_contra hfalse
      have hrisk := (EventLogReader.not_registered_iff event.type).mp
        ⟨hforward, by simpa using hfalse⟩
      have hne := hevents event hevent
      tauto
    rw [replay_eq rfl hregistered,
      replay_eq rfl fun event _ => EventLogMultiplexer.registered_of_forward event.type, hlog]
    exact ⟨forwarded_eq hevents, rfl, rfl⟩

/-- A log of a snapshot and parameters, which the reader delivers at once and the
multiplexer one by one. -/
theorem replays_agree :
    let log : List (Event ℕ ℕ) := [⟨.marketByPriceUpdate, 0, 7⟩, ⟨.parametersUpdate, 1, 8⟩]
    (replay EventLogReader.path [log]).1 =
        (replay EventLogMultiplexer.path (log.map fun event => [event])).1 ∧
      (replay EventLogReader.path [log]).2 = none ∧
      (replay EventLogMultiplexer.path (log.map fun event => [event])).2 = none :=
  (replays_agree_iff rfl).mpr (by decide)

/-- A log of risk limits, which end the replay of the reader, and a trade after them. -/
theorem replays_disagree :
    let log : List (Event ℕ ℕ) := [⟨.riskLimits, 0, 7⟩, ⟨.tradeSummary, 1, 8⟩]
    replay EventLogReader.path [log] = ([], some .castError) ∧
      replay EventLogMultiplexer.path [log] = ([(1, 8)], none) :=
  ⟨rfl, rfl⟩

end RoqPython
