import RoqPython.Dispatch
import RoqPython.Lib.Raising

/-!
# Callbacks of the Samples

The samples hand a Python callback to one of the dispatches. Here a callback is a program over
the state of the sample, which may raise, and keeps no reference to what it is handed. The
native side feeds it events, and may raise as well.

## Main results

* `drive_event`: what becomes of one event.
* `performs_run`: a run performs what the callback is asked for by the events that reach it.
-/

namespace RoqPython.Client

open Raising

/-- What the native side does next while it dispatches: it feeds an event to its handler, or
raises. `faults` is what goes wrong in the invocation of the callback, if there is one. -/
inductive Fed (M V F : Type)
  | event (messageInfo : M) (value : V) (faults : F)
  | raise

variable {M V F τ : Type}

/-- An exception of Python code, if there is one. -/
def raise (raises : Bool) : Option Exception := if raises then some .errorAlreadySet else none

/-- One item of a dispatch. -/
def drive (type : V → EventType) (path : Path (Event M V))
    (callback : τ → M → V → F → τ × Option Exception) (self : τ) :
    Fed M V F → τ × Option Exception
  | .raise => (self, some .native)
  | .event messageInfo value faults =>
      let (after, exception) := callback self messageInfo value faults
      let event : Event M V := ⟨type value, messageInfo, value⟩
      let (trace, exception) := path.handle (.event event ⟨exception.isSome, fun _ => false⟩)
      (if trace.any Happening.isInvocation then after else self, exception.bind path.rethrow)

section Drive

variable {type : V → EventType} {path : Path (Event M V)}
  {overrides : EventType → Option Override}
  {callback : τ → M → V → F → τ × Option Exception}

/-- An event that is forwarded is handed to the callback, if it can be converted; the exception
of the callback, or of the conversion, leaves the dispatch. Other events do not reach Python. -/
theorem drive_event (hpath : path.toHandler = Handler.ofOverrides overrides)
    (hrethrow : path.rethrow = catchErrorAlreadySet) (self : τ) (messageInfo : M) (value : V)
    (faults : F) :
    drive type path callback self (.event messageInfo value faults) =
      if overrides (type value) = some .forward then
        if Module.registered (type value) = true then
          ((callback self messageInfo value faults).1,
            raise (callback self messageInfo value faults).2.isSome)
        else (self, some .castError)
      else (self, none) := by
  have hdrive : drive type path callback self (.event messageInfo value faults) =
      let event : Event M V := ⟨type value, messageInfo, value⟩
      let result := path.toHandler.handle (.event event
        ⟨(callback self messageInfo value faults).2.isSome, fun _ => false⟩)
      (if result.1.any Happening.isInvocation then (callback self messageInfo value faults).1
        else self, result.2.bind path.rethrow) := rfl
  rw [hdrive, hpath, hrethrow]
  dsimp only
  by_cases hforward : overrides (type value) = some .forward
  · by_cases hregistered : Module.registered (type value) = true
    · rw [if_pos hforward, if_pos hregistered, handle_of_registered hforward hregistered]
      refine Prod.ext rfl ?_
      cases (callback self messageInfo value faults).2 <;> rfl
    · rw [if_pos hforward, if_neg hregistered,
        handle_of_not_registered hforward (by simpa using hregistered)]
      rfl
  · rw [if_neg hforward, handle_of_not_forward hforward]
    rfl

/-- What an item asks for: what its event does, if there is one. -/
def Fed.asks {ι : Type} (asks : M → V → List ι) : Fed M V F → List ι
  | .event messageInfo value _ => asks messageInfo value
  | .raise => []

variable {ι : Type} {operate : τ → ι → τ} {asks : M → V → List ι}
  (hpath : path.toHandler = Handler.ofOverrides overrides)
  (hrethrow : path.rethrow = catchErrorAlreadySet)
  (hasks : ∀ messageInfo value, asks messageInfo value ≠ [] →
    overrides (type value) = some .forward ∧ Module.registered (type value) = true)
  (hcallback : ∀ self messageInfo value faults, Performs operate self (asks messageInfo value)
    (callback self messageInfo value faults))

include hpath hrethrow hasks hcallback

/-- **One item.** When only events that reach the callback ask for anything, an item performs
what the callback does. -/
theorem performs_drive (self : τ) (fed : Fed M V F) :
    Performs operate self (fed.asks asks) (drive type path callback self fed) := by
  cases fed with
  | raise => exact Performs.nothing _
  | event messageInfo value faults =>
      rw [drive_event hpath hrethrow, Fed.asks]
      by_cases hreaches : overrides (type value) = some .forward ∧
          Module.registered (type value) = true
      · rw [if_pos hreaches.1, if_pos hreaches.2]
        refine (hcallback self messageInfo value faults).imp rfl fun hnone => ?_
        cases h : (callback self messageInfo value faults).2 with
        | none => rfl
        | some exception =>
            rw [h] at hnone
            cases hnone
      · have hnil : asks messageInfo value = [] :=
          not_not.mp fun h => hreaches (hasks messageInfo value h)
        rw [hnil]
        split
        · split
          · exact absurd ⟨‹_›, ‹_›⟩ hreaches
          · exact Performs.nothing _
        · exact Performs.nothing _

/-- **A run.** -/
theorem performs_run (self : τ) (calls : List (List (Fed M V F))) :
    Performs operate self (calls.flatten.flatMap (Fed.asks asks))
      (run (run (drive type path callback)) self calls) := by
  have hrun : run (run (drive type path callback)) self calls =
      run (drive type path callback) self calls.flatten := by
    rw [← List.flatMap_id, run_flatMap]
    rfl
  rw [hrun]
  exact Performs.run (performs_drive hpath hrethrow hasks hcallback) self _

end Drive

end RoqPython.Client
