import RoqPython.Lib.Pump

/-!
# Dispatching References

Five calls hand Python a `utils::Ref`, which must not be stored: after each invocation of
the callback the handler looks at the reference counts and throws when one has grown. The
exception then passes through a `try`/`catch` of the call itself, which is different from
call to call.

What the native side feeds to a handler in one call is a list of items, each with the
behaviour of the callback when the item reaches it; the native side may raise at any place
between them. What happens in a call is its trace: the invocations of the callback, and the
native exception.

## Main results

* `Path.sound_call_iff`: a call tells its caller about a failure, and about nothing else,
  unless its `catch` swallows the exception or an event cannot be converted.
* `raises_iff_failed`: the five calls.
-/

namespace RoqPython

open Pump

variable {ε M V : Type}

/-! ### Callbacks -/

/-- What a callback does in an invocation: whether it raises, and which of its arguments it
keeps a reference to. -/
structure Behaviour where
  raises : Bool
  keeps : ℕ → Bool

/-- The callback returns and keeps nothing. -/
instance : Inhabited Behaviour := ⟨⟨false, fun _ => false⟩⟩

/-- The exceptions that can end a dispatch. -/
inductive Exception
  /-- `pybind11::error_already_set`: the callback raised. -/
  | errorAlreadySet
  /-- `std::runtime_error{"Objects must not be stored"s}`. -/
  | runtimeError
  /-- `pybind11::cast_error`: a value of an unregistered type has no Python object. -/
  | castError
  /-- The native side raised. -/
  | native
deriving DecidableEq

/-- What the native side does next: it feeds an event, or raises. -/
inductive Item (ε : Type)
  | event (event : ε) (behaviour : Behaviour)
  | raise

/-- What happens in a call. -/
inductive Happening (ε : Type)
  /-- The callback is invoked for an event, with a number of references. -/
  | invoked (event : ε) (refs : ℕ) (behaviour : Behaviour)
  /-- The native side raises. -/
  | raised

/-- A failure: the callback raised or kept a reference, or the native side raised. -/
def Happening.Failed : Happening ε → Prop
  | .invoked _ refs behaviour => behaviour.raises = true ∨ ∃ i < refs, behaviour.keeps i = true
  | .raised => True

/-- Whether the callback is invoked. -/
def Happening.isInvocation : Happening ε → Bool
  | .invoked .. => true
  | .raised => false

/-! ### Handlers -/

/-- `dispatch`, after the callback was called: an exception of the callback propagates, and
otherwise the reference counts are checked. -/
def dispatch (refs : ℕ) (behaviour : Behaviour) : Option Exception :=
  if behaviour.raises then some .errorAlreadySet
  else if (List.range refs).any behaviour.keeps then some .runtimeError
  else none

/-- A handler: the number of references that an event of it hands to Python, if it hands it
to Python at all, and whether their types are registered. -/
structure Handler (ε : Type) where
  refs : ε → Option ℕ
  registered : ε → Bool

/-- One item. The arguments are cast before the callback is called. -/
def Handler.handle (self : Handler ε) : Item ε → List (Happening ε) × Option Exception
  | .raise => ([.raised], some .native)
  | .event event behaviour =>
      match self.refs event with
      | none => ([], none)
      | some refs =>
          if self.registered event then
            ([.invoked event refs behaviour], dispatch refs behaviour)
          else ([], some .castError)

/-- An item that the rule is about: the native side raises, or the callback is invoked for
an event and raises or keeps a reference. -/
def Handler.Fails (self : Handler ε) : Item ε → Prop
  | .raise => True
  | .event event behaviour =>
      ∃ refs, self.refs event = some refs ∧ self.registered event = true ∧
        (behaviour.raises = true ∨ ∃ i < refs, behaviour.keeps i = true)

/-- A call: its handler, and what its `catch` clauses make of an exception. -/
structure Path (ε : Type) extends Handler ε where
  rethrow : Exception → Option Exception

namespace Path

/-- A call in which the native side is called once: the trace, and the exception that
reaches the Python caller. -/
def call (self : Path ε) (items : List (Item ε)) : List (Happening ε) × Option Exception :=
  let (trace, exception) := pump self.handle items
  (trace, exception.bind self.rethrow)

/-- A call that loops over native calls, until one of them returns `false`. -/
def loop (self : Path ε) (chunks : List (List (Item ε))) :
    List (Happening ε) × Option Exception :=
  let (trace, exception) := pump (pump self.handle) chunks
  (trace, exception.bind self.rethrow)

/-- The exception of the first item that has one. -/
def firstException (self : Path ε) (items : List (Item ε)) : Option Exception :=
  items.findSome? fun item => (self.handle item).2

end Path

/-- What the caller relies on: the call raises if and only if there was a failure, and the
callback is not invoked again after the first failure. -/
structure Sound (result : List (Happening ε) × Option Exception) : Prop where
  raises_iff : result.2 ≠ none ↔ ∃ h ∈ result.1, h.Failed
  not_invoked : ∀ before h after, result.1 = before ++ h :: after → h.Failed →
    ∀ x ∈ after, x.isInvocation = false

/-! ### One item -/

/-- An invocation fails exactly when `dispatch` throws. -/
theorem dispatch_eq_none_iff {event : ε} {refs : ℕ} {behaviour : Behaviour} :
    dispatch refs behaviour = none ↔ ¬ (Happening.invoked event refs behaviour).Failed := by
  by_cases hraises : behaviour.raises = true
  · simp [dispatch, Happening.Failed, hraises]
  · simp [dispatch, Happening.Failed, hraises]

theorem dispatch_ne_castError {refs : ℕ} {behaviour : Behaviour} :
    dispatch refs behaviour ≠ some .castError := by
  rw [dispatch]
  split
  · simp
  · split <;> simp

/-- **What comes of an item.** Nothing; an invocation that does not fail; a failure with
its exception; or only the exception, for an event that cannot be converted. -/
theorem Handler.handle_cases (self : Handler ε) (item : Item ε) :
    self.handle item = ([], none) ∨
    (∃ x, self.handle item = ([x], none) ∧ ¬ x.Failed) ∨
    (∃ x exception, self.handle item = ([x], some exception) ∧ x.Failed ∧
      exception ≠ .castError) ∨
    self.handle item = ([], some .castError) := by
  cases item with
  | raise => exact .inr (.inr (.inl ⟨.raised, .native, rfl, trivial, by simp⟩))
  | event event behaviour =>
      cases hrefs : self.refs event with
      | none => exact .inl (by simp [handle, hrefs])
      | some refs =>
          by_cases hregistered : self.registered event = true
          · have hhandle : self.handle (.event event behaviour) =
                ([.invoked event refs behaviour], dispatch refs behaviour) := by
              simp [handle, hrefs, hregistered]
            rw [hhandle]
            cases hdispatch : dispatch refs behaviour with
            | none => exact .inr (.inl ⟨_, rfl, dispatch_eq_none_iff.mp hdispatch⟩)
            | some exception =>
                refine .inr (.inr (.inl ⟨_, exception, rfl, ?_, ?_⟩))
                · by_contra hfailed
                  rw [dispatch_eq_none_iff.mpr hfailed] at hdispatch
                  cases hdispatch
                · rintro rfl
                  exact dispatch_ne_castError hdispatch
          · exact .inr (.inr (.inr (by simp [handle, hrefs, hregistered])))

namespace Handler

variable {self : Handler ε} {item : Item ε}

/-- An item without an exception leaves no failure. -/
theorem not_failed_of_none (h : (self.handle item).2 = none) :
    ∀ x ∈ (self.handle item).1, ¬ x.Failed := by
  intro x hx
  rcases self.handle_cases item with hhandle | ⟨y, hhandle, hy⟩ | ⟨y, e, hhandle, -⟩ | hhandle
  · rw [hhandle] at hx
    cases hx
  · rw [hhandle] at hx
    obtain rfl := List.mem_singleton.mp hx
    exact hy
  · rw [hhandle] at h
    cases h
  · rw [hhandle] at h
    cases h

/-- An item with an exception leaves one failure, or nothing when it cannot be converted. -/
theorem failed_of_some {exception : Exception} (h : (self.handle item).2 = some exception) :
    (exception ≠ .castError ∧ ∃ x, (self.handle item).1 = [x] ∧ x.Failed) ∨
      (exception = .castError ∧ (self.handle item).1 = []) := by
  rcases self.handle_cases item with hhandle | ⟨y, hhandle, -⟩ | ⟨y, e, hhandle, hy, he⟩ | hhandle
  · rw [hhandle] at h
    cases h
  · rw [hhandle] at h
    cases h
  · rw [hhandle] at h ⊢
    obtain rfl := Option.some.inj h
    exact .inl ⟨he, y, rfl, hy⟩
  · rw [hhandle] at h ⊢
    obtain rfl := Option.some.inj h
    exact .inr ⟨rfl, rfl⟩

/-- The items that the rule is about are those with an exception other than that of an event
that cannot be converted. -/
theorem fails_iff : self.Fails item ↔
    ∃ exception, (self.handle item).2 = some exception ∧ exception ≠ .castError := by
  cases item with
  | raise => exact iff_of_true trivial ⟨.native, rfl, by simp⟩
  | event event behaviour =>
      cases hrefs : self.refs event with
      | none => simp [Fails, handle, hrefs]
      | some refs =>
          by_cases hregistered : self.registered event = true
          · have hhandle :
                (self.handle (.event event behaviour)).2 = dispatch refs behaviour := by
              simp [handle, hrefs, hregistered]
            have hfails : self.Fails (.event event behaviour) ↔
                (Happening.invoked event refs behaviour).Failed := by
              simp [Fails, Happening.Failed, hrefs, hregistered]
            rw [hhandle, hfails, ← not_iff_not, ← dispatch_eq_none_iff]
            constructor
            · rintro hnone ⟨exception, hexception, -⟩
              rw [hnone] at hexception
              cases hexception
            · intro hno
              by_contra hsome
              obtain ⟨exception, hexception⟩ := Option.ne_none_iff_exists'.mp hsome
              refine hno ⟨exception, hexception, ?_⟩
              rintro rfl
              exact dispatch_ne_castError hexception
          · simp [Fails, handle, hrefs, hregistered]

/-- The exception of an event tells whether the callback raised. -/
theorem errorAlreadySet_iff {event : ε} {behaviour : Behaviour} {exception : Exception}
    (h : (self.handle (.event event behaviour)).2 = some exception)
    (hcast : exception ≠ .castError) :
    exception = .errorAlreadySet ↔ behaviour.raises = true := by
  cases hrefs : self.refs event with
  | none => simp [handle, hrefs] at h
  | some refs =>
      by_cases hregistered : self.registered event = true
      · simp only [handle, hrefs, if_pos hregistered, dispatch] at h
        by_cases hraises : behaviour.raises = true
        · rw [if_pos hraises, Option.some.injEq] at h
          exact iff_of_true h.symm hraises
        · rw [if_neg hraises] at h
          refine iff_of_false ?_ hraises
          rintro rfl
          split at h <;> cases h
      · simp only [handle, hrefs, if_neg hregistered, Option.some.injEq] at h
        exact absurd h.symm hcast

end Handler

/-! ### One call -/

section

variable {happenings : List (Happening ε)} {raised : Option Exception}

/-- Where nothing fails, nothing must be raised. -/
theorem sound_of_not_failed (h : ∀ x ∈ happenings, ¬ x.Failed) :
    Sound (happenings, raised) ↔ raised = none := by
  have hnone : ¬ ∃ x ∈ happenings, x.Failed := by
    rintro ⟨x, hx, hfailed⟩
    exact h x hx hfailed
  constructor
  · intro hsound
    by_contra hraised
    exact hnone (hsound.raises_iff.mp hraised)
  · intro hraised
    refine ⟨iff_of_false (fun hne => hne hraised) hnone, ?_⟩
    rintro before x after rfl hfailed
    exact absurd hfailed (h x (by simp))

/-- Where only what happens last fails, something must be raised. -/
theorem sound_concat_of_failed {last : Happening ε} (h : ∀ x ∈ happenings, ¬ x.Failed)
    (hlast : last.Failed) : Sound (happenings ++ [last], raised) ↔ raised ≠ none := by
  have hexists : ∃ x ∈ happenings ++ [last], x.Failed := ⟨last, by simp, hlast⟩
  constructor
  · intro hsound
    exact hsound.raises_iff.mpr hexists
  · intro hraised
    refine ⟨iff_of_true hraised hexists, ?_⟩
    intro before x after heq hfailed
    by_cases hafter : after = []
    · simp [hafter]
    · -- What happens before the last does not fail.
      have hmem : x ∈ (before ++ x :: after).dropLast := by
        rw [List.dropLast_append_of_ne_nil (List.cons_ne_nil _ _),
          List.dropLast_cons_of_ne_nil hafter]
        simp
      rw [← heq, List.dropLast_concat] at hmem
      exact absurd hfailed (h x hmem)

end

namespace Path

variable {self : Path ε} {items : List (Item ε)}

/-- A loop is a call over everything that the native calls feed. -/
theorem loop_eq_call (chunks : List (List (Item ε))) :
    self.loop chunks = self.call chunks.flatten := by
  rw [loop, call, pump_pump]

/-- The exception that the caller sees is the first one, if it is rethrown. -/
theorem call_snd : (self.call items).2 = (self.firstException items).bind self.rethrow := by
  rw [firstException, ← pump_snd]
  rfl

/-- Items without an exception leave no failure. -/
theorem not_failed_of_quiet (h : ∀ item ∈ items, (self.handle item).2 = none) :
    ∀ x ∈ items.flatMap (fun item => (self.handle item).1), ¬ x.Failed := by
  intro x hx
  obtain ⟨item, hitem, hx⟩ := List.mem_flatMap.mp hx
  exact Handler.not_failed_of_none (h item hitem) x hx

/-- A call in which no item has an exception is sound. -/
theorem sound_of_quiet (h : self.firstException items = none) : Sound (self.call items) := by
  have hquiet : ∀ item ∈ items, (self.handle item).2 = none := List.findSome?_eq_none_iff.mp h
  rw [call, pump_of_quiet hquiet]
  exact (sound_of_not_failed (not_failed_of_quiet hquiet)).mpr rfl

/-- A call with an exception is sound exactly when the exception reaches the caller after a
failure, or does not reach the caller after an event that could not be converted. -/
theorem sound_of_first {exception : Exception}
    (h : self.firstException items = some exception) :
    Sound (self.call items) ↔
      (self.rethrow exception ≠ none ↔ exception ≠ .castError) := by
  obtain ⟨xs, item, ys, rfl, hitem, hxs⟩ := List.findSome?_eq_some_iff.mp h
  have hcall : self.call (xs ++ item :: ys) =
      (xs.flatMap (fun y => (self.handle y).1) ++ (self.handle item).1,
        self.rethrow exception) := by
    rw [call, pump_of_first hxs hitem]
    rfl
  have hquiet := not_failed_of_quiet hxs
  rw [hcall]
  rcases Handler.failed_of_some hitem with ⟨hcast, x, hx, hfailed⟩ | ⟨rfl, hnil⟩
  · rw [hx, sound_concat_of_failed hquiet hfailed]
    exact (iff_true_right hcast).symm
  · have hcast : ¬ Exception.castError ≠ .castError := fun hne => hne rfl
    rw [hnil, List.append_nil, sound_of_not_failed hquiet, iff_false_right hcast]
    exact not_not.symm

/-- **One call.** A call is sound exactly when the first exception of its items, if there
is one, reaches the caller, and comes from a failure. -/
theorem sound_call_iff : Sound (self.call items) ↔
    ∀ exception ∈ self.firstException items,
      (self.rethrow exception ≠ none ↔ exception ≠ .castError) := by
  cases h : self.firstException items with
  | none => exact iff_of_true (sound_of_quiet h) (by simp)
  | some exception =>
      rw [sound_of_first h]
      simp

/-- A call that rethrows everything is sound exactly when the first exception is not that
of an event that could not be converted. -/
theorem sound_call_iff_of_rethrow (hrethrow : ∀ exception, self.rethrow exception ≠ none) :
    Sound (self.call items) ↔ self.firstException items ≠ some .castError := by
  rw [sound_call_iff]
  constructor
  · intro h hcast
    exact (h _ hcast).mp (hrethrow _) rfl
  · intro h exception hexception
    refine iff_of_true (hrethrow exception) ?_
    rintro rfl
    exact h hexception

/-- The first exception comes from an item. -/
theorem firstException_ne (exception : Exception)
    (h : ∀ item, (self.handle item).2 ≠ some exception) :
    self.firstException items ≠ some exception := by
  intro hfirst
  obtain ⟨-, item, -, -, hitem, -⟩ := List.findSome?_eq_some_iff.mp hfirst
  exact h item hitem

end Path

/-! ### Events -/

/-- The types of the events that one of the handlers overrides. -/
inductive EventType
  | start | stop | connected | disconnected | downloadBegin | downloadEnd
  | gatewaySettings | streamStatus | externalLatency | rateLimitsUpdate
  | rateLimitTrigger | gatewayStatus | referenceData | marketStatus | topOfBook
  | marketByPriceUpdate | marketByOrderUpdate | tradeSummary | statisticsUpdate
  | createOrder | modifyOrder | cancelOrder | cancelAllOrders | cancelAllOrdersAck
  | orderAck | orderUpdate | tradeUpdate | positionUpdate | fundsUpdate | riskLimits
  | riskLimitsUpdate | customMetricsUpdate | customMatrixUpdate | parametersUpdate
  | portfolioUpdate
deriving DecidableEq

/-- `roq::Event<T>`: a message info and a value of the type `T`. -/
structure Event (M V : Type) where
  type : EventType
  messageInfo : M
  value : V

/-- What the override of a handler does with an event. -/
inductive Override
  /-- `dispatch(event.message_info, event.value)`. -/
  | forward
  /-- An empty body, `// XXX TODO`. -/
  | ignore
deriving DecidableEq

/-- `Module::create`: the event types that `create_ref_struct` registers. -/
def Module.registered : EventType → Bool
  | .start | .stop | .connected | .disconnected | .downloadBegin | .downloadEnd
  | .gatewaySettings | .streamStatus | .externalLatency | .rateLimitsUpdate
  | .rateLimitTrigger | .gatewayStatus | .referenceData | .marketStatus | .topOfBook
  | .marketByPriceUpdate | .marketByOrderUpdate | .tradeSummary | .statisticsUpdate
  | .createOrder | .modifyOrder | .cancelOrder | .cancelAllOrders | .cancelAllOrdersAck
  | .orderAck | .orderUpdate | .tradeUpdate | .positionUpdate | .fundsUpdate
  | .customMetricsUpdate => true
  | .riskLimits | .riskLimitsUpdate | .customMatrixUpdate | .parametersUpdate
  | .portfolioUpdate => false

/-- The handler with the given overrides. A forwarded event hands Python two references, one
of the message info and one of the value; an event without an override is left to the native
base class and does not reach Python. -/
def Handler.ofOverrides (overrides : EventType → Option Override) : Handler (Event M V) where
  refs event :=
    match overrides event.type with
    | some .forward => some 2
    | some .ignore => none
    | none => none
  registered event := Module.registered event.type

/-! ### The five calls -/

/-- `Bridge2`. -/
def Bridge2.overrides : EventType → Option Override
  | .start | .stop | .connected | .disconnected | .downloadBegin | .downloadEnd
  | .gatewaySettings | .streamStatus | .externalLatency | .rateLimitsUpdate
  | .rateLimitTrigger | .gatewayStatus | .referenceData | .marketStatus | .topOfBook
  | .marketByPriceUpdate | .marketByOrderUpdate | .tradeSummary | .statisticsUpdate
  | .cancelAllOrdersAck | .orderAck | .orderUpdate | .tradeUpdate | .positionUpdate
  | .fundsUpdate | .customMetricsUpdate => some .forward
  | .parametersUpdate | .portfolioUpdate | .riskLimitsUpdate => some .ignore
  | .createOrder | .modifyOrder | .cancelOrder | .cancelAllOrders | .riskLimits
  | .customMatrixUpdate => none

/-- `EventLogReader::Handler`. -/
def EventLogReader.overrides : EventType → Option Override
  | .gatewaySettings | .streamStatus | .externalLatency | .rateLimitsUpdate
  | .rateLimitTrigger | .gatewayStatus | .referenceData | .marketStatus | .topOfBook
  | .marketByPriceUpdate | .marketByOrderUpdate | .tradeSummary | .statisticsUpdate
  | .createOrder | .modifyOrder | .cancelOrder | .cancelAllOrders | .cancelAllOrdersAck
  | .orderAck | .orderUpdate | .tradeUpdate | .positionUpdate | .fundsUpdate
  | .riskLimits | .riskLimitsUpdate | .customMetricsUpdate => some .forward
  | .customMatrixUpdate | .parametersUpdate | .portfolioUpdate => some .ignore
  | .start | .stop | .connected | .disconnected | .downloadBegin | .downloadEnd => none

/-- `EventLogMultiplexer::Handler`: it ignores the two types of risk limits. -/
def EventLogMultiplexer.overrides : EventType → Option Override
  | .gatewaySettings | .streamStatus | .externalLatency | .rateLimitsUpdate
  | .rateLimitTrigger | .gatewayStatus | .referenceData | .marketStatus | .topOfBook
  | .marketByPriceUpdate | .marketByOrderUpdate | .tradeSummary | .statisticsUpdate
  | .createOrder | .modifyOrder | .cancelOrder | .cancelAllOrders | .cancelAllOrdersAck
  | .orderAck | .orderUpdate | .tradeUpdate | .positionUpdate | .fundsUpdate
  | .customMetricsUpdate => some .forward
  | .customMatrixUpdate | .parametersUpdate | .portfolioUpdate | .riskLimits
  | .riskLimitsUpdate => some .ignore
  | .start | .stop | .connected | .disconnected | .downloadBegin | .downloadEnd => none

/-- `codec::sbe::Decoder::Handler`. -/
def Sbe.Decoder.overrides : EventType → Option Override
  | .referenceData | .marketStatus | .topOfBook | .marketByPriceUpdate
  | .marketByOrderUpdate | .tradeSummary | .statisticsUpdate => some .forward
  | _ => none

/-- `catch (pybind11::error_already_set &) { throw; }`: every exception leaves the call. -/
def catchErrorAlreadySet : Exception → Option Exception
  | .errorAlreadySet => some .errorAlreadySet
  | exception => some exception

/-- `catch (pybind11::error_already_set &) { throw; } catch (...) { fmt::print(..); }`: only
an exception of the callback leaves the call. -/
def Sbe.Decoder.catchAll : Exception → Option Exception
  | .errorAlreadySet => some .errorAlreadySet
  | _ => none

/-- `Dispatcher::dispatch`, through `Bridge2`. -/
def Dispatcher.path : Path (Event M V) :=
  { Handler.ofOverrides Bridge2.overrides with rethrow := catchErrorAlreadySet }

/-- `EventLogReader::dispatch`. -/
def EventLogReader.path : Path (Event M V) :=
  { Handler.ofOverrides EventLogReader.overrides with rethrow := catchErrorAlreadySet }

/-- `EventLogMultiplexer::dispatch`. -/
def EventLogMultiplexer.path : Path (Event M V) :=
  { Handler.ofOverrides EventLogMultiplexer.overrides with rethrow := catchErrorAlreadySet }

/-- `codec::sbe::Decoder::dispatch`. -/
def Sbe.Decoder.path : Path (Event M V) :=
  { Handler.ofOverrides Sbe.Decoder.overrides with rethrow := Sbe.Decoder.catchAll }

/-- What the native sequencer calls in `sequence_helper`: it publishes an update (of type
`U`), or asks for a snapshot with a number of retries. -/
inductive SequencerCall (U : Type)
  | publish (update : U)
  | requestSnapshot (retries : ℕ)

/-- `Sequencer.apply`, through `sequence_helper`: the callback is handed one reference, and
`reset` a number, which is not one. There is no `try`. -/
def Sequencer.path {U : Type} : Path (SequencerCall U) where
  refs
    | .publish _ => some 1
    | .requestSnapshot _ => some 0
  registered _ := true
  rethrow := some

/-! ### What the handlers convert -/

section Overrides

variable {overrides : EventType → Option Override} {event : Event M V} {behaviour : Behaviour}

/-- A forwarded event of a registered type is dispatched with two references. -/
theorem handle_of_registered (hforward : overrides event.type = some .forward)
    (hregistered : Module.registered event.type = true) :
    (Handler.ofOverrides overrides).handle (.event event behaviour) =
      ([.invoked event 2 behaviour], dispatch 2 behaviour) := by
  simp [Handler.handle, Handler.ofOverrides, hforward, hregistered]

/-- A forwarded event of another type cannot be converted. -/
theorem handle_of_not_registered (hforward : overrides event.type = some .forward)
    (hregistered : Module.registered event.type = false) :
    (Handler.ofOverrides overrides).handle (.event event behaviour) = ([], some .castError) := by
  simp [Handler.handle, Handler.ofOverrides, hforward, hregistered]

/-- An event that is not forwarded does not reach Python. -/
theorem handle_of_not_forward (hforward : overrides event.type ≠ some .forward) :
    (Handler.ofOverrides overrides).handle (.event event behaviour) = ([], none) := by
  have hrefs : (Handler.ofOverrides overrides).refs event = none := by
    cases h : overrides event.type with
    | none => simp [Handler.ofOverrides, h]
    | some override =>
        cases override with
        | forward => exact absurd h hforward
        | ignore => simp [Handler.ofOverrides, h]
  simp [Handler.handle, hrefs]

/-- The events that cannot be converted are the forwarded ones of an unregistered type. -/
theorem castError_iff {item : Item (Event M V)} :
    ((Handler.ofOverrides overrides).handle item).2 = some .castError ↔
      ∃ event behaviour, item = .event event behaviour ∧
        overrides event.type = some .forward ∧ Module.registered event.type = false := by
  constructor
  · intro h
    cases item with
    | raise => cases h
    | event event behaviour =>
        refine ⟨event, behaviour, rfl, ?_⟩
        by_cases hforward : overrides event.type = some .forward
        · refine ⟨hforward, ?_⟩
          by_contra hregistered
          rw [handle_of_registered hforward (by simpa using hregistered)] at h
          exact dispatch_ne_castError h
        · rw [handle_of_not_forward hforward] at h
          cases h
  · rintro ⟨event, behaviour, rfl, hforward, hregistered⟩
    rw [handle_of_not_registered hforward hregistered]

end Overrides

/-- The handlers of the dispatcher, the multiplexer and the decoder forward registered types
only. -/
theorem Bridge2.registered_of_forward (t : EventType)
    (h : Bridge2.overrides t = some .forward) : Module.registered t = true := by
  cases t <;> simp_all [Bridge2.overrides, Module.registered]

theorem EventLogMultiplexer.registered_of_forward (t : EventType)
    (h : EventLogMultiplexer.overrides t = some .forward) : Module.registered t = true := by
  cases t <;> simp_all [EventLogMultiplexer.overrides, Module.registered]

theorem Sbe.Decoder.registered_of_forward (t : EventType)
    (h : Sbe.Decoder.overrides t = some .forward) : Module.registered t = true := by
  cases t <;> simp_all [Sbe.Decoder.overrides, Module.registered]

/-- `EventLogReader` forwards the two types of risk limits as well. -/
theorem EventLogReader.not_registered_iff (t : EventType) :
    (EventLogReader.overrides t = some .forward ∧ Module.registered t = false) ↔
      (t = .riskLimits ∨ t = .riskLimitsUpdate) := by
  cases t <;> simp [EventLogReader.overrides, Module.registered]

/-! ### The five calls are sound, or when they are -/

/-- A call that rethrows everything, and whose handler forwards registered types only, is
sound. -/
theorem sound_of_registered {path : Path (Event M V)} {overrides : EventType → Option Override}
    (hpath : path.toHandler = Handler.ofOverrides overrides)
    (hregistered : ∀ t, overrides t = some .forward → Module.registered t = true)
    (hrethrow : ∀ exception, path.rethrow exception ≠ none) (items : List (Item (Event M V))) :
    Sound (path.call items) := by
  refine (Path.sound_call_iff_of_rethrow hrethrow).mpr (Path.firstException_ne _ ?_)
  intro item hitem
  rw [hpath, castError_iff] at hitem
  obtain ⟨event, -, -, hforward, hfalse⟩ := hitem
  rw [hregistered event.type hforward] at hfalse
  cases hfalse

theorem catchErrorAlreadySet_ne_none (exception : Exception) :
    catchErrorAlreadySet exception ≠ none := by
  cases exception <;> simp [catchErrorAlreadySet]

/-- The native sequencer hands Python registered references only. -/
theorem Sequencer.sound {U : Type} (items : List (Item (SequencerCall U))) :
    Sound (Sequencer.path.call items) := by
  refine (Path.sound_call_iff_of_rethrow (by simp [path])).mpr (Path.firstException_ne _ ?_)
  intro item hitem
  rcases Handler.failed_of_some hitem with ⟨hcast, -⟩ | ⟨-, hnil⟩
  · exact hcast rfl
  · cases item with
    | raise => cases hnil
    | event event behaviour => cases event <;> cases hnil

/-- `EventLogReader` is sound when every event of risk limits comes after a failure. -/
theorem EventLogReader.sound_iff (items : List (Item (Event M V))) :
    Sound (EventLogReader.path.call items) ↔
      ∀ before event behaviour after, items = before ++ .event event behaviour :: after →
        event.type = .riskLimits ∨ event.type = .riskLimitsUpdate →
          ∃ item ∈ before, EventLogReader.path.Fails item := by
  rw [Path.sound_call_iff_of_rethrow catchErrorAlreadySet_ne_none]
  constructor
  · rintro hfirst before event behaviour after rfl htype
    by_contra hnone
    refine hfirst ?_
    have hitem : (EventLogReader.path.handle (.event event behaviour)).2 = some .castError :=
      castError_iff.mpr ⟨event, behaviour, rfl, (not_registered_iff _).mpr htype⟩
    rw [Path.firstException, List.findSome?_append]
    cases hbefore : before.findSome? fun item => (EventLogReader.path.handle item).2 with
    | none => rw [Option.none_or, List.findSome?_cons, hitem]
    | some exception =>
        -- What went wrong before is not a failure.
        obtain ⟨item, hmem, hexception⟩ := List.exists_of_findSome?_eq_some hbefore
        rw [Option.some_or, Option.some.injEq]
        by_contra hcast
        exact hnone ⟨item, hmem, Handler.fails_iff.mpr ⟨exception, hexception, hcast⟩⟩
  · intro h hfirst
    obtain ⟨before, item, after, rfl, hitem, hbefore⟩ := List.findSome?_eq_some_iff.mp hfirst
    obtain ⟨event, behaviour, rfl, hevent⟩ := castError_iff.mp hitem
    obtain ⟨x, hx, hfails⟩ :=
      h before event behaviour after rfl ((not_registered_iff _).mp hevent)
    obtain ⟨exception, hexception, -⟩ := Handler.fails_iff.mp hfails
    rw [hbefore x hx] at hexception
    cases hexception

/-- All events that the decoder forwards can be converted. -/
theorem Sbe.Decoder.handle_ne_castError (item : Item (Event M V)) :
    (Sbe.Decoder.path.handle item).2 ≠ some .castError := by
  intro hitem
  obtain ⟨event, -, -, hforward, hfalse⟩ := castError_iff.mp hitem
  rw [registered_of_forward event.type hforward] at hfalse
  cases hfalse

/-- An item of the decoder fails when it has an exception. -/
theorem Sbe.Decoder.not_fails_iff {item : Item (Event M V)} :
    ¬ Sbe.Decoder.path.Fails item ↔ (Sbe.Decoder.path.handle item).2 = none := by
  rw [Handler.fails_iff]
  constructor
  · intro h
    by_contra hsome
    obtain ⟨exception, hexception⟩ := Option.ne_none_iff_exists'.mp hsome
    refine h ⟨exception, hexception, ?_⟩
    rintro rfl
    exact handle_ne_castError item hexception
  · rintro hnone ⟨exception, hexception, -⟩
    rw [hnone] at hexception
    cases hexception

/-- The decoder is sound when the first failure, if there is one, is a callback that
raises. -/
theorem Sbe.Decoder.sound_iff (items : List (Item (Event M V))) :
    Sound (Sbe.Decoder.path.call items) ↔
      ∀ before item after, items = before ++ item :: after → Sbe.Decoder.path.Fails item →
        (∀ x ∈ before, ¬ Sbe.Decoder.path.Fails x) →
          ∃ event behaviour, item = .event event behaviour ∧ behaviour.raises = true := by
  rw [Path.sound_call_iff]
  constructor
  · rintro h before item after rfl hfails hbefore
    obtain ⟨exception, hexception, hne⟩ := Handler.fails_iff.mp hfails
    have hquiet : ∀ x ∈ before, (Sbe.Decoder.path.handle x).2 = none :=
      fun x hx => not_fails_iff.mp (hbefore x hx)
    have hcaught := (h exception (List.findSome?_eq_some_iff.mpr
      ⟨before, item, after, rfl, hexception, hquiet⟩)).mpr hne
    have hraised : exception = .errorAlreadySet := by
      by_contra hother
      refine hcaught ?_
      cases exception <;> simp_all [path, catchAll]
    cases item with
    | raise =>
        obtain rfl := Option.some.inj hexception
        cases hraised
    | event event behaviour =>
        exact ⟨event, behaviour, rfl, (Handler.errorAlreadySet_iff hexception hne).mp hraised⟩
  · intro h exception hexception
    obtain ⟨before, item, after, rfl, hitem, hquiet⟩ :=
      List.findSome?_eq_some_iff.mp hexception
    have hne : exception ≠ .castError := by
      rintro rfl
      exact handle_ne_castError item hitem
    obtain ⟨event, behaviour, rfl, hraises⟩ := h before item after rfl
      (Handler.fails_iff.mpr ⟨exception, hitem, hne⟩) fun x hx => not_fails_iff.mpr (hquiet x hx)
    obtain rfl := (Handler.errorAlreadySet_iff hitem hne).mpr hraises
    exact iff_of_true (by simp [path, catchAll]) hne

/-- **The five calls.** The calls of the dispatcher, the multiplexer and the sequencer are
always sound; the call of the reader is when every event of risk limits comes after a
failure; the call of the decoder is when the first failure is a callback that raises. -/
theorem raises_iff_failed {M V U : Type} :
    (∀ items, Sound ((Dispatcher.path (M := M) (V := V)).call items)) ∧
    (∀ chunks, Sound ((EventLogMultiplexer.path (M := M) (V := V)).loop chunks)) ∧
    (∀ items, Sound ((Sequencer.path (U := U)).call items)) ∧
    (∀ chunks, Sound ((EventLogReader.path (M := M) (V := V)).loop chunks) ↔
      ∀ before event behaviour after,
        chunks.flatten = before ++ .event event behaviour :: after →
          event.type = .riskLimits ∨ event.type = .riskLimitsUpdate →
            ∃ item ∈ before, EventLogReader.path.Fails item) ∧
    (∀ items, Sound ((Sbe.Decoder.path (M := M) (V := V)).call items) ↔
      ∀ before item after, items = before ++ item :: after → Sbe.Decoder.path.Fails item →
        (∀ x ∈ before, ¬ Sbe.Decoder.path.Fails x) →
          ∃ event behaviour, item = .event event behaviour ∧ behaviour.raises = true) := by
  refine ⟨?_, ?_, Sequencer.sound, ?_, Sbe.Decoder.sound_iff⟩
  · intro items
    exact sound_of_registered rfl Bridge2.registered_of_forward catchErrorAlreadySet_ne_none _
  · intro chunks
    rw [Path.loop_eq_call]
    exact sound_of_registered rfl EventLogMultiplexer.registered_of_forward
      catchErrorAlreadySet_ne_none _
  · intro chunks
    rw [Path.loop_eq_call]
    exact EventLogReader.sound_iff _

/-- A decoder whose callback keeps the value returns as if nothing had happened, and so does
one whose native side raises; a reader raises at an event of risk limits although its
callback is not even invoked. -/
theorem not_sound :
    ¬ Sound (Sbe.Decoder.path.call [.event (⟨.topOfBook, (), ()⟩ : Event Unit Unit)
      ⟨false, fun i => i = 1⟩]) ∧
    ¬ Sound ((Sbe.Decoder.path (M := Unit) (V := Unit)).call [.raise]) ∧
    ¬ Sound (EventLogReader.path.loop
      [[.event (⟨.riskLimits, (), ()⟩ : Event Unit Unit) default]]) := by
  refine ⟨?_, ?_, ?_⟩
  · intro h
    refine h.raises_iff.mpr ⟨_, List.mem_singleton_self _, ?_⟩ rfl
    exact .inr ⟨1, by decide, rfl⟩
  · intro h
    exact h.raises_iff.mpr ⟨_, List.mem_singleton_self _, trivial⟩ rfl
  · intro h
    obtain ⟨x, hx, -⟩ := h.raises_iff.mp (Option.some_ne_none Exception.castError)
    cases hx

end RoqPython
