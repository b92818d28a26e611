import RoqPython.Fix.Memory
import RoqPython.Fix.RoundTrip

/-!
# Constructed Messages

A message that Python constructs is converted to its native type when it is encoded. The
first part of this module says what the native message should be, type by type
(`Args.native`): every field that an argument names has the value of the argument, every
other field its default.

An object is constructed in one memory, in which the arguments have their text, and is
converted in a later one.

## Main results

* `construct_carried_iff`: for which arguments, and in which later memories, the native
  message is the one that the arguments describe.
-/

namespace RoqPython.Fix

open Region (View)

variable {X : Foreign} {V W : Type}

/-! ### Points in time -/

/-- The whole milliseconds since the epoch of a point in time. -/
def wholeMilliseconds (t : TimePoint) : Milliseconds := t.tdiv 1000000

/-- The number of a month, from its place in a year that begins in March. -/
def monthNumber (month : ℤ) : ℕ := if month < 10 then month.toNat + 3 else month.toNat - 9

/-- The calendar day (UTC) of a point in time, in the proleptic Gregorian calendar. A year
is counted from March here, so that a leap day is its last day, and 400 years have 146097
days. -/
def calendarDay (t : TimePoint) : YearMonthDay :=
  let days := t / 86400000000000 + 719468
  let era := days / 146097
  let dayOfEra := days % 146097
  let yearOfEra :=
    (dayOfEra - dayOfEra / 1460 + dayOfEra / 36524 - dayOfEra / 146096) / 365
  let dayOfYear := dayOfEra - (365 * yearOfEra + yearOfEra / 4 - yearOfEra / 100)
  let month := (5 * dayOfYear + 2) / 153
  { year := yearOfEra + era * 400 + if month < 10 then 0 else 1
    month := monthNumber month
    day := (dayOfYear - (153 * month + 2) / 5 + 1).toNat }

/-- No calendar day is in a month 0. -/
theorem calendarDay_month_ne_zero (t : TimePoint) : (calendarDay t).month ≠ 0 := by
  have hmonth : ∀ month, monthNumber month ≠ 0 := by
    intro month
    rw [monthNumber]
    split <;> omega
  exact hmonth _

example : calendarDay 0 = ⟨1970, 1, 1⟩ := by decide
example : calendarDay (-1) = ⟨1969, 12, 31⟩ := by decide
example : calendarDay 1709210096000000000 = ⟨2024, 2, 29⟩ := by decide

/-! ### What the arguments describe -/

/-- The native message that the arguments describe. Its heartbeat interval has 16 bits. -/
def Logon.Args.native (text : V → Bytes) (args : Logon.Args V) : Native.Logon Bytes where
  encryptMethod := args.encryptMethod
  heartBtInt := .ofInt args.heartBtInt
  rawDataLength := args.rawDataLength
  rawData := text args.rawData
  resetSeqNumFlag := args.resetSeqNumFlag
  nextExpectedMsgSeqNum := args.nextExpectedMsgSeqNum
  username := text args.username
  password := text args.password

/-- The native message that the arguments describe. -/
def Logout.Args.native (text : V → Bytes) (args : Logout.Args V) : Native.Logout Bytes where
  text := text args.text

/-- The native message that the arguments describe. -/
def TestRequest.Args.native (text : V → Bytes) (args : TestRequest.Args V) :
    Native.TestRequest Bytes where
  testReqId := text args.testReqId

/-- The native message that the arguments describe. -/
def Heartbeat.Args.native (text : V → Bytes) (args : Heartbeat.Args V) :
    Native.Heartbeat Bytes where
  testReqId := text args.testReqId

/-- The native message that the arguments describe. -/
def ResendRequest.Args.native (args : ResendRequest.Args V) : Native.ResendRequest Bytes where
  beginSeqNo := args.beginSeqNo
  endSeqNo := args.endSeqNo

/-- The native message that the arguments describe. -/
def Reject.Args.native (text : V → Bytes) (args : Reject.Args V) : Native.Reject Bytes where
  refSeqNum := args.refSeqNum
  text := text args.text
  refTagId := args.refTagId
  refMsgType := args.refMsgType
  sessionRejectReason := args.sessionRejectReason

/-- The native message that the arguments describe. -/
def BusinessMessageReject.Args.native (text : V → Bytes) (args : BusinessMessageReject.Args V) :
    Native.BusinessMessageReject Bytes where
  refSeqNum := args.refSeqNum
  refMsgType := args.refMsgType
  businessRejectRefId := text args.businessRejectRefId
  businessRejectReason := args.businessRejectReason
  text := text args.text

/-- The native message that the arguments describe. -/
def UserRequest.Args.native (text : V → Bytes) (args : UserRequest.Args V) :
    Native.UserRequest Bytes where
  userRequestId := text args.userRequestId
  userRequestType := args.userRequestType
  username := text args.username
  password := text args.password
  newPassword := text args.newPassword

/-- The native message that the arguments describe. -/
def UserResponse.Args.native (text : V → Bytes) (args : UserResponse.Args V) :
    Native.UserResponse Bytes where
  userRequestId := text args.userRequestId
  username := text args.username
  userStatus := args.userStatus
  userStatusText := text args.userStatusText

/-- The native message that the arguments describe. -/
def TradingSessionStatusRequest.Args.native (text : V → Bytes)
    (args : TradingSessionStatusRequest.Args V) :
    Native.TradingSessionStatusRequest Bytes where
  tradSesReqId := text args.tradSesReqId
  tradingSessionId := text args.tradingSessionId
  subscriptionRequestType := args.subscriptionRequestType

/-- The native message that the arguments describe. -/
def TradingSessionStatus.Args.native (text : V → Bytes) (args : TradingSessionStatus.Args V) :
    Native.TradingSessionStatus Bytes where
  tradSesReqId := text args.tradSesReqId
  tradingSessionId := text args.tradingSessionId
  unsolicitedIndicator := args.unsolicitedIndicator
  tradSesStatus := args.tradSesStatus
  tradSesStatusRejReason := args.tradSesStatusRejReason
  text := text args.text

/-- The native message that the arguments describe. -/
def SecurityListRequest.Args.native (text : V → Bytes) (args : SecurityListRequest.Args V) :
    Native.SecurityListRequest Bytes where
  securityReqId := text args.securityReqId
  securityListRequestType := args.securityListRequestType
  symbol := text args.symbol
  securityExchange := text args.securityExchange
  tradingSessionId := text args.tradingSessionId
  subscriptionRequestType := args.subscriptionRequestType

/-- The native entry that the arguments describe. -/
def SecListGrp.Args.native (text : V → Bytes) (args : SecListGrp.Args V) :
    Native.SecListGrp Bytes where
  symbol := text args.symbol
  contractMultiplier := .ofDouble args.contractMultiplier
  securityExchange := text args.securityExchange
  minTradeVol := .ofDouble args.minTradeVol
  tradingSessionId := text args.tradingSessionId
  minPriceIncrement := .ofDouble args.minPriceIncrement

/-- The native message that the arguments describe. -/
def SecurityList.Args.native (text : V → Bytes) (args : SecurityList.Args V) :
    Native.SecurityList Bytes where
  securityReqId := text args.securityReqId
  securityResponseId := text args.securityResponseId
  securityRequestResult := args.securityRequestResult
  noRelatedSym := args.noRelatedSym.map (·.native text)

/-- The native message that the arguments describe. -/
def SecurityDefinitionRequest.Args.native (text : V → Bytes)
    (args : SecurityDefinitionRequest.Args V) :
    Native.SecurityDefinitionRequest Bytes where
  securityReqId := text args.securityReqId
  securityRequestType := args.securityRequestType
  symbol := text args.symbol
  securityExchange := text args.securityExchange
  tradingSessionId := text args.tradingSessionId
  subscriptionRequestType := args.subscriptionRequestType

/-- The native message that the arguments describe. -/
def SecurityDefinition.Args.native (X : Foreign) (text : V → Bytes)
    (args : SecurityDefinition.Args V) :
    Native.SecurityDefinition Bytes where
  securityReqId := text args.securityReqId
  securityResponseId := text args.securityResponseId
  securityResponseType := args.securityResponseType
  symbol := text args.symbol
  contractMultiplier := .ofDouble args.contractMultiplier
  securityExchange := text args.securityExchange
  tradingSessionId := text args.tradingSessionId
  minTradeVol := .ofDouble args.minTradeVol
  minPriceIncrement := X.decimal

/-- The native message that the arguments describe. -/
def SecurityStatusRequest.Args.native (text : V → Bytes) (args : SecurityStatusRequest.Args V) :
    Native.SecurityStatusRequest Bytes where
  securityStatusReqId := text args.securityStatusReqId
  symbol := text args.symbol
  securityExchange := text args.securityExchange
  subscriptionRequestType := args.subscriptionRequestType
  tradingSessionId := text args.tradingSessionId

/-- The native message that the arguments describe. -/
def SecurityStatus.Args.native (text : V → Bytes) (args : SecurityStatus.Args V) :
    Native.SecurityStatus Bytes where
  securityStatusReqId := text args.securityStatusReqId
  symbol := text args.symbol
  securityExchange := text args.securityExchange
  tradingSessionId := text args.tradingSessionId
  unsolicitedIndicator := args.unsolicitedIndicator
  securityTradingStatus := args.securityTradingStatus
  transactTime := wholeMilliseconds args.transactTime

/-- The native entry that the arguments describe. -/
def InstrmtMDReq.Args.native (text : V → Bytes) (args : InstrmtMDReq.Args V) :
    Native.InstrmtMDReq Bytes where
  symbol := text args.symbol
  securityExchange := text args.securityExchange

/-- The native message that the arguments describe. -/
def MarketDataRequest.Args.native (text : V → Bytes) (args : MarketDataRequest.Args V) :
    Native.MarketDataRequest X Bytes where
  mdReqId := text args.mdReqId
  subscriptionRequestType := args.subscriptionRequestType
  marketDepth := args.marketDepth
  mdUpdateType := args.mdUpdateType
  aggregatedBook := args.aggregatedBook
  noMdEntryTypes := args.noMdEntryTypes.map Native.MDReq.mk
  noRelatedSym := args.noRelatedSym.map (·.native text)
  noTradingSessions := []
  customType := X.customType
  customValue := X.customValue

/-- The native message that the arguments describe. -/
def OrderStatusRequest.Args.native (text : V → Bytes) (args : OrderStatusRequest.Args V) :
    Native.OrderStatusRequest X Bytes where
  orderId := text args.orderId
  clOrdId := text args.clOrdId
  noPartyIds := []
  ordStatusReqId := text args.ordStatusReqId
  account := text args.account
  symbol := text args.symbol
  securityExchange := text args.securityExchange
  side := args.side

/-- The native message that the arguments describe. -/
def OrderMassStatusRequest.Args.native (text : V → Bytes) (args : OrderMassStatusRequest.Args V) :
    Native.OrderMassStatusRequest X Bytes where
  massStatusReqId := text args.massStatusReqId
  massStatusReqType := args.massStatusReqType
  noPartyIds := []
  account := text args.account
  tradingSessionId := text args.tradingSessionId
  symbol := text args.symbol
  securityExchange := text args.securityExchange
  side := args.side

/-- The native message that the arguments describe. -/
def NewOrderSingle.Args.native (text : V → Bytes) (args : NewOrderSingle.Args V) :
    Native.NewOrderSingle X Bytes where
  clOrdId := text args.clOrdId
  secondaryClOrdId := text args.secondaryClOrdId
  noPartyIds := []
  account := text args.account
  handlInst := args.handlInst
  execInst := text args.execInst
  noTradingSessions := []
  symbol := text args.symbol
  securityExchange := text args.securityExchange
  side := args.side
  transactTime := wholeMilliseconds args.transactTime
  orderQty := .ofDouble args.orderQty
  ordType := args.ordType
  price := .ofDouble args.price
  stopPx := .ofDouble args.stopPx
  timeInForce := args.timeInForce
  text := text args.text
  positionEffect := args.positionEffect
  maxShow := .ofDouble args.maxShow

/-- The native message that the arguments describe. -/
def OrderCancelRequest.Args.native (text : V → Bytes) (args : OrderCancelRequest.Args V) :
    Native.OrderCancelRequest X Bytes where
  origClOrdId := text args.origClOrdId
  orderId := text args.orderId
  clOrdId := text args.clOrdId
  secondaryClOrdId := text args.secondaryClOrdId
  account := text args.account
  noPartyIds := []
  symbol := text args.symbol
  securityExchange := text args.securityExchange
  side := args.side
  transactTime := wholeMilliseconds args.transactTime
  orderQty := .ofDouble args.orderQty
  text := text args.text

/-- The native message that the arguments describe. -/
def OrderCancelReplaceRequest.Args.native (text : V → Bytes)
    (args : OrderCancelReplaceRequest.Args V) :
    Native.OrderCancelReplaceRequest X Bytes where
  orderId := text args.orderId
  noPartyIds := []
  origClOrdId := text args.origClOrdId
  clOrdId := text args.clOrdId
  secondaryClOrdId := text args.secondaryClOrdId
  account := text args.account
  symbol := text args.symbol
  securityExchange := text args.securityExchange
  orderQty := .ofDouble args.orderQty
  price := .ofDouble args.price
  side := args.side
  transactTime := wholeMilliseconds args.transactTime
  ordType := args.ordType

/-- The native message that the arguments describe. -/
def OrderMassCancelRequest.Args.native (text : V → Bytes) (args : OrderMassCancelRequest.Args V) :
    Native.OrderMassCancelRequest X Bytes where
  clOrdId := text args.clOrdId
  massCancelRequestType := args.massCancelRequestType
  tradingSessionId := text args.tradingSessionId
  symbol := text args.symbol
  securityExchange := text args.securityExchange
  side := args.side
  transactTime := wholeMilliseconds args.transactTime
  noPartyIds := []

/-- The native message that the arguments describe. -/
def TradeCaptureReportRequest.Args.native (text : V → Bytes)
    (args : TradeCaptureReportRequest.Args V) :
    Native.TradeCaptureReportRequest X Bytes where
  tradeRequestId := text args.tradeRequestId
  tradeRequestType := args.tradeRequestType
  subscriptionRequestType := args.subscriptionRequestType
  orderId := text args.orderId
  clOrdId := text args.clOrdId
  noPartyIds := []
  symbol := text args.symbol
  securityExchange := text args.securityExchange

/-- The native message that the arguments describe. -/
def RequestForPositions.Args.native (text : V → Bytes) (args : RequestForPositions.Args V) :
    Native.RequestForPositions X Bytes where
  posReqId := text args.posReqId
  posReqType := args.posReqType
  subscriptionRequestType := args.subscriptionRequestType
  noPartyIds := []
  account := text args.account
  accountType := args.accountType
  currency := text args.currency
  symbol := text args.symbol
  securityExchange := text args.securityExchange
  clearingBusinessDate := calendarDay args.clearingBusinessDate
  noTradingSessions := []
  transactTime := wholeMilliseconds args.transactTime

/-- The native message that the arguments describe. -/
def Arguments.native (text : V → Bytes) : Arguments V → Native.Message X Bytes
  | .logon args => .logon (args.native text)
  | .logout args => .logout (args.native text)
  | .testRequest args => .testRequest (args.native text)
  | .heartbeat args => .heartbeat (args.native text)
  | .resendRequest args => .resendRequest (args.native)
  | .reject args => .reject (args.native text)
  | .businessMessageReject args => .businessMessageReject (args.native text)
  | .userRequest args => .userRequest (args.native text)
  | .userResponse args => .userResponse (args.native text)
  | .tradingSessionStatusRequest args => .tradingSessionStatusRequest (args.native text)
  | .tradingSessionStatus args => .tradingSessionStatus (args.native text)
  | .securityListRequest args => .securityListRequest (args.native text)
  | .securityList args => .securityList (args.native text)
  | .securityDefinitionRequest args => .securityDefinitionRequest (args.native text)
  | .securityDefinition args => .securityDefinition (args.native X text)
  | .securityStatusRequest args => .securityStatusRequest (args.native text)
  | .securityStatus args => .securityStatus (args.native text)
  | .marketDataRequest args => .marketDataRequest (args.native text)
  | .orderStatusRequest args => .orderStatusRequest (args.native text)
  | .orderMassStatusRequest args => .orderMassStatusRequest (args.native text)
  | .newOrderSingle args => .newOrderSingle (args.native text)
  | .orderCancelRequest args => .orderCancelRequest (args.native text)
  | .orderCancelReplaceRequest args => .orderCancelReplaceRequest (args.native text)
  | .orderMassCancelRequest args => .orderMassCancelRequest (args.native text)
  | .tradeCaptureReportRequest args => .tradeCaptureReportRequest (args.native text)
  | .requestForPositions args => .requestForPositions (args.native text)

/-- The argument that is a duration. -/
def Arguments.seconds : Arguments V → Option Seconds
  | .logon args => some args.heartBtInt
  | _ => none

/-- The field that is a duration. -/
def Native.Message.seconds : Native.Message X V → Option Seconds
  | .logon value => some value.heartBtInt.toNat
  | _ => none

/-- A native message carries the arguments when it is the message that they describe, and a
duration was not wrapped to a smaller range. -/
def Arguments.Carried (text : V → Bytes) (args : Arguments V) (value : Native.Message X Bytes) :
    Prop :=
  value = args.native text ∧ value.seconds = args.seconds

/-! ### Construction and conversion -/

/-- The object that a Python constructor creates in a memory. -/
def Arguments.object (memory : Memory) (args : Arguments StringView) : Object StringView :=
  .message (args.construct memory.string (Memory.view memory.next))

/-- The condition under which the native message carries the arguments: the heartbeat
interval fits into 16 bits, the reference that a `BusinessMessageReject` holds still
resolves to its text, and the message is not a `RequestForPositions`. -/
def Arguments.Exact (memory later : Memory) : Arguments StringView → Prop
  | .logon args => 0 ≤ args.heartBtInt ∧ args.heartBtInt < 65536
  | .businessMessageReject args =>
      args.text.resolve later.store = some (memory.string args.text)
  | .requestForPositions _ => False
  | _ => True

variable {memory later : Memory}

/-- The native message that is converted in the later memory carries the arguments, with
the text that they had when the object was constructed. -/
def Arguments.CarriedIn (X : Foreign) (memory later : Memory) (args : Arguments StringView) :
    Prop :=
  ∃ value : Native.Message X Bytes,
    later.read X memory.next = some (.message (some <$> value)) ∧
      args.Carried memory.string value

/-! ### Lists of entries -/

/-- References to the members of the entries of a live object read the entries. -/
theorem read_entries {ε ν ν' : Type} {vector : String} {texts : ε → List (String × Bytes)}
    {toValue : (String → Bytes → StringView) → ε → ν}
    (toValue' : (String → Bytes → Option Bytes) → ε → ν') {map : ν → ν'} {id : ℕ}
    {object : Object StringView} (hobject : later.objects id = some object) {entries : List ε}
    (htexts : items vector texts entries ⊆ object.texts)
    (hmap : ∀ v e, map (toValue v e) =
      toValue' (fun name text => (v name text).resolve later.store) e)
    (hcongr : ∀ v e, (∀ t ∈ texts e, v t.1 t.2 = some t.2) →
      toValue' v e = toValue' (fun _ text => some text) e) :
    (create2 vector (Memory.view id) toValue entries).map map =
      entries.map (toValue' fun _ text => some text) := by
  have hown : ∀ p ∈ entries.zipIdx, ∀ t ∈ texts p.1,
      (Memory.view id (.item vector p.2 t.1) t.2).resolve later.store = some t.2 := by
    intro p hp t ht
    refine Memory.resolve_view hobject (p := (.item vector p.2 t.1, t.2)) (htexts ?_)
    exact List.mem_flatMap.mpr ⟨p, hp, List.mem_map_of_mem ht⟩
  have hfst : entries.zipIdx.map Prod.fst = entries := List.zipIdx_map_fst _ _
  calc (create2 vector (Memory.view id) toValue entries).map map
      = (entries.zipIdx.map Prod.fst).map (toValue' fun _ text => some text) := by
        rw [create2, List.map_map, List.map_map]
        refine List.map_congr_left ?_
        intro p hp
        exact (hmap _ _).trans (hcongr _ _ (hown p hp))
    _ = entries.map (toValue' fun _ text => some text) := by
        rw [hfst]

/-- The entries of a constructed `SecurityList` are carried. -/
theorem SecurityList.carried {args : SecurityList.Args StringView}
    (hlater : later.objects memory.next = some (Arguments.object memory (.securityList args))) :
    (Arguments.securityList args).CarriedIn X memory later := by
  let entries := create id (args.noRelatedSym.map (SecListGrp.construct memory.string))
  have hentries : (create2 "no_related_sym_" (Memory.view memory.next) SecListGrp.toValue
      entries).map ((fun v => v.resolve later.store) <$> ·) =
        (args.noRelatedSym.map (·.native memory.string)).map (some <$> ·) := by
    refine (read_entries SecListGrp.toValue hlater (List.subset_append_right _ _)
      (fun _ _ => rfl) ?_).trans ?_
    · intro v e h
      simp_all [SecListGrp.texts, SecListGrp.toValue]
    · rw [List.map_map]
      show (create id (args.noRelatedSym.map _)).map _ = _
      rw [create, List.map_id, List.map_map]
      rfl
  refine ⟨_, (Memory.read_eq hlater).trans ?_, rfl, rfl⟩
  exact congrArg (fun entries => some (Native.Value.message (.securityList
    ⟨some (memory.string args.securityReqId), some (memory.string args.securityResponseId),
      args.securityRequestResult, entries⟩))) hentries

/-- The entries of a constructed `MarketDataRequest` are carried. -/
theorem MarketDataRequest.carried {args : MarketDataRequest.Args StringView}
    (hlater : later.objects memory.next =
      some (Arguments.object memory (.marketDataRequest args))) :
    (Arguments.marketDataRequest args).CarriedIn X memory later := by
  let entries := create id (args.noRelatedSym.map (InstrmtMDReq.construct memory.string))
  have hentries : (create2 "no_related_sym_" (Memory.view memory.next) InstrmtMDReq.toValue
      entries).map ((fun v => v.resolve later.store) <$> ·) =
        (args.noRelatedSym.map (·.native memory.string)).map (some <$> ·) := by
    refine (read_entries InstrmtMDReq.toValue hlater (List.subset_append_right _ _)
      (fun _ _ => rfl) ?_).trans ?_
    · intro v e h
      simp_all [InstrmtMDReq.texts, InstrmtMDReq.toValue]
    · rw [List.map_map]
      show (create id (args.noRelatedSym.map _)).map _ = _
      rw [create, List.map_id, List.map_map]
      rfl
  refine ⟨_, (Memory.read_eq hlater).trans ?_, rfl, rfl⟩
  exact congrArg (fun entries => some (Native.Value.message (.marketDataRequest
    ⟨some (memory.string args.mdReqId), args.subscriptionRequestType, args.marketDepth,
      args.mdUpdateType, args.aggregatedBook, args.noMdEntryTypes.map Native.MDReq.mk, entries,
      [], X.customType, X.customValue⟩))) hentries

/-! ### The constructors whose conversions differ -/

/-- The heartbeat interval is carried when 16 bits can hold it. -/
theorem Logon.carried_iff {args : Logon.Args StringView}
    (hlater : later.objects memory.next = some (Arguments.object memory (.logon args))) :
    (Arguments.logon args).CarriedIn X memory later ↔
      0 ≤ args.heartBtInt ∧ args.heartBtInt < 65536 := by
  constructor
  · rintro ⟨value, -, rfl, hseconds⟩
    exact (toNat_ofInt_eq_iff _).mp (Option.some.inj hseconds)
  · intro h
    refine ⟨_, (Memory.read_eq hlater).trans rfl, rfl, ?_⟩
    exact congrArg some ((toNat_ofInt_eq_iff _).mpr h)

/-- The text is carried when the reference that the object holds still resolves to it. -/
theorem BusinessMessageReject.carried_iff {args : BusinessMessageReject.Args StringView}
    (hlater : later.objects memory.next =
      some (Arguments.object memory (.businessMessageReject args))) :
    (Arguments.businessMessageReject args).CarriedIn X memory later ↔
      args.text.resolve later.store = some (memory.string args.text) := by
  constructor
  · rintro ⟨value, hvalue, rfl, -⟩
    rw [Memory.read_eq hlater, Option.some.injEq] at hvalue
    exact List.head_eq_of_cons_eq (congrArg Native.Value.borrowed hvalue)
  · intro h
    refine ⟨_, ?_, rfl, rfl⟩
    rw [Memory.read_eq hlater]
    exact congrArg (fun text => some (Native.Value.message (.businessMessageReject
      ⟨args.refSeqNum, args.refMsgType, some (memory.string args.businessRejectRefId),
        args.businessRejectReason, text⟩))) h

/-- The date is never carried: the conversion to a calendar day is always `{}`. -/
theorem RequestForPositions.not_carried {args : RequestForPositions.Args StringView}
    (hlater : later.objects memory.next =
      some (Arguments.object memory (.requestForPositions args))) :
    ¬ (Arguments.requestForPositions args).CarriedIn X memory later := by
  rintro ⟨value, hvalue, rfl, -⟩
  rw [Memory.read_eq hlater, Option.some.injEq] at hvalue
  injection hvalue with hvalue
  injection hvalue with hvalue
  injection hvalue with _ _ _ _ _ _ _ _ _ hday
  exact calendarDay_month_ne_zero _ (congrArg YearMonthDay.month hday).symm

/-! ### All constructors -/

/-- **Constructors.** While the object is alive, its native message carries the arguments
exactly when the condition `Arguments.Exact` holds of them. -/
theorem construct_carried_iff {args : Arguments StringView}
    (hlater : later.objects memory.next = some (args.object memory)) :
    args.CarriedIn X memory later ↔ args.Exact memory later := by
  cases args with
  | logon args => exact Logon.carried_iff hlater
  | businessMessageReject args => exact BusinessMessageReject.carried_iff hlater
  | requestForPositions args =>
      exact iff_of_false (RequestForPositions.not_carried hlater) id
  | securityList args => exact iff_of_true (SecurityList.carried hlater) trivial
  | marketDataRequest args => exact iff_of_true (MarketDataRequest.carried hlater) trivial
  | _ =>
    -- The other types copy each argument into a member and the member into a field.
    exact iff_of_true ⟨_, (Memory.read_eq hlater).trans rfl, rfl, rfl⟩ trivial

/-- A logon with a heartbeat interval of 30 seconds, of which Python has let go of the
strings. -/
theorem logon_carried :
    let memory := (default : Memory).write 0 (some [97, 98])
    let args : Arguments StringView :=
      .logon ⟨⟨0⟩, 30, 0, ⟨.buffer 0, 0, 0⟩, true, 1, ⟨.buffer 0, 0, 1⟩, ⟨.buffer 0, 1, 1⟩⟩
    args.CarriedIn default memory ((memory.create (args.object memory)).write 0 none) :=
  (construct_carried_iff rfl).mpr ⟨by decide, by decide⟩

/-- The date of a request for positions is dropped, a heartbeat interval of 65536 seconds
is wrapped, and the text of a business reject is lost with the string it was made from. -/
theorem construct_not_carried :
    let memory := (default : Memory).write 0 (some [97])
    let text : StringView := ⟨.buffer 0, 0, 1⟩
    let positions : Arguments StringView :=
      .requestForPositions ⟨text, ⟨0⟩, ⟨0⟩, text, ⟨0⟩, text, text, text, 0, 0⟩
    let logon : Arguments StringView := .logon ⟨⟨0⟩, 65536, 0, text, true, 1, text, text⟩
    let reject : Arguments StringView := .businessMessageReject ⟨1, ⟨0⟩, text, ⟨0⟩, text⟩
    ¬ positions.CarriedIn default memory (memory.create (positions.object memory)) ∧
      ¬ logon.CarriedIn default memory (memory.create (logon.object memory)) ∧
      ¬ reject.CarriedIn default memory
        ((memory.create (reject.object memory)).write 0 none) := by
  intro memory text positions logon reject
  refine ⟨RequestForPositions.not_carried rfl, ?_, ?_⟩
  · intro h
    obtain ⟨-, hlt⟩ := (Logon.carried_iff rfl).mp h
    exact absurd hlt (by decide)
  · intro h
    cases (BusinessMessageReject.carried_iff rfl).mp h

end RoqPython.Fix
