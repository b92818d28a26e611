import RoqPython.Fix.SessionMessages
import RoqPython.Fix.SecurityMessages
import RoqPython.Fix.MarketDataMessages
import RoqPython.Fix.OrderMessages
import RoqPython.Fix.PostTradeMessages

/-!
# Messages of Every Type

The sum of the 35 native message types (`Native.Message`), the sum of their wrappers
(`Encodeable`, the base class of the wrappers), and the sum of the argument lists of the
Python constructors (`Arguments`). The conversions of the single types become conversions
of the sums: `Encodeable.ofValue` is the overload set of `Decoder::Handler`, and
`Encodeable.toValue` is the virtual conversion behind `encode` and `__repr__`.

The wrapper of the message header is here as well.

## Main results

* `Encodeable.map_toValue`: a conversion to the native type commutes with a change of what
  text references are.
* `Encodeable.toValue_congr`: a conversion refers to text through the members only.
* `Encodeable.texts_nodup`: no two members of an object have the same path.
-/

namespace RoqPython.Fix

variable {X : Foreign} {V W : Type}

/-! ### The header -/

/-- `roq::fix::Header`. -/
structure Native.Header (S : Type) where
  version : Enum .version
  msgType : Enum .msgType
  senderCompId : S
  targetCompId : S
  msgSeqNum : UInt64
  sendingTime : Nanoseconds
deriving DecidableEq, Functor

/-- The wrapper `Header` of `header.hpp`. -/
structure Header where
  msgType : Enum .msgType
  senderCompId : Bytes
  targetCompId : Bytes
  msgSeqNum : UInt64
  sendingTime : Nanoseconds

namespace Header

/-- The `std::string` members. -/
def texts (self : Header) : List (Member × Bytes) :=
  [(.field "sender_comp_id_", self.senderCompId), (.field "target_comp_id_", self.targetCompId)]

/-- `explicit Header(value_type const &header)`. -/
def ofValue (string : V → Bytes) (header : Native.Header V) : Header where
  msgType := header.msgType
  senderCompId := string header.senderCompId
  targetCompId := string header.targetCompId
  msgSeqNum := header.msgSeqNum
  sendingTime := header.sendingTime

/-- `operator value_type() const`: the version is the constant `FIX_44`. -/
def toValue (X : Foreign) (view : Member → Bytes → V) (self : Header) : Native.Header V where
  version := X.FIX_44
  msgType := self.msgType
  senderCompId := view (.field "sender_comp_id_") self.senderCompId
  targetCompId := view (.field "target_comp_id_") self.targetCompId
  msgSeqNum := self.msgSeqNum
  sendingTime := self.sendingTime

end Header

/-! ### The sums -/

/-- A native message of any of the 35 types. -/
inductive Native.Message (X : Foreign) (S : Type)
  | logon (value : Native.Logon S)
  | logout (value : Native.Logout S)
  | testRequest (value : Native.TestRequest S)
  | heartbeat (value : Native.Heartbeat S)
  | resendRequest (value : Native.ResendRequest S)
  | reject (value : Native.Reject S)
  | businessMessageReject (value : Native.BusinessMessageReject S)
  | userRequest (value : Native.UserRequest S)
  | userResponse (value : Native.UserResponse S)
  | tradingSessionStatusRequest (value : Native.TradingSessionStatusRequest S)
  | tradingSessionStatus (value : Native.TradingSessionStatus S)
  | securityListRequest (value : Native.SecurityListRequest S)
  | securityList (value : Native.SecurityList S)
  | securityDefinitionRequest (value : Native.SecurityDefinitionRequest S)
  | securityDefinition (value : Native.SecurityDefinition S)
  | securityStatusRequest (value : Native.SecurityStatusRequest S)
  | securityStatus (value : Native.SecurityStatus S)
  | marketDataRequest (value : Native.MarketDataRequest X S)
  | marketDataRequestReject (value : Native.MarketDataRequestReject S)
  | marketDataSnapshotFullRefresh (value : Native.MarketDataSnapshotFullRefresh S)
  | marketDataIncrementalRefresh (value : Native.MarketDataIncrementalRefresh S)
  | orderStatusRequest (value : Native.OrderStatusRequest X S)
  | orderMassStatusRequest (value : Native.OrderMassStatusRequest X S)
  | newOrderSingle (value : Native.NewOrderSingle X S)
  | orderCancelRequest (value : Native.OrderCancelRequest X S)
  | orderCancelReplaceRequest (value : Native.OrderCancelReplaceRequest X S)
  | orderMassCancelRequest (value : Native.OrderMassCancelRequest X S)
  | orderCancelReject (value : Native.OrderCancelReject S)
  | orderMassCancelReport (value : Native.OrderMassCancelReport X S)
  | executionReport (value : Native.ExecutionReport X S)
  | tradeCaptureReportRequest (value : Native.TradeCaptureReportRequest X S)
  | tradeCaptureReport (value : Native.TradeCaptureReport X S)
  | requestForPositions (value : Native.RequestForPositions X S)
  | requestForPositionsAck (value : Native.RequestForPositionsAck X S)
  | positionReport (value : Native.PositionReport X S)
deriving Functor

/-- `T::MSG_TYPE`, as the type of the message. -/
def Native.Message.type : Native.Message X V → MessageType
  | .logon _ => .logon
  | .logout _ => .logout
  | .testRequest _ => .testRequest
  | .heartbeat _ => .heartbeat
  | .resendRequest _ => .resendRequest
  | .reject _ => .reject
  | .businessMessageReject _ => .businessMessageReject
  | .userRequest _ => .userRequest
  | .userResponse _ => .userResponse
  | .tradingSessionStatusRequest _ => .tradingSessionStatusRequest
  | .tradingSessionStatus _ => .tradingSessionStatus
  | .securityListRequest _ => .securityListRequest
  | .securityList _ => .securityList
  | .securityDefinitionRequest _ => .securityDefinitionRequest
  | .securityDefinition _ => .securityDefinition
  | .securityStatusRequest _ => .securityStatusRequest
  | .securityStatus _ => .securityStatus
  | .marketDataRequest _ => .marketDataRequest
  | .marketDataRequestReject _ => .marketDataRequestReject
  | .marketDataSnapshotFullRefresh _ => .marketDataSnapshotFullRefresh
  | .marketDataIncrementalRefresh _ => .marketDataIncrementalRefresh
  | .orderStatusRequest _ => .orderStatusRequest
  | .orderMassStatusRequest _ => .orderMassStatusRequest
  | .newOrderSingle _ => .newOrderSingle
  | .orderCancelRequest _ => .orderCancelRequest
  | .orderCancelReplaceRequest _ => .orderCancelReplaceRequest
  | .orderMassCancelRequest _ => .orderMassCancelRequest
  | .orderCancelReject _ => .orderCancelReject
  | .orderMassCancelReport _ => .orderMassCancelReport
  | .executionReport _ => .executionReport
  | .tradeCaptureReportRequest _ => .tradeCaptureReportRequest
  | .tradeCaptureReport _ => .tradeCaptureReport
  | .requestForPositions _ => .requestForPositions
  | .requestForPositionsAck _ => .requestForPositionsAck
  | .positionReport _ => .positionReport

/-- A wrapper of any of the 35 types: an object of the base class `Encodeable`. -/
inductive Encodeable (V : Type)
  | logon (self : Logon)
  | logout (self : Logout)
  | testRequest (self : TestRequest)
  | heartbeat (self : Heartbeat)
  | resendRequest (self : ResendRequest)
  | reject (self : Reject)
  | businessMessageReject (self : BusinessMessageReject V)
  | userRequest (self : UserRequest)
  | userResponse (self : UserResponse)
  | tradingSessionStatusRequest (self : TradingSessionStatusRequest)
  | tradingSessionStatus (self : TradingSessionStatus)
  | securityListRequest (self : SecurityListRequest)
  | securityList (self : SecurityList V)
  | securityDefinitionRequest (self : SecurityDefinitionRequest)
  | securityDefinition (self : SecurityDefinition)
  | securityStatusRequest (self : SecurityStatusRequest)
  | securityStatus (self : SecurityStatus)
  | marketDataRequest (self : MarketDataRequest V)
  | marketDataRequestReject (self : MarketDataRequestReject)
  | marketDataSnapshotFullRefresh (self : MarketDataSnapshotFullRefresh V)
  | marketDataIncrementalRefresh (self : MarketDataIncrementalRefresh V)
  | orderStatusRequest (self : OrderStatusRequest)
  | orderMassStatusRequest (self : OrderMassStatusRequest)
  | newOrderSingle (self : NewOrderSingle)
  | orderCancelRequest (self : OrderCancelRequest)
  | orderCancelReplaceRequest (self : OrderCancelReplaceRequest)
  | orderMassCancelRequest (self : OrderMassCancelRequest)
  | orderCancelReject (self : OrderCancelReject)
  | orderMassCancelReport (self : OrderMassCancelReport)
  | executionReport (self : ExecutionReport)
  | tradeCaptureReportRequest (self : TradeCaptureReportRequest)
  | tradeCaptureReport (self : TradeCaptureReport)
  | requestForPositions (self : RequestForPositions)
  | requestForPositionsAck (self : RequestForPositionsAck)
  | positionReport (self : PositionReport)

namespace Encodeable

/-- Change the references that a wrapper holds. -/
def map (f : V → W) : Encodeable V → Encodeable W
  | .logon self => .logon self
  | .logout self => .logout self
  | .testRequest self => .testRequest self
  | .heartbeat self => .heartbeat self
  | .resendRequest self => .resendRequest self
  | .reject self => .reject self
  | .businessMessageReject self => .businessMessageReject (self.map f)
  | .userRequest self => .userRequest self
  | .userResponse self => .userResponse self
  | .tradingSessionStatusRequest self => .tradingSessionStatusRequest self
  | .tradingSessionStatus self => .tradingSessionStatus self
  | .securityListRequest self => .securityListRequest self
  | .securityList self => .securityList (self.map f)
  | .securityDefinitionRequest self => .securityDefinitionRequest self
  | .securityDefinition self => .securityDefinition self
  | .securityStatusRequest self => .securityStatusRequest self
  | .securityStatus self => .securityStatus self
  | .marketDataRequest self => .marketDataRequest (self.map f)
  | .marketDataRequestReject self => .marketDataRequestReject self
  | .marketDataSnapshotFullRefresh self => .marketDataSnapshotFullRefresh (self.map f)
  | .marketDataIncrementalRefresh self => .marketDataIncrementalRefresh (self.map f)
  | .orderStatusRequest self => .orderStatusRequest self
  | .orderMassStatusRequest self => .orderMassStatusRequest self
  | .newOrderSingle self => .newOrderSingle self
  | .orderCancelRequest self => .orderCancelRequest self
  | .orderCancelReplaceRequest self => .orderCancelReplaceRequest self
  | .orderMassCancelRequest self => .orderMassCancelRequest self
  | .orderCancelReject self => .orderCancelReject self
  | .orderMassCancelReport self => .orderMassCancelReport self
  | .executionReport self => .executionReport self
  | .tradeCaptureReportRequest self => .tradeCaptureReportRequest self
  | .tradeCaptureReport self => .tradeCaptureReport self
  | .requestForPositions self => .requestForPositions self
  | .requestForPositionsAck self => .requestForPositionsAck self
  | .positionReport self => .positionReport self

/-- The text that the members of a wrapper own, by their paths. -/
def texts : Encodeable V → List (Member × Bytes)
  | .logon self => self.texts
  | .logout self => self.texts
  | .testRequest self => self.texts
  | .heartbeat self => self.texts
  | .resendRequest self => self.texts
  | .reject self => self.texts
  | .businessMessageReject self => self.texts
  | .userRequest self => self.texts
  | .userResponse self => self.texts
  | .tradingSessionStatusRequest self => self.texts
  | .tradingSessionStatus self => self.texts
  | .securityListRequest self => self.texts
  | .securityList self => self.texts
  | .securityDefinitionRequest self => self.texts
  | .securityDefinition self => self.texts
  | .securityStatusRequest self => self.texts
  | .securityStatus self => self.texts
  | .marketDataRequest self => self.texts
  | .marketDataRequestReject self => self.texts
  | .marketDataSnapshotFullRefresh self => self.texts
  | .marketDataIncrementalRefresh self => self.texts
  | .orderStatusRequest self => self.texts
  | .orderMassStatusRequest self => self.texts
  | .newOrderSingle self => self.texts
  | .orderCancelRequest self => self.texts
  | .orderCancelReplaceRequest self => self.texts
  | .orderMassCancelRequest self => self.texts
  | .orderCancelReject self => self.texts
  | .orderMassCancelReport self => self.texts
  | .executionReport self => self.texts
  | .tradeCaptureReportRequest self => self.texts
  | .tradeCaptureReport self => self.texts
  | .requestForPositions self => self.texts
  | .requestForPositionsAck self => self.texts
  | .positionReport self => self.texts

/-- `Decoder::Handler`: the overload for a native type constructs the wrapper of that type.
`string` copies text out of a reference, `view` refers to a member of the new object. -/
def ofValue (string : V → Bytes) (view : Member → Bytes → V) :
    Native.Message X V → Encodeable V
  | .logon value => .logon (.ofValue string value)
  | .logout value => .logout (.ofValue string value)
  | .testRequest value => .testRequest (.ofValue string value)
  | .heartbeat value => .heartbeat (.ofValue string value)
  | .resendRequest value => .resendRequest (.ofValue value)
  | .reject value => .reject (.ofValue string value)
  | .businessMessageReject value => .businessMessageReject (.ofValue string value)
  | .userRequest value => .userRequest (.ofValue string value)
  | .userResponse value => .userResponse (.ofValue string value)
  | .tradingSessionStatusRequest value => .tradingSessionStatusRequest (.ofValue string value)
  | .tradingSessionStatus value => .tradingSessionStatus (.ofValue string value)
  | .securityListRequest value => .securityListRequest (.ofValue string value)
  | .securityList value => .securityList (.ofValue string view value)
  | .securityDefinitionRequest value => .securityDefinitionRequest (.ofValue string value)
  | .securityDefinition value => .securityDefinition (.ofValue string value)
  | .securityStatusRequest value => .securityStatusRequest (.ofValue string value)
  | .securityStatus value => .securityStatus (.ofValue string value)
  | .marketDataRequest value => .marketDataRequest (.ofValue string view value)
  | .marketDataRequestReject value => .marketDataRequestReject (.ofValue string value)
  | .marketDataSnapshotFullRefresh value =>
      .marketDataSnapshotFullRefresh (.ofValue string view value)
  | .marketDataIncrementalRefresh value =>
      .marketDataIncrementalRefresh (.ofValue string view value)
  | .orderStatusRequest value => .orderStatusRequest (.ofValue string value)
  | .orderMassStatusRequest value => .orderMassStatusRequest (.ofValue string value)
  | .newOrderSingle value => .newOrderSingle (.ofValue string value)
  | .orderCancelRequest value => .orderCancelRequest (.ofValue string value)
  | .orderCancelReplaceRequest value => .orderCancelReplaceRequest (.ofValue string value)
  | .orderMassCancelRequest value => .orderMassCancelRequest (.ofValue string value)
  | .orderCancelReject value => .orderCancelReject (.ofValue string value)
  | .orderMassCancelReport value => .orderMassCancelReport (.ofValue string value)
  | .executionReport value => .executionReport (.ofValue string value)
  | .tradeCaptureReportRequest value => .tradeCaptureReportRequest (.ofValue string value)
  | .tradeCaptureReport value => .tradeCaptureReport (.ofValue string value)
  | .requestForPositions value => .requestForPositions (.ofValue string value)
  | .requestForPositionsAck value => .requestForPositionsAck (.ofValue string value)
  | .positionReport value => .positionReport (.ofValue string value)

/-- `static_cast<value_type>(*this)`: the conversion that `encode` and `__repr__` make. -/
def toValue (X : Foreign) (view : Member → Bytes → V) : Encodeable V → Native.Message X V
  | .logon self => .logon (self.toValue view)
  | .logout self => .logout (self.toValue view)
  | .testRequest self => .testRequest (self.toValue view)
  | .heartbeat self => .heartbeat (self.toValue view)
  | .resendRequest self => .resendRequest self.toValue
  | .reject self => .reject (self.toValue view)
  | .businessMessageReject self => .businessMessageReject (self.toValue view)
  | .userRequest self => .userRequest (self.toValue view)
  | .userResponse self => .userResponse (self.toValue view)
  | .tradingSessionStatusRequest self => .tradingSessionStatusRequest (self.toValue view)
  | .tradingSessionStatus self => .tradingSessionStatus (self.toValue view)
  | .securityListRequest self => .securityListRequest (self.toValue view)
  | .securityList self => .securityList (self.toValue view)
  | .securityDefinitionRequest self => .securityDefinitionRequest (self.toValue view)
  | .securityDefinition self => .securityDefinition (self.toValue X view)
  | .securityStatusRequest self => .securityStatusRequest (self.toValue view)
  | .securityStatus self => .securityStatus (self.toValue view)
  | .marketDataRequest self => .marketDataRequest (self.toValue view)
  | .marketDataRequestReject self => .marketDataRequestReject (self.toValue view)
  | .marketDataSnapshotFullRefresh self => .marketDataSnapshotFullRefresh (self.toValue view)
  | .marketDataIncrementalRefresh self => .marketDataIncrementalRefresh (self.toValue view)
  | .orderStatusRequest self => .orderStatusRequest (self.toValue view)
  | .orderMassStatusRequest self => .orderMassStatusRequest (self.toValue view)
  | .newOrderSingle self => .newOrderSingle (self.toValue view)
  | .orderCancelRequest self => .orderCancelRequest (self.toValue view)
  | .orderCancelReplaceRequest self => .orderCancelReplaceRequest (self.toValue view)
  | .orderMassCancelRequest self => .orderMassCancelRequest (self.toValue view)
  | .orderCancelReject self => .orderCancelReject (self.toValue view)
  | .orderMassCancelReport self => .orderMassCancelReport (self.toValue view)
  | .executionReport self => .executionReport (self.toValue view)
  | .tradeCaptureReportRequest self => .tradeCaptureReportRequest (self.toValue view)
  | .tradeCaptureReport self => .tradeCaptureReport (self.toValue view)
  | .requestForPositions self => .requestForPositions (self.toValue view)
  | .requestForPositionsAck self => .requestForPositionsAck (self.toValue view)
  | .positionReport self => .positionReport (self.toValue view)

/-- **Naturality.** Changing the references of a native message that was converted is
converting with other references. -/
theorem map_toValue (f : V → W) (view : Member → Bytes → V) (self : Encodeable V) :
    f <$> self.toValue X view = (self.map f).toValue X fun m text => f (view m text) := by
  cases self <;> rfl

/-- The references that a wrapper holds are not text that it owns. -/
theorem texts_map (f : V → W) (self : Encodeable V) : (self.map f).texts = self.texts := by
  cases self <;> rfl

/-- **Congruence.** A conversion refers to members of the object only, and to each with
the text that it owns. -/
theorem toValue_congr {v₁ v₂ : Member → Bytes → V} {self : Encodeable V}
    (h : ∀ p ∈ self.texts, v₁ p.1 p.2 = v₂ p.1 p.2) :
    self.toValue X v₁ = self.toValue X v₂ := by
  cases self <;> simp_all [texts, toValue]

/-- **Paths are unique.** No two members of an object have the same path. -/
theorem texts_nodup (self : Encodeable V) : (self.texts.map Prod.fst).Nodup := by
  cases self <;> simp [texts, -List.mem_map, -List.map_map, field_notMem_items]
  -- The object types with a vector of entries are left.
  all_goals
    refine items_nodup ?_ _
    simp

end Encodeable

/-- The arguments of a Python constructor, for the 26 types that have one. -/
inductive Arguments (S : Type)
  | logon (args : Logon.Args S)
  | logout (args : Logout.Args S)
  | testRequest (args : TestRequest.Args S)
  | heartbeat (args : Heartbeat.Args S)
  | resendRequest (args : ResendRequest.Args S)
  | reject (args : Reject.Args S)
  | businessMessageReject (args : BusinessMessageReject.Args S)
  | userRequest (args : UserRequest.Args S)
  | userResponse (args : UserResponse.Args S)
  | tradingSessionStatusRequest (args : TradingSessionStatusRequest.Args S)
  | tradingSessionStatus (args : TradingSessionStatus.Args S)
  | securityListRequest (args : SecurityListRequest.Args S)
  | securityList (args : SecurityList.Args S)
  | securityDefinitionRequest (args : SecurityDefinitionRequest.Args S)
  | securityDefinition (args : SecurityDefinition.Args S)
  | securityStatusRequest (args : SecurityStatusRequest.Args S)
  | securityStatus (args : SecurityStatus.Args S)
  | marketDataRequest (args : MarketDataRequest.Args S)
  | orderStatusRequest (args : OrderStatusRequest.Args S)
  | orderMassStatusRequest (args : OrderMassStatusRequest.Args S)
  | newOrderSingle (args : NewOrderSingle.Args S)
  | orderCancelRequest (args : OrderCancelRequest.Args S)
  | orderCancelReplaceRequest (args : OrderCancelReplaceRequest.Args S)
  | orderMassCancelRequest (args : OrderMassCancelRequest.Args S)
  | tradeCaptureReportRequest (args : TradeCaptureReportRequest.Args S)
  | requestForPositions (args : RequestForPositions.Args S)

/-- Construct the wrapper from the arguments. -/
def Arguments.construct (string : V → Bytes) (view : Member → Bytes → V) :
    Arguments V → Encodeable V
  | .logon args => .logon (.construct string args)
  | .logout args => .logout (.construct string args)
  | .testRequest args => .testRequest (.construct string args)
  | .heartbeat args => .heartbeat (.construct string args)
  | .resendRequest args => .resendRequest (.construct args)
  | .reject args => .reject (.construct string args)
  | .businessMessageReject args => .businessMessageReject (.construct string args)
  | .userRequest args => .userRequest (.construct string args)
  | .userResponse args => .userResponse (.construct string args)
  | .tradingSessionStatusRequest args => .tradingSessionStatusRequest (.construct string args)
  | .tradingSessionStatus args => .tradingSessionStatus (.construct string args)
  | .securityListRequest args => .securityListRequest (.construct string args)
  | .securityList args => .securityList (.construct string view args)
  | .securityDefinitionRequest args => .securityDefinitionRequest (.construct string args)
  | .securityDefinition args => .securityDefinition (.construct string args)
  | .securityStatusRequest args => .securityStatusRequest (.construct string args)
  | .securityStatus args => .securityStatus (.construct string args)
  | .marketDataRequest args => .marketDataRequest (.construct string view args)
  | .orderStatusRequest args => .orderStatusRequest (.construct string args)
  | .orderMassStatusRequest args => .orderMassStatusRequest (.construct string args)
  | .newOrderSingle args => .newOrderSingle (.construct string args)
  | .orderCancelRequest args => .orderCancelRequest (.construct string args)
  | .orderCancelReplaceRequest args => .orderCancelReplaceRequest (.construct string args)
  | .orderMassCancelRequest args => .orderMassCancelRequest (.construct string args)
  | .tradeCaptureReportRequest args => .tradeCaptureReportRequest (.construct string args)
  | .requestForPositions args => .requestForPositions (.construct string args)

end RoqPython.Fix
