import RoqPython.Fix.Types

/-!
# Order Messages

The order requests, the rejects and reports on them, and `ExecutionReport`. No wrapper has a
member for the repeating groups `no_party_ids` and `no_trading_sessions`, which the
conversion operators leave empty.
-/

namespace RoqPython.Fix

variable {X : Foreign} {V : Type}

/-- `roq::codec::fix::OrderStatusRequest`. -/
structure Native.OrderStatusRequest (X : Foreign) (S : Type) where
  orderId : S
  clOrdId : S
  noPartyIds : List X.Party
  ordStatusReqId : S
  account : S
  symbol : S
  securityExchange : S
  side : Enum .side
deriving Functor

/-- The wrapper `OrderStatusRequest`. -/
structure OrderStatusRequest where
  orderId : Bytes
  clOrdId : Bytes
  ordStatusReqId : Bytes
  account : Bytes
  symbol : Bytes
  securityExchange : Bytes
  side : Enum .side

namespace OrderStatusRequest

/-- The `std::string` members. -/
@[simp]
def texts (self : OrderStatusRequest) : List (Member × Bytes) :=
  [(.field "order_id_", self.orderId), (.field "cl_ord_id_", self.clOrdId),
   (.field "ord_status_req_id_", self.ordStatusReqId), (.field "account_", self.account),
   (.field "symbol_", self.symbol), (.field "security_exchange_", self.securityExchange)]

/-- `explicit OrderStatusRequest(value_type const &value)`. -/
def ofValue (string : V → Bytes)
    (value : Native.OrderStatusRequest X V) : OrderStatusRequest where
  orderId := string value.orderId
  clOrdId := string value.clOrdId
  ordStatusReqId := string value.ordStatusReqId
  account := string value.account
  symbol := string value.symbol
  securityExchange := string value.securityExchange
  side := value.side

/-- `operator value_type() const`. -/
@[simp]
def toValue (view : Member → Bytes → V) (self : OrderStatusRequest) :
    Native.OrderStatusRequest X V where
  orderId := view (.field "order_id_") self.orderId
  clOrdId := view (.field "cl_ord_id_") self.clOrdId
  noPartyIds := []
  ordStatusReqId := view (.field "ord_status_req_id_") self.ordStatusReqId
  account := view (.field "account_") self.account
  symbol := view (.field "symbol_") self.symbol
  securityExchange := view (.field "security_exchange_") self.securityExchange
  side := self.side

/-- The arguments of the Python constructor of `OrderStatusRequest`. -/
structure Args (S : Type) where
  orderId : S
  clOrdId : S
  ordStatusReqId : S
  account : S
  symbol : S
  securityExchange : S
  side : Enum .side

/-- The constructor that `pybind11::init` selects. -/
def construct (string : V → Bytes) (args : Args V) : OrderStatusRequest where
  orderId := string args.orderId
  clOrdId := string args.clOrdId
  ordStatusReqId := string args.ordStatusReqId
  account := string args.account
  symbol := string args.symbol
  securityExchange := string args.securityExchange
  side := args.side

end OrderStatusRequest

/-- `roq::codec::fix::OrderMassStatusRequest`. -/
structure Native.OrderMassStatusRequest (X : Foreign) (S : Type) where
  massStatusReqId : S
  massStatusReqType : Enum .massStatusReqType
  noPartyIds : List X.Party
  account : S
  tradingSessionId : S
  symbol : S
  securityExchange : S
  side : Enum .side
deriving Functor

/-- The wrapper `OrderMassStatusRequest`. -/
structure OrderMassStatusRequest where
  massStatusReqId : Bytes
  massStatusReqType : Enum .massStatusReqType
  account : Bytes
  tradingSessionId : Bytes
  symbol : Bytes
  securityExchange : Bytes
  side : Enum .side

namespace OrderMassStatusRequest

/-- The `std::string` members. -/
@[simp]
def texts (self : OrderMassStatusRequest) : List (Member × Bytes) :=
  [(.field "mass_status_req_id_", self.massStatusReqId), (.field "account_", self.account),
   (.field "trading_session_id_", self.tradingSessionId), (.field "symbol_", self.symbol),
   (.field "security_exchange_", self.securityExchange)]

/-- `explicit OrderMassStatusRequest(value_type const &value)`. -/
def ofValue (string : V → Bytes)
    (value : Native.OrderMassStatusRequest X V) : OrderMassStatusRequest where
  massStatusReqId := string value.massStatusReqId
  massStatusReqType := value.massStatusReqType
  account := string value.account
  tradingSessionId := string value.tradingSessionId
  symbol := string value.symbol
  securityExchange := string value.securityExchange
  side := value.side

/-- `operator value_type() const`. -/
@[simp]
def toValue (view : Member → Bytes → V) (self : OrderMassStatusRequest) :
    Native.OrderMassStatusRequest X V where
  massStatusReqId := view (.field "mass_status_req_id_") self.massStatusReqId
  massStatusReqType := self.massStatusReqType
  noPartyIds := []
  account := view (.field "account_") self.account
  tradingSessionId := view (.field "trading_session_id_") self.tradingSessionId
  symbol := view (.field "symbol_") self.symbol
  securityExchange := view (.field "security_exchange_") self.securityExchange
  side := self.side

/-- The arguments of the Python constructor of `OrderMassStatusRequest`. -/
structure Args (S : Type) where
  massStatusReqId : S
  massStatusReqType : Enum .massStatusReqType
  account : S
  tradingSessionId : S
  symbol : S
  securityExchange : S
  side : Enum .side

/-- The constructor that `pybind11::init` selects. -/
def construct (string : V → Bytes) (args : Args V) : OrderMassStatusRequest where
  massStatusReqId := string args.massStatusReqId
  massStatusReqType := args.massStatusReqType
  account := string args.account
  tradingSessionId := string args.tradingSessionId
  symbol := string args.symbol
  securityExchange := string args.securityExchange
  side := args.side

end OrderMassStatusRequest

/-- `roq::codec::fix::NewOrderSingle`. -/
structure Native.NewOrderSingle (X : Foreign) (S : Type) where
  clOrdId : S
  secondaryClOrdId : S
  noPartyIds : List X.Party
  account : S
  handlInst : Enum .handlInst
  execInst : S
  noTradingSessions : List X.TradingSession
  symbol : S
  securityExchange : S
  side : Enum .side
  transactTime : Milliseconds
  orderQty : Decimal
  ordType : Enum .ordType
  price : Decimal
  stopPx : Decimal
  timeInForce : Enum .timeInForce
  text : S
  positionEffect : Enum .positionEffect
  maxShow : Decimal
deriving Functor

/-- The wrapper `NewOrderSingle`. -/
structure NewOrderSingle where
  clOrdId : Bytes
  secondaryClOrdId : Bytes
  account : Bytes
  handlInst : Enum .handlInst
  execInst : Bytes
  symbol : Bytes
  securityExchange : Bytes
  side : Enum .side
  transactTime : Milliseconds
  orderQty : Decimal
  ordType : Enum .ordType
  price : Decimal
  stopPx : Decimal
  timeInForce : Enum .timeInForce
  text : Bytes
  positionEffect : Enum .positionEffect
  maxShow : Decimal

namespace NewOrderSingle

/-- The `std::string` members. -/
@[simp]
def texts (self : NewOrderSingle) : List (Member × Bytes) :=
  [(.field "cl_ord_id_", self.clOrdId), (.field "secondary_cl_ord_id_", self.secondaryClOrdId),
   (.field "account_", self.account), (.field "exec_inst_", self.execInst),
   (.field "symbol_", self.symbol), (.field "security_exchange_", self.securityExchange),
   (.field "text_", self.text)]

/-- `explicit NewOrderSingle(value_type const &value)`. -/
def ofValue (string : V → Bytes) (value : Native.NewOrderSingle X V) : NewOrderSingle where
  clOrdId := string value.clOrdId
  secondaryClOrdId := string value.secondaryClOrdId
  account := string value.account
  handlInst := value.handlInst
  execInst := string value.execInst
  symbol := string value.symbol
  securityExchange := string value.securityExchange
  side := value.side
  transactTime := value.transactTime
  orderQty := value.orderQty
  ordType := value.ordType
  price := value.price
  stopPx := value.stopPx
  timeInForce := value.timeInForce
  text := string value.text
  positionEffect := value.positionEffect
  maxShow := value.maxShow

/-- `operator value_type() const`. -/
@[simp]
def toValue (view : Member → Bytes → V) (self : NewOrderSingle) : Native.NewOrderSingle X V where
  clOrdId := view (.field "cl_ord_id_") self.clOrdId
  secondaryClOrdId := view (.field "secondary_cl_ord_id_") self.secondaryClOrdId
  noPartyIds := []
  account := view (.field "account_") self.account
  handlInst := self.handlInst
  execInst := view (.field "exec_inst_") self.execInst
  noTradingSessions := []
  symbol := view (.field "symbol_") self.symbol
  securityExchange := view (.field "security_exchange_") self.securityExchange
  side := self.side
  transactTime := self.transactTime
  orderQty := self.orderQty
  ordType := self.ordType
  price := self.price
  stopPx := self.stopPx
  timeInForce := self.timeInForce
  text := view (.field "text_") self.text
  positionEffect := self.positionEffect
  maxShow := self.maxShow

/-- The arguments of the Python constructor of `NewOrderSingle`. -/
structure Args (S : Type) where
  clOrdId : S
  secondaryClOrdId : S
  account : S
  handlInst : Enum .handlInst
  execInst : S
  symbol : S
  securityExchange : S
  side : Enum .side
  transactTime : TimePoint
  orderQty : Double
  ordType : Enum .ordType
  price : Double
  stopPx : Double
  timeInForce : Enum .timeInForce
  text : S
  positionEffect : Enum .positionEffect
  maxShow : Double

/-- The constructor that `pybind11::init` selects. -/
def construct (string : V → Bytes) (args : Args V) : NewOrderSingle where
  clOrdId := string args.clOrdId
  secondaryClOrdId := string args.secondaryClOrdId
  account := string args.account
  handlInst := args.handlInst
  execInst := string args.execInst
  symbol := string args.symbol
  securityExchange := string args.securityExchange
  side := args.side
  transactTime := DateTime.toMilliseconds ⟨args.transactTime⟩
  orderQty := .ofDouble args.orderQty
  ordType := args.ordType
  price := .ofDouble args.price
  stopPx := .ofDouble args.stopPx
  timeInForce := args.timeInForce
  text := string args.text
  positionEffect := args.positionEffect
  maxShow := .ofDouble args.maxShow

end NewOrderSingle

/-- `roq::codec::fix::OrderCancelRequest`. -/
structure Native.OrderCancelRequest (X : Foreign) (S : Type) where
  origClOrdId : S
  orderId : S
  clOrdId : S
  secondaryClOrdId : S
  account : S
  noPartyIds : List X.Party
  symbol : S
  securityExchange : S
  side : Enum .side
  transactTime : Milliseconds
  orderQty : Decimal
  text : S
deriving Functor

/-- The wrapper `OrderCancelRequest`. -/
structure OrderCancelRequest where
  origClOrdId : Bytes
  orderId : Bytes
  clOrdId : Bytes
  secondaryClOrdId : Bytes
  account : Bytes
  symbol : Bytes
  securityExchange : Bytes
  side : Enum .side
  transactTime : Milliseconds
  orderQty : Decimal
  text : Bytes

namespace OrderCancelRequest

/-- The `std::string` members. -/
@[simp]
def texts (self : OrderCancelRequest) : List (Member × Bytes) :=
  [(.field "orig_cl_ord_id_", self.origClOrdId), (.field "order_id_", self.orderId),
   (.field "cl_ord_id_", self.clOrdId), (.field "secondary_cl_ord_id_", self.secondaryClOrdId),
   (.field "account_", self.account), (.field "symbol_", self.symbol),
   (.field "security_exchange_", self.securityExchange), (.field "text_", self.text)]

/-- `explicit OrderCancelRequest(value_type const &value)`. -/
def ofValue (string : V → Bytes)
    (value : Native.OrderCancelRequest X V) : OrderCancelRequest where
  origClOrdId := string value.origClOrdId
  orderId := string value.orderId
  clOrdId := string value.clOrdId
  secondaryClOrdId := string value.secondaryClOrdId
  account := string value.account
  symbol := string value.symbol
  securityExchange := string value.securityExchange
  side := value.side
  transactTime := value.transactTime
  orderQty := value.orderQty
  text := string value.text

/-- `operator value_type() const`. -/
@[simp]
def toValue (view : Member → Bytes → V) (self : OrderCancelRequest) :
    Native.OrderCancelRequest X V where
  origClOrdId := view (.field "orig_cl_ord_id_") self.origClOrdId
  orderId := view (.field "order_id_") self.orderId
  clOrdId := view (.field "cl_ord_id_") self.clOrdId
  secondaryClOrdId := view (.field "secondary_cl_ord_id_") self.secondaryClOrdId
  account := view (.field "account_") self.account
  noPartyIds := []
  symbol := view (.field "symbol_") self.symbol
  securityExchange := view (.field "security_exchange_") self.securityExchange
  side := self.side
  transactTime := self.transactTime
  orderQty := self.orderQty
  text := view (.field "text_") self.text

/-- The arguments of the Python constructor of `OrderCancelRequest`. -/
structure Args (S : Type) where
  origClOrdId : S
  orderId : S
  clOrdId : S
  secondaryClOrdId : S
  account : S
  symbol : S
  securityExchange : S
  side : Enum .side
  transactTime : TimePoint
  orderQty : Double
  text : S

/-- The constructor that `pybind11::init` selects. -/
def construct (string : V → Bytes) (args : Args V) : OrderCancelRequest where
  origClOrdId := string args.origClOrdId
  orderId := string args.orderId
  clOrdId := string args.clOrdId
  secondaryClOrdId := string args.secondaryClOrdId
  account := string args.account
  symbol := string args.symbol
  securityExchange := string args.securityExchange
  side := args.side
  transactTime := DateTime.toMilliseconds ⟨args.transactTime⟩
  orderQty := .ofDouble args.orderQty
  text := string args.text

end OrderCancelRequest

/-- `roq::codec::fix::OrderCancelReplaceRequest`. -/
structure Native.OrderCancelReplaceRequest (X : Foreign) (S : Type) where
  orderId : S
  noPartyIds : List X.Party
  origClOrdId : S
  clOrdId : S
  secondaryClOrdId : S
  account : S
  symbol : S
  securityExchange : S
  orderQty : Decimal
  price : Decimal
  side : Enum .side
  transactTime : Milliseconds
  ordType : Enum .ordType
deriving Functor

/-- The wrapper `OrderCancelReplaceRequest`. -/
structure OrderCancelReplaceRequest where
  orderId : Bytes
  origClOrdId : Bytes
  clOrdId : Bytes
  secondaryClOrdId : Bytes
  account : Bytes
  symbol : Bytes
  securityExchange : Bytes
  orderQty : Decimal
  price : Decimal
  side : Enum .side
  transactTime : Milliseconds
  ordType : Enum .ordType

namespace OrderCancelReplaceRequest

/-- The `std::string` members. -/
@[simp]
def texts (self : OrderCancelReplaceRequest) : List (Member × Bytes) :=
  [(.field "order_id_", self.orderId), (.field "orig_cl_ord_id_", self.origClOrdId),
   (.field "cl_ord_id_", self.clOrdId), (.field "secondary_cl_ord_id_", self.secondaryClOrdId),
   (.field "account_", self.account), (.field "symbol_", self.symbol),
   (.field "security_exchange_", self.securityExchange)]

/-- `explicit OrderCancelReplaceRequest(value_type const &value)`. -/
def ofValue (string : V → Bytes)
    (value : Native.OrderCancelReplaceRequest X V) : OrderCancelReplaceRequest where
  orderId := string value.orderId
  origClOrdId := string value.origClOrdId
  clOrdId := string value.clOrdId
  secondaryClOrdId := string value.secondaryClOrdId
  account := string value.account
  symbol := string value.symbol
  securityExchange := string value.securityExchange
  orderQty := value.orderQty
  price := value.price
  side := value.side
  transactTime := value.transactTime
  ordType := value.ordType

/-- `operator value_type() const`. -/
@[simp]
def toValue (view : Member → Bytes → V) (self : OrderCancelReplaceRequest) :
    Native.OrderCancelReplaceRequest X V where
  orderId := view (.field "order_id_") self.orderId
  noPartyIds := []
  origClOrdId := view (.field "orig_cl_ord_id_") self.origClOrdId
  clOrdId := view (.field "cl_ord_id_") self.clOrdId
  secondaryClOrdId := view (.field "secondary_cl_ord_id_") self.secondaryClOrdId
  account := view (.field "account_") self.account
  symbol := view (.field "symbol_") self.symbol
  securityExchange := view (.field "security_exchange_") self.securityExchange
  orderQty := self.orderQty
  price := self.price
  side := self.side
  transactTime := self.transactTime
  ordType := self.ordType

/-- The arguments of the Python constructor of `OrderCancelReplaceRequest`. -/
structure Args (S : Type) where
  orderId : S
  origClOrdId : S
  clOrdId : S
  secondaryClOrdId : S
  account : S
  symbol : S
  securityExchange : S
  orderQty : Double
  price : Double
  side : Enum .side
  transactTime : TimePoint
  ordType : Enum .ordType

/-- The constructor that `pybind11::init` selects. -/
def construct (string : V → Bytes) (args : Args V) : OrderCancelReplaceRequest where
  orderId := string args.orderId
  origClOrdId := string args.origClOrdId
  clOrdId := string args.clOrdId
  secondaryClOrdId := string args.secondaryClOrdId
  account := string args.account
  symbol := string args.symbol
  securityExchange := string args.securityExchange
  orderQty := .ofDouble args.orderQty
  price := .ofDouble args.price
  side := args.side
  transactTime := DateTime.toMilliseconds ⟨args.transactTime⟩
  ordType := args.ordType

end OrderCancelReplaceRequest

/-- `roq::codec::fix::OrderMassCancelRequest`. -/
structure Native.OrderMassCancelRequest (X : Foreign) (S : Type) where
  clOrdId : S
  massCancelRequestType : Enum .massCancelRequestType
  tradingSessionId : S
  symbol : S
  securityExchange : S
  side : Enum .side
  transactTime : Milliseconds
  noPartyIds : List X.Party
deriving Functor

/-- The wrapper `OrderMassCancelRequest`. -/
structure OrderMassCancelRequest where
  clOrdId : Bytes
  massCancelRequestType : Enum .massCancelRequestType
  tradingSessionId : Bytes
  symbol : Bytes
  securityExchange : Bytes
  side : Enum .side
  transactTime : Milliseconds

namespace OrderMassCancelRequest

/-- The `std::string` members. -/
@[simp]
def texts (self : OrderMassCancelRequest) : List (Member × Bytes) :=
  [(.field "cl_ord_id_", self.clOrdId), (.field "trading_session_id_", self.tradingSessionId),
   (.field "symbol_", self.symbol), (.field "security_exchange_", self.securityExchange)]

/-- `explicit OrderMassCancelRequest(value_type const &value)`. -/
def ofValue (string : V → Bytes)
    (value : Native.OrderMassCancelRequest X V) : OrderMassCancelRequest where
  clOrdId := string value.clOrdId
  massCancelRequestType := value.massCancelRequestType
  tradingSessionId := string value.tradingSessionId
  symbol := string value.symbol
  securityExchange := string value.securityExchange
  side := value.side
  transactTime := value.transactTime

/-- `operator value_type() const`. -/
@[simp]
def toValue (view : Member → Bytes → V) (self : OrderMassCancelRequest) :
    Native.OrderMassCancelRequest X V where
  clOrdId := view (.field "cl_ord_id_") self.clOrdId
  massCancelRequestType := self.massCancelRequestType
  tradingSessionId := view (.field "trading_session_id_") self.tradingSessionId
  symbol := view (.field "symbol_") self.symbol
  securityExchange := view (.field "security_exchange_") self.securityExchange
  side := self.side
  transactTime := self.transactTime
  noPartyIds := []

/-- The arguments of the Python constructor of `OrderMassCancelRequest`. -/
structure Args (S : Type) where
  clOrdId : S
  massCancelRequestType : Enum .massCancelRequestType
  tradingSessionId : S
  symbol : S
  securityExchange : S
  side : Enum .side
  transactTime : TimePoint

/-- The constructor that `pybind11::init` selects. -/
def construct (string : V → Bytes) (args : Args V) : OrderMassCancelRequest where
  clOrdId := string args.clOrdId
  massCancelRequestType := args.massCancelRequestType
  tradingSessionId := string args.tradingSessionId
  symbol := string args.symbol
  securityExchange := string args.securityExchange
  side := args.side
  transactTime := DateTime.toMilliseconds ⟨args.transactTime⟩

end OrderMassCancelRequest

/-- `roq::codec::fix::OrderCancelReject`. -/
structure Native.OrderCancelReject (S : Type) where
  orderId : S
  secondaryClOrdId : S
  clOrdId : S
  origClOrdId : S
  ordStatus : Enum .ordStatus
  workingIndicator : Bool
  account : S
  cxlRejResponseTo : Enum .cxlRejResponseTo
  cxlRejReason : Enum .cxlRejReason
  text : S
deriving Functor

/-- The wrapper `OrderCancelReject`. -/
structure OrderCancelReject where
  orderId : Bytes
  secondaryClOrdId : Bytes
  clOrdId : Bytes
  origClOrdId : Bytes
  ordStatus : Enum .ordStatus
  workingIndicator : Bool
  account : Bytes
  cxlRejResponseTo : Enum .cxlRejResponseTo
  cxlRejReason : Enum .cxlRejReason
  text : Bytes

namespace OrderCancelReject

/-- The `std::string` members. -/
@[simp]
def texts (self : OrderCancelReject) : List (Member × Bytes) :=
  [(.field "order_id_", self.orderId), (.field "secondary_cl_ord_id_", self.secondaryClOrdId),
   (.field "cl_ord_id_", self.clOrdId), (.field "orig_cl_ord_id_", self.origClOrdId),
   (.field "account_", self.account), (.field "text_", self.text)]

/-- `explicit OrderCancelReject(value_type const &value)`. -/
def ofValue (string : V → Bytes) (value : Native.OrderCancelReject V) : OrderCancelReject where
  orderId := string value.orderId
  secondaryClOrdId := string value.secondaryClOrdId
  clOrdId := string value.clOrdId
  origClOrdId := string value.origClOrdId
  ordStatus := value.ordStatus
  workingIndicator := value.workingIndicator
  account := string value.account
  cxlRejResponseTo := value.cxlRejResponseTo
  cxlRejReason := value.cxlRejReason
  text := string value.text

/-- `operator value_type() const`. -/
@[simp]
def toValue (view : Member → Bytes → V) (self : OrderCancelReject) :
    Native.OrderCancelReject V where
  orderId := view (.field "order_id_") self.orderId
  secondaryClOrdId := view (.field "secondary_cl_ord_id_") self.secondaryClOrdId
  clOrdId := view (.field "cl_ord_id_") self.clOrdId
  origClOrdId := view (.field "orig_cl_ord_id_") self.origClOrdId
  ordStatus := self.ordStatus
  workingIndicator := self.workingIndicator
  account := view (.field "account_") self.account
  cxlRejResponseTo := self.cxlRejResponseTo
  cxlRejReason := self.cxlRejReason
  text := view (.field "text_") self.text

end OrderCancelReject

/-- `roq::codec::fix::OrderMassCancelReport`. -/
structure Native.OrderMassCancelReport (X : Foreign) (S : Type) where
  clOrdId : S
  orderId : S
  massCancelRequestType : Enum .massCancelRequestType
  massCancelResponse : Enum .massCancelResponse
  massCancelRejectReason : Enum .massCancelRejectReason
  totalAffectedOrders : UInt32
  symbol : S
  securityExchange : S
  side : Enum .side
  text : S
  noPartyIds : List X.Party
deriving Functor

/-- The wrapper `OrderMassCancelReport`. -/
structure OrderMassCancelReport where
  clOrdId : Bytes
  orderId : Bytes
  massCancelRequestType : Enum .massCancelRequestType
  massCancelResponse : Enum .massCancelResponse
  massCancelRejectReason : Enum .massCancelRejectReason
  totalAffectedOrders : UInt32
  symbol : Bytes
  securityExchange : Bytes
  side : Enum .side
  text : Bytes

namespace OrderMassCancelReport

/-- The `std::string` members. -/
@[simp]
def texts (self : OrderMassCancelReport) : List (Member × Bytes) :=
  [(.field "cl_ord_id_", self.clOrdId), (.field "order_id_", self.orderId),
   (.field "symbol_", self.symbol), (.field "security_exchange_", self.securityExchange),
   (.field "text_", self.text)]

/-- `explicit OrderMassCancelReport(value_type const &value)`. -/
def ofValue (string : V → Bytes)
    (value : Native.OrderMassCancelReport X V) : OrderMassCancelReport where
  clOrdId := string value.clOrdId
  orderId := string value.orderId
  massCancelRequestType := value.massCancelRequestType
  massCancelResponse := value.massCancelResponse
  massCancelRejectReason := value.massCancelRejectReason
  totalAffectedOrders := value.totalAffectedOrders
  symbol := string value.symbol
  securityExchange := string value.securityExchange
  side := value.side
  text := string value.text

/-- `operator value_type() const`. -/
@[simp]
def toValue (view : Member → Bytes → V) (self : OrderMassCancelReport) :
    Native.OrderMassCancelReport X V where
  clOrdId := view (.field "cl_ord_id_") self.clOrdId
  orderId := view (.field "order_id_") self.orderId
  massCancelRequestType := self.massCancelRequestType
  massCancelResponse := self.massCancelResponse
  massCancelRejectReason := self.massCancelRejectReason
  totalAffectedOrders := self.totalAffectedOrders
  symbol := view (.field "symbol_") self.symbol
  securityExchange := view (.field "security_exchange_") self.securityExchange
  side := self.side
  text := view (.field "text_") self.text
  noPartyIds := []

end OrderMassCancelReport

/-- `roq::codec::fix::ExecutionReport`. -/
structure Native.ExecutionReport (X : Foreign) (S : Type) where
  orderId : S
  secondaryClOrdId : S
  clOrdId : S
  origClOrdId : S
  ordStatusReqId : S
  massStatusReqId : S
  totNumReports : UInt32
  lastRptRequested : Bool
  noPartyIds : List X.Party
  execId : S
  execType : Enum .execType
  ordStatus : Enum .ordStatus
  workingIndicator : Bool
  ordRejReason : Enum .ordRejReason
  account : S
  accountType : Enum .accountType
  symbol : S
  securityExchange : S
  side : Enum .side
  ordType : Enum .ordType
  orderQty : Decimal
  price : Decimal
  stopPx : Decimal
  currency : S
  timeInForce : Enum .timeInForce
  execInst : S
  lastQty : Decimal
  lastPx : Decimal
  tradingSessionId : S
  leavesQty : Decimal
  cumQty : Decimal
  avgPx : Decimal
  transactTime : Milliseconds
  positionEffect : Enum .positionEffect
  maxShow : Decimal
  text : S
  lastLiquidityInd : Enum .lastLiquidityInd
deriving Functor

/-- The wrapper `ExecutionReport`. -/
structure ExecutionReport where
  orderId : Bytes
  secondaryClOrdId : Bytes
  clOrdId : Bytes
  origClOrdId : Bytes
  ordStatusReqId : Bytes
  massStatusReqId : Bytes
  totNumReports : UInt32
  lastRptRequested : Bool
  execId : Bytes
  execType : Enum .execType
  ordStatus : Enum .ordStatus
  workingIndicator : Bool
  ordRejReason : Enum .ordRejReason
  account : Bytes
  accountType : Enum .accountType
  symbol : Bytes
  securityExchange : Bytes
  side : Enum .side
  ordType : Enum .ordType
  orderQty : Decimal
  price : Decimal
  stopPx : Decimal
  currency : Bytes
  timeInForce : Enum .timeInForce
  execInst : Bytes
  lastQty : Decimal
  lastPx : Decimal
  tradingSessionId : Bytes
  leavesQty : Decimal
  cumQty : Decimal
  avgPx : Decimal
  transactTime : Milliseconds
  positionEffect : Enum .positionEffect
  maxShow : Decimal
  text : Bytes
  lastLiquidityInd : Enum .lastLiquidityInd

namespace ExecutionReport

/-- The `std::string` members. -/
@[simp]
def texts (self : ExecutionReport) : List (Member × Bytes) :=
  [(.field "order_id_", self.orderId), (.field "secondary_cl_ord_id_", self.secondaryClOrdId),
   (.field "cl_ord_id_", self.clOrdId), (.field "orig_cl_ord_id_", self.origClOrdId),
   (.field "ord_status_req_id_", self.ordStatusReqId),
   (.field "mass_status_req_id_", self.massStatusReqId), (.field "exec_id_", self.execId),
   (.field "account_", self.account), (.field "symbol_", self.symbol),
   (.field "security_exchange_", self.securityExchange), (.field "currency_", self.currency),
   (.field "exec_inst_", self.execInst), (.field "trading_session_id_", self.tradingSessionId),
   (.field "text_", self.text)]

/-- `explicit ExecutionReport(value_type const &value)`. -/
def ofValue (string : V → Bytes) (value : Native.ExecutionReport X V) : ExecutionReport where
  orderId := string value.orderId
  secondaryClOrdId := string value.secondaryClOrdId
  clOrdId := string value.clOrdId
  origClOrdId := string value.origClOrdId
  ordStatusReqId := string value.ordStatusReqId
  massStatusReqId := string value.massStatusReqId
  totNumReports := value.totNumReports
  lastRptRequested := value.lastRptRequested
  execId := string value.execId
  execType := value.execType
  ordStatus := value.ordStatus
  workingIndicator := value.workingIndicator
  ordRejReason := value.ordRejReason
  account := string value.account
  accountType := value.accountType
  symbol := string value.symbol
  securityExchange := string value.securityExchange
  side := value.side
  ordType := value.ordType
  orderQty := value.orderQty
  price := value.price
  stopPx := value.stopPx
  currency := string value.currency
  timeInForce := value.timeInForce
  execInst := string value.execInst
  lastQty := value.lastQty
  lastPx := value.lastPx
  tradingSessionId := string value.tradingSessionId
  leavesQty := value.leavesQty
  cumQty := value.cumQty
  avgPx := value.avgPx
  transactTime := value.transactTime
  positionEffect := value.positionEffect
  maxShow := value.maxShow
  text := string value.text
  lastLiquidityInd := value.lastLiquidityInd

/-- `operator value_type() const`. -/
@[simp]
def toValue (view : Member → Bytes → V) (self : ExecutionReport) :
    Native.ExecutionReport X V where
  orderId := view (.field "order_id_") self.orderId
  secondaryClOrdId := view (.field "secondary_cl_ord_id_") self.secondaryClOrdId
  clOrdId := view (.field "cl_ord_id_") self.clOrdId
  origClOrdId := view (.field "orig_cl_ord_id_") self.origClOrdId
  ordStatusReqId := view (.field "ord_status_req_id_") self.ordStatusReqId
  massStatusReqId := view (.field "mass_status_req_id_") self.massStatusReqId
  totNumReports := self.totNumReports
  lastRptRequested := self.lastRptRequested
  noPartyIds := []
  execId := view (.field "exec_id_") self.execId
  execType := self.execType
  ordStatus := self.ordStatus
  workingIndicator := self.workingIndicator
  ordRejReason := self.ordRejReason
  account := view (.field "account_") self.account
  accountType := self.accountType
  symbol := view (.field "symbol_") self.symbol
  securityExchange := view (.field "security_exchange_") self.securityExchange
  side := self.side
  ordType := self.ordType
  orderQty := self.orderQty
  price := self.price
  stopPx := self.stopPx
  currency := view (.field "currency_") self.currency
  timeInForce := self.timeInForce
  execInst := view (.field "exec_inst_") self.execInst
  lastQty := self.lastQty
  lastPx := self.lastPx
  tradingSessionId := view (.field "trading_session_id_") self.tradingSessionId
  leavesQty := self.leavesQty
  cumQty := self.cumQty
  avgPx := self.avgPx
  transactTime := self.transactTime
  positionEffect := self.positionEffect
  maxShow := self.maxShow
  text := view (.field "text_") self.text
  lastLiquidityInd := self.lastLiquidityInd

end ExecutionReport

end RoqPython.Fix
