import RoqPython.Fix.Types

/-!
# Trade Capture and Position Messages

The trade capture reports and the position messages. `RequestForPositions` is the one
constructor that takes a calendar date from a point in time.
-/

namespace RoqPython.Fix

variable {X : Foreign} {V : Type}

/-- `roq::codec::fix::TradeCaptureReportRequest`. -/
structure Native.TradeCaptureReportRequest (X : Foreign) (S : Type) where
  tradeRequestId : S
  tradeRequestType : Enum .tradeRequestType
  subscriptionRequestType : Enum .subscriptionRequestType
  orderId : S
  clOrdId : S
  noPartyIds : List X.Party
  symbol : S
  securityExchange : S
deriving Functor

/-- The wrapper `TradeCaptureReportRequest`. -/
structure TradeCaptureReportRequest where
  tradeRequestId : Bytes
  tradeRequestType : Enum .tradeRequestType
  subscriptionRequestType : Enum .subscriptionRequestType
  orderId : Bytes
  clOrdId : Bytes
  symbol : Bytes
  securityExchange : Bytes

namespace TradeCaptureReportRequest

/-- The `std::string` members. -/
@[simp]
def texts (self : TradeCaptureReportRequest) : List (Member × Bytes) :=
  [(.field "trade_request_id_", self.tradeRequestId), (.field "order_id_", self.orderId),
   (.field "cl_ord_id_", self.clOrdId), (.field "symbol_", self.symbol),
   (.field "security_exchange_", self.securityExchange)]

/-- `explicit TradeCaptureReportRequest(value_type const &value)`. -/
def ofValue (string : V → Bytes)
    (value : Native.TradeCaptureReportRequest X V) : TradeCaptureReportRequest where
  tradeRequestId := string value.tradeRequestId
  tradeRequestType := value.tradeRequestType
  subscriptionRequestType := value.subscriptionRequestType
  orderId := string value.orderId
  clOrdId := string value.clOrdId
  symbol := string value.symbol
  securityExchange := string value.securityExchange

/-- `operator value_type() const`. -/
@[simp]
def toValue (view : Member → Bytes → V) (self : TradeCaptureReportRequest) :
    Native.TradeCaptureReportRequest X V where
  tradeRequestId := view (.field "trade_request_id_") self.tradeRequestId
  tradeRequestType := self.tradeRequestType
  subscriptionRequestType := self.subscriptionRequestType
  orderId := view (.field "order_id_") self.orderId
  clOrdId := view (.field "cl_ord_id_") self.clOrdId
  noPartyIds := []
  symbol := view (.field "symbol_") self.symbol
  securityExchange := view (.field "security_exchange_") self.securityExchange

/-- The arguments of the Python constructor of `TradeCaptureReportRequest`. -/
structure Args (S : Type) where
  tradeRequestId : S
  tradeRequestType : Enum .tradeRequestType
  subscriptionRequestType : Enum .subscriptionRequestType
  orderId : S
  clOrdId : S
  symbol : S
  securityExchange : S

/-- The constructor that `pybind11::init` selects. -/
def construct (string : V → Bytes) (args : Args V) : TradeCaptureReportRequest where
  tradeRequestId := string args.tradeRequestId
  tradeRequestType := args.tradeRequestType
  subscriptionRequestType := args.subscriptionRequestType
  orderId := string args.orderId
  clOrdId := string args.clOrdId
  symbol := string args.symbol
  securityExchange := string args.securityExchange

end TradeCaptureReportRequest

/-- `roq::codec::fix::TradeCaptureReport`. -/
structure Native.TradeCaptureReport (X : Foreign) (S : Type) where
  tradeReportId : S
  tradeRequestId : S
  execType : Enum .execType
  totNumTradeReports : UInt32
  lastRptRequested : Bool
  unsolicitedIndicator : Bool
  trdMatchId : S
  execId : S
  previouslyReported : Bool
  symbol : S
  securityExchange : S
  lastQty : Decimal
  lastPx : Decimal
  tradeDate : YearMonthDay
  transactTime : Milliseconds
  noSides : List X.TrdCapRptSide
deriving Functor

/-- The wrapper `TradeCaptureReport`. -/
structure TradeCaptureReport where
  tradeReportId : Bytes
  tradeRequestId : Bytes
  execType : Enum .execType
  totNumTradeReports : UInt32
  lastRptRequested : Bool
  unsolicitedIndicator : Bool
  trdMatchId : Bytes
  execId : Bytes
  previouslyReported : Bool
  symbol : Bytes
  securityExchange : Bytes
  lastQty : Decimal
  lastPx : Decimal
  tradeDate : YearMonthDay
  transactTime : Milliseconds

namespace TradeCaptureReport

/-- The `std::string` members. -/
@[simp]
def texts (self : TradeCaptureReport) : List (Member × Bytes) :=
  [(.field "trade_report_id_", self.tradeReportId),
   (.field "trade_request_id_", self.tradeRequestId), (.field "trd_match_id_", self.trdMatchId),
   (.field "exec_id_", self.execId), (.field "symbol_", self.symbol),
   (.field "security_exchange_", self.securityExchange)]

/-- `explicit TradeCaptureReport(value_type const &value)`. -/
def ofValue (string : V → Bytes)
    (value : Native.TradeCaptureReport X V) : TradeCaptureReport where
  tradeReportId := string value.tradeReportId
  tradeRequestId := string value.tradeRequestId
  execType := value.execType
  totNumTradeReports := value.totNumTradeReports
  lastRptRequested := value.lastRptRequested
  unsolicitedIndicator := value.unsolicitedIndicator
  trdMatchId := string value.trdMatchId
  execId := string value.execId
  previouslyReported := value.previouslyReported
  symbol := string value.symbol
  securityExchange := string value.securityExchange
  lastQty := value.lastQty
  lastPx := value.lastPx
  tradeDate := value.tradeDate
  transactTime := value.transactTime

/-- `operator value_type() const`. -/
@[simp]
def toValue (view : Member → Bytes → V) (self : TradeCaptureReport) :
    Native.TradeCaptureReport X V where
  tradeReportId := view (.field "trade_report_id_") self.tradeReportId
  tradeRequestId := view (.field "trade_request_id_") self.tradeRequestId
  execType := self.execType
  totNumTradeReports := self.totNumTradeReports
  lastRptRequested := self.lastRptRequested
  unsolicitedIndicator := self.unsolicitedIndicator
  trdMatchId := view (.field "trd_match_id_") self.trdMatchId
  execId := view (.field "exec_id_") self.execId
  previouslyReported := self.previouslyReported
  symbol := view (.field "symbol_") self.symbol
  securityExchange := view (.field "security_exchange_") self.securityExchange
  lastQty := self.lastQty
  lastPx := self.lastPx
  tradeDate := self.tradeDate
  transactTime := self.transactTime
  noSides := []

end TradeCaptureReport

/-- `roq::codec::fix::RequestForPositions`. -/
structure Native.RequestForPositions (X : Foreign) (S : Type) where
  posReqId : S
  posReqType : Enum .posReqType
  subscriptionRequestType : Enum .subscriptionRequestType
  noPartyIds : List X.Party
  account : S
  accountType : Enum .accountType
  currency : S
  symbol : S
  securityExchange : S
  clearingBusinessDate : YearMonthDay
  noTradingSessions : List X.TradingSession
  transactTime : Milliseconds
deriving Functor

/-- The wrapper `RequestForPositions`. -/
structure RequestForPositions where
  posReqId : Bytes
  posReqType : Enum .posReqType
  subscriptionRequestType : Enum .subscriptionRequestType
  account : Bytes
  accountType : Enum .accountType
  currency : Bytes
  symbol : Bytes
  securityExchange : Bytes
  clearingBusinessDate : YearMonthDay
  transactTime : Milliseconds

namespace RequestForPositions

/-- The `std::string` members. -/
@[simp]
def texts (self : RequestForPositions) : List (Member × Bytes) :=
  [(.field "pos_req_id_", self.posReqId), (.field "account_", self.account),
   (.field "currency_", self.currency), (.field "symbol_", self.symbol),
   (.field "security_exchange_", self.securityExchange)]

/-- `explicit RequestForPositions(value_type const &value)`. -/
def ofValue (string : V → Bytes)
    (value : Native.RequestForPositions X V) : RequestForPositions where
  posReqId := string value.posReqId
  posReqType := value.posReqType
  subscriptionRequestType := value.subscriptionRequestType
  account := string value.account
  accountType := value.accountType
  currency := string value.currency
  symbol := string value.symbol
  securityExchange := string value.securityExchange
  clearingBusinessDate := value.clearingBusinessDate
  transactTime := value.transactTime

/-- `operator value_type() const`. -/
@[simp]
def toValue (view : Member → Bytes → V) (self : RequestForPositions) :
    Native.RequestForPositions X V where
  posReqId := view (.field "pos_req_id_") self.posReqId
  posReqType := self.posReqType
  subscriptionRequestType := self.subscriptionRequestType
  noPartyIds := []
  account := view (.field "account_") self.account
  accountType := self.accountType
  currency := view (.field "currency_") self.currency
  symbol := view (.field "symbol_") self.symbol
  securityExchange := view (.field "security_exchange_") self.securityExchange
  clearingBusinessDate := self.clearingBusinessDate
  noTradingSessions := []
  transactTime := self.transactTime

/-- The arguments of the Python constructor of `RequestForPositions`. -/
structure Args (S : Type) where
  posReqId : S
  posReqType : Enum .posReqType
  subscriptionRequestType : Enum .subscriptionRequestType
  account : S
  accountType : Enum .accountType
  currency : S
  symbol : S
  securityExchange : S
  clearingBusinessDate : TimePoint
  transactTime : TimePoint

/-- The constructor that `pybind11::init` selects. -/
def construct (string : V → Bytes) (args : Args V) : RequestForPositions where
  posReqId := string args.posReqId
  posReqType := args.posReqType
  subscriptionRequestType := args.subscriptionRequestType
  account := string args.account
  accountType := args.accountType
  currency := string args.currency
  symbol := string args.symbol
  securityExchange := string args.securityExchange
  clearingBusinessDate := DateTime.toYearMonthDay ⟨args.clearingBusinessDate⟩
  transactTime := DateTime.toMilliseconds ⟨args.transactTime⟩

end RequestForPositions

/-- `roq::codec::fix::RequestForPositionsAck`. -/
structure Native.RequestForPositionsAck (X : Foreign) (S : Type) where
  posMaintRptId : S
  posReqId : S
  totalNumPosReports : UInt32
  unsolicitedIndicator : Bool
  posReqResult : Enum .posReqResult
  posReqStatus : Enum .posReqStatus
  noPartyIds : List X.Party
  account : S
  accountType : Enum .accountType
  text : S
deriving Functor

/-- The wrapper `RequestForPositionsAck`. -/
structure RequestForPositionsAck where
  posMaintRptId : Bytes
  posReqId : Bytes
  totalNumPosReports : UInt32
  unsolicitedIndicator : Bool
  posReqResult : Enum .posReqResult
  posReqStatus : Enum .posReqStatus
  account : Bytes
  accountType : Enum .accountType
  text : Bytes

namespace RequestForPositionsAck

/-- The `std::string` members. -/
@[simp]
def texts (self : RequestForPositionsAck) : List (Member × Bytes) :=
  [(.field "pos_maint_rpt_id_", self.posMaintRptId), (.field "pos_req_id_", self.posReqId),
   (.field "account_", self.account), (.field "text_", self.text)]

/-- `explicit RequestForPositionsAck(value_type const &value)`. -/
def ofValue (string : V → Bytes)
    (value : Native.RequestForPositionsAck X V) : RequestForPositionsAck where
  posMaintRptId := string value.posMaintRptId
  posReqId := string value.posReqId
  totalNumPosReports := value.totalNumPosReports
  unsolicitedIndicator := value.unsolicitedIndicator
  posReqResult := value.posReqResult
  posReqStatus := value.posReqStatus
  account := string value.account
  accountType := value.accountType
  text := string value.text

/-- `operator value_type() const`. -/
@[simp]
def toValue (view : Member → Bytes → V) (self : RequestForPositionsAck) :
    Native.RequestForPositionsAck X V where
  posMaintRptId := view (.field "pos_maint_rpt_id_") self.posMaintRptId
  posReqId := view (.field "pos_req_id_") self.posReqId
  totalNumPosReports := self.totalNumPosReports
  unsolicitedIndicator := self.unsolicitedIndicator
  posReqResult := self.posReqResult
  posReqStatus := self.posReqStatus
  noPartyIds := []
  account := view (.field "account_") self.account
  accountType := self.accountType
  text := view (.field "text_") self.text

end RequestForPositionsAck

/-- `roq::codec::fix::PositionReport`. -/
structure Native.PositionReport (X : Foreign) (S : Type) where
  posMaintRptId : S
  posReqId : S
  posReqType : Enum .posReqType
  subscriptionRequestType : Enum .subscriptionRequestType
  totalNumPosReports : UInt32
  unsolicitedIndicator : Bool
  posReqResult : Enum .posReqResult
  clearingBusinessDate : YearMonthDay
  noPartyIds : List X.Party
  account : S
  accountType : Enum .accountType
  symbol : S
  securityExchange : S
  currency : S
  settlPrice : Decimal
  settlPriceType : Enum .settlPriceType
  priorSettlPrice : Decimal
  noPositions : List X.PositionQty
  noPosAmt : List X.PositionAmountData
  text : S
deriving Functor

/-- The wrapper `PositionReport`. -/
structure PositionReport where
  posMaintRptId : Bytes
  posReqId : Bytes
  posReqType : Enum .posReqType
  subscriptionRequestType : Enum .subscriptionRequestType
  totalNumPosReports : UInt32
  unsolicitedIndicator : Bool
  posReqResult : Enum .posReqResult
  clearingBusinessDate : YearMonthDay
  account : Bytes
  accountType : Enum .accountType
  symbol : Bytes
  securityExchange : Bytes
  currency : Bytes
  settlPrice : Decimal
  settlPriceType : Enum .settlPriceType
  priorSettlPrice : Decimal
  text : Bytes

namespace PositionReport

/-- The `std::string` members. -/
@[simp]
def texts (self : PositionReport) : List (Member × Bytes) :=
  [(.field "pos_maint_rpt_id_", self.posMaintRptId), (.field "pos_req_id_", self.posReqId),
   (.field "account_", self.account), (.field "symbol_", self.symbol),
   (.field "security_exchange_", self.securityExchange), (.field "currency_", self.currency),
   (.field "text_", self.text)]

/-- `explicit PositionReport(value_type const &value)`. -/
def ofValue (string : V → Bytes) (value : Native.PositionReport X V) : PositionReport where
  posMaintRptId := string value.posMaintRptId
  posReqId := string value.posReqId
  posReqType := value.posReqType
  subscriptionRequestType := value.subscriptionRequestType
  totalNumPosReports := value.totalNumPosReports
  unsolicitedIndicator := value.unsolicitedIndicator
  posReqResult := value.posReqResult
  clearingBusinessDate := value.clearingBusinessDate
  account := string value.account
  accountType := value.accountType
  symbol := string value.symbol
  securityExchange := string value.securityExchange
  currency := string value.currency
  settlPrice := value.settlPrice
  settlPriceType := value.settlPriceType
  priorSettlPrice := value.priorSettlPrice
  text := string value.text

/-- `operator value_type() const`. -/
@[simp]
def toValue (view : Member → Bytes → V) (self : PositionReport) : Native.PositionReport X V where
  posMaintRptId := view (.field "pos_maint_rpt_id_") self.posMaintRptId
  posReqId := view (.field "pos_req_id_") self.posReqId
  posReqType := self.posReqType
  subscriptionRequestType := self.subscriptionRequestType
  totalNumPosReports := self.totalNumPosReports
  unsolicitedIndicator := self.unsolicitedIndicator
  posReqResult := self.posReqResult
  clearingBusinessDate := self.clearingBusinessDate
  noPartyIds := []
  account := view (.field "account_") self.account
  accountType := self.accountType
  symbol := view (.field "symbol_") self.symbol
  securityExchange := view (.field "security_exchange_") self.securityExchange
  currency := view (.field "currency_") self.currency
  settlPrice := self.settlPrice
  settlPriceType := self.settlPriceType
  priorSettlPrice := self.priorSettlPrice
  noPositions := []
  noPosAmt := []
  text := view (.field "text_") self.text

end PositionReport

end RoqPython.Fix
