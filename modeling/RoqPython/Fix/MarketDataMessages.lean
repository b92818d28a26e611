import RoqPython.Fix.Types

/-!
# Market Data Messages

The market data request, its reject and the two refresh messages, with the entry types
`InstrmtMDReq`, `MDFull` and `MDInc`. The list messages hold their entries twice, once as
wrappers and once as native entries whose text refers to the wrappers.
-/

namespace RoqPython.Fix

variable {X : Foreign} {V W : Type}

/-- `roq::codec::fix::InstrmtMDReq`. -/
structure Native.InstrmtMDReq (S : Type) where
  symbol : S
  securityExchange : S
deriving Functor

/-- The wrapper `InstrmtMDReq` of an entry. -/
structure InstrmtMDReq where
  symbol : Bytes
  securityExchange : Bytes

namespace InstrmtMDReq

/-- The `std::string` members. -/
@[simp]
def texts (self : InstrmtMDReq) : List (String × Bytes) :=
  [("symbol_", self.symbol), ("security_exchange_", self.securityExchange)]

/-- `explicit InstrmtMDReq(value_type const &value)`. -/
def ofValue (string : V → Bytes) (value : Native.InstrmtMDReq V) : InstrmtMDReq where
  symbol := string value.symbol
  securityExchange := string value.securityExchange

/-- `operator value_type() const`. -/
@[simp]
def toValue (view : String → Bytes → V) (self : InstrmtMDReq) : Native.InstrmtMDReq V where
  symbol := view "symbol_" self.symbol
  securityExchange := view "security_exchange_" self.securityExchange

/-- The arguments of the Python constructor of `InstrmtMDReq`. -/
structure Args (S : Type) where
  symbol : S
  securityExchange : S

/-- The constructor that `pybind11::init` selects. -/
def construct (string : V → Bytes) (args : Args V) : InstrmtMDReq where
  symbol := string args.symbol
  securityExchange := string args.securityExchange

end InstrmtMDReq

/-- `roq::codec::fix::MDReq`. -/
structure Native.MDReq where
  mdEntryType : Enum .mdEntryType
deriving DecidableEq

/-- `roq::codec::fix::MarketDataRequest`. -/
structure Native.MarketDataRequest (X : Foreign) (S : Type) where
  mdReqId : S
  subscriptionRequestType : Enum .subscriptionRequestType
  marketDepth : UInt32
  mdUpdateType : Enum .mdUpdateType
  aggregatedBook : Bool
  noMdEntryTypes : List Native.MDReq
  noRelatedSym : List (Native.InstrmtMDReq S)
  noTradingSessions : List X.TradingSession
  customType : X.CustomType
  customValue : X.CustomValue
deriving Functor

/-- The wrapper `MarketDataRequest`. -/
structure MarketDataRequest (V : Type) where
  mdReqId : Bytes
  subscriptionRequestType : Enum .subscriptionRequestType
  marketDepth : UInt32
  mdUpdateType : Enum .mdUpdateType
  aggregatedBook : Bool
  noMdEntryTypes : List Native.MDReq
  noRelatedSym : List InstrmtMDReq
  noRelatedSym2 : List (Native.InstrmtMDReq V)

namespace MarketDataRequest

/-- Change the references that the wrapper holds. -/
def map (f : V → W) (self : MarketDataRequest V) : MarketDataRequest W :=
  { self with noRelatedSym2 := self.noRelatedSym2.map (f <$> ·) }

/-- The `std::string` members and those of the entries. -/
@[simp]
def texts (self : MarketDataRequest V) : List (Member × Bytes) :=
  [(.field "md_req_id_", self.mdReqId)] ++
    items "no_related_sym_" InstrmtMDReq.texts self.noRelatedSym

/-- `explicit MarketDataRequest(value_type const &value)`. -/
def ofValue (string : V → Bytes) (view : Member → Bytes → V)
    (value : Native.MarketDataRequest X V) : MarketDataRequest V :=
  let noRelatedSym := create (InstrmtMDReq.ofValue string) value.noRelatedSym
  { mdReqId := string value.mdReqId
    subscriptionRequestType := value.subscriptionRequestType
    marketDepth := value.marketDepth
    mdUpdateType := value.mdUpdateType
    aggregatedBook := value.aggregatedBook
    noMdEntryTypes := value.noMdEntryTypes
    noRelatedSym
    noRelatedSym2 := create2 "no_related_sym_" view InstrmtMDReq.toValue noRelatedSym }

/-- `operator value_type() const`. -/
@[simp]
def toValue (view : Member → Bytes → V) (self : MarketDataRequest V) :
    Native.MarketDataRequest X V where
  mdReqId := view (.field "md_req_id_") self.mdReqId
  subscriptionRequestType := self.subscriptionRequestType
  marketDepth := self.marketDepth
  mdUpdateType := self.mdUpdateType
  aggregatedBook := self.aggregatedBook
  noMdEntryTypes := self.noMdEntryTypes
  noRelatedSym := self.noRelatedSym2
  noTradingSessions := []
  customType := X.customType
  customValue := X.customValue

/-- The arguments of the Python constructor of `MarketDataRequest`. -/
structure Args (S : Type) where
  mdReqId : S
  subscriptionRequestType : Enum .subscriptionRequestType
  marketDepth : UInt32
  mdUpdateType : Enum .mdUpdateType
  aggregatedBook : Bool
  noMdEntryTypes : List (Enum .mdEntryType)
  noRelatedSym : List (InstrmtMDReq.Args S)

/-- The constructor that `pybind11::init` selects. -/
def construct (string : V → Bytes) (view : Member → Bytes → V)
    (args : Args V) : MarketDataRequest V :=
  let noRelatedSym := create id (args.noRelatedSym.map (InstrmtMDReq.construct string))
  { mdReqId := string args.mdReqId
    subscriptionRequestType := args.subscriptionRequestType
    marketDepth := args.marketDepth
    mdUpdateType := args.mdUpdateType
    aggregatedBook := args.aggregatedBook
    noMdEntryTypes := args.noMdEntryTypes.map Native.MDReq.mk
    noRelatedSym
    noRelatedSym2 := create2 "no_related_sym_" view InstrmtMDReq.toValue noRelatedSym }

end MarketDataRequest

/-- `roq::codec::fix::MarketDataRequestReject`. -/
structure Native.MarketDataRequestReject (S : Type) where
  mdReqId : S
  mdReqRejReason : Enum .mdReqRejReason
  text : S
deriving Functor

/-- The wrapper `MarketDataRequestReject`. -/
structure MarketDataRequestReject where
  mdReqId : Bytes
  mdReqRejReason : Enum .mdReqRejReason
  text : Bytes

namespace MarketDataRequestReject

/-- The `std::string` members. -/
@[simp]
def texts (self : MarketDataRequestReject) : List (Member × Bytes) :=
  [(.field "md_req_id_", self.mdReqId), (.field "text_", self.text)]

/-- `explicit MarketDataRequestReject(value_type const &value)`. -/
def ofValue (string : V → Bytes)
    (value : Native.MarketDataRequestReject V) : MarketDataRequestReject where
  mdReqId := string value.mdReqId
  mdReqRejReason := value.mdReqRejReason
  text := string value.text

/-- `operator value_type() const`. -/
@[simp]
def toValue (view : Member → Bytes → V) (self : MarketDataRequestReject) :
    Native.MarketDataRequestReject V where
  mdReqId := view (.field "md_req_id_") self.mdReqId
  mdReqRejReason := self.mdReqRejReason
  text := view (.field "text_") self.text

end MarketDataRequestReject

/-- `roq::codec::fix::MDFull`. -/
structure Native.MDFull (S : Type) where
  mdEntryType : Enum .mdEntryType
  mdEntryPx : Decimal
  mdEntrySize : Decimal
  mdEntryDate : YearMonthDay
  mdEntryTime : HhMmSs
  tradingSessionId : S
  expireTime : S
  orderId : S
  numberOfOrders : UInt32
  mdEntryPositionNo : UInt32
deriving Functor

/-- The wrapper `MDFull` of an entry. -/
structure MDFull where
  mdEntryType : Enum .mdEntryType
  mdEntryPx : Decimal
  mdEntrySize : Decimal
  mdEntryDate : YearMonthDay
  mdEntryTime : HhMmSs
  tradingSessionId : Bytes
  expireTime : Bytes
  orderId : Bytes
  numberOfOrders : UInt32
  mdEntryPositionNo : UInt32

namespace MDFull

/-- The `std::string` members. -/
@[simp]
def texts (self : MDFull) : List (String × Bytes) :=
  [("trading_session_id_", self.tradingSessionId), ("expire_time_", self.expireTime),
   ("order_id_", self.orderId)]

/-- `explicit MDFull(value_type const &value)`. -/
def ofValue (string : V → Bytes) (value : Native.MDFull V) : MDFull where
  mdEntryType := value.mdEntryType
  mdEntryPx := value.mdEntryPx
  mdEntrySize := value.mdEntrySize
  mdEntryDate := value.mdEntryDate
  mdEntryTime := value.mdEntryTime
  tradingSessionId := string value.tradingSessionId
  expireTime := string value.expireTime
  orderId := string value.orderId
  numberOfOrders := value.numberOfOrders
  mdEntryPositionNo := value.mdEntryPositionNo

/-- `operator value_type() const`. -/
@[simp]
def toValue (view : String → Bytes → V) (self : MDFull) : Native.MDFull V where
  mdEntryType := self.mdEntryType
  mdEntryPx := self.mdEntryPx
  mdEntrySize := self.mdEntrySize
  mdEntryDate := self.mdEntryDate
  mdEntryTime := self.mdEntryTime
  tradingSessionId := view "trading_session_id_" self.tradingSessionId
  expireTime := view "expire_time_" self.expireTime
  orderId := view "order_id_" self.orderId
  numberOfOrders := self.numberOfOrders
  mdEntryPositionNo := self.mdEntryPositionNo

end MDFull

/-- `roq::codec::fix::MDInc`. -/
structure Native.MDInc (S : Type) where
  mdUpdateAction : Enum .mdUpdateAction
  mdEntryType : Enum .mdEntryType
  symbol : S
  securityExchange : S
  mdEntryPx : Decimal
  mdEntrySize : Decimal
  mdEntryDate : YearMonthDay
  mdEntryTime : HhMmSs
  tradingSessionId : S
  expireTime : S
  orderId : S
  numberOfOrders : UInt32
  mdEntryPositionNo : UInt32
  text : S
deriving Functor

/-- The wrapper `MDInc` of an entry. -/
structure MDInc where
  mdUpdateAction : Enum .mdUpdateAction
  mdEntryType : Enum .mdEntryType
  symbol : Bytes
  securityExchange : Bytes
  mdEntryPx : Decimal
  mdEntrySize : Decimal
  mdEntryDate : YearMonthDay
  mdEntryTime : HhMmSs
  tradingSessionId : Bytes
  expireTime : Bytes
  orderId : Bytes
  numberOfOrders : UInt32
  mdEntryPositionNo : UInt32
  text : Bytes

namespace MDInc

/-- The `std::string` members. -/
@[simp]
def texts (self : MDInc) : List (String × Bytes) :=
  [("symbol_", self.symbol), ("security_exchange_", self.securityExchange),
   ("trading_session_id_", self.tradingSessionId), ("expire_time_", self.expireTime),
   ("order_id_", self.orderId), ("text_", self.text)]

/-- `explicit MDInc(value_type const &value)`. -/
def ofValue (string : V → Bytes) (value : Native.MDInc V) : MDInc where
  mdUpdateAction := value.mdUpdateAction
  mdEntryType := value.mdEntryType
  symbol := string value.symbol
  securityExchange := string value.securityExchange
  mdEntryPx := value.mdEntryPx
  mdEntrySize := value.mdEntrySize
  mdEntryDate := value.mdEntryDate
  mdEntryTime := value.mdEntryTime
  tradingSessionId := string value.tradingSessionId
  expireTime := string value.expireTime
  orderId := string value.orderId
  numberOfOrders := value.numberOfOrders
  mdEntryPositionNo := value.mdEntryPositionNo
  text := string value.text

/-- `operator value_type() const`. -/
@[simp]
def toValue (view : String → Bytes → V) (self : MDInc) : Native.MDInc V where
  mdUpdateAction := self.mdUpdateAction
  mdEntryType := self.mdEntryType
  symbol := view "symbol_" self.symbol
  securityExchange := view "security_exchange_" self.securityExchange
  mdEntryPx := self.mdEntryPx
  mdEntrySize := self.mdEntrySize
  mdEntryDate := self.mdEntryDate
  mdEntryTime := self.mdEntryTime
  tradingSessionId := view "trading_session_id_" self.tradingSessionId
  expireTime := view "expire_time_" self.expireTime
  orderId := view "order_id_" self.orderId
  numberOfOrders := self.numberOfOrders
  mdEntryPositionNo := self.mdEntryPositionNo
  text := view "text_" self.text

end MDInc

/-- `roq::codec::fix::MarketDataSnapshotFullRefresh`. -/
structure Native.MarketDataSnapshotFullRefresh (S : Type) where
  mdReqId : S
  symbol : S
  securityExchange : S
  noMdEntries : List (Native.MDFull S)
deriving Functor

/-- The wrapper `MarketDataSnapshotFullRefresh`. -/
structure MarketDataSnapshotFullRefresh (V : Type) where
  mdReqId : Bytes
  symbol : Bytes
  securityExchange : Bytes
  noMdEntries : List MDFull
  noMdEntries2 : List (Native.MDFull V)

namespace MarketDataSnapshotFullRefresh

/-- Change the references that the wrapper holds. -/
def map (f : V → W) (self : MarketDataSnapshotFullRefresh V) : MarketDataSnapshotFullRefresh W :=
  { self with noMdEntries2 := self.noMdEntries2.map (f <$> ·) }

/-- The `std::string` members and those of the entries. -/
@[simp]
def texts (self : MarketDataSnapshotFullRefresh V) : List (Member × Bytes) :=
  [(.field "md_req_id_", self.mdReqId), (.field "symbol_", self.symbol),
   (.field "security_exchange_", self.securityExchange)] ++
    items "no_md_entries_" MDFull.texts self.noMdEntries

/-- `explicit MarketDataSnapshotFullRefresh(value_type const &value)`. -/
def ofValue (string : V → Bytes) (view : Member → Bytes → V)
    (value : Native.MarketDataSnapshotFullRefresh V) : MarketDataSnapshotFullRefresh V :=
  let noMdEntries := create (MDFull.ofValue string) value.noMdEntries
  { mdReqId := string value.mdReqId
    symbol := string value.symbol
    securityExchange := string value.securityExchange
    noMdEntries
    noMdEntries2 := create2 "no_md_entries_" view MDFull.toValue noMdEntries }

/-- `operator value_type() const`. -/
@[simp]
def toValue (view : Member → Bytes → V) (self : MarketDataSnapshotFullRefresh V) :
    Native.MarketDataSnapshotFullRefresh V where
  mdReqId := view (.field "md_req_id_") self.mdReqId
  symbol := view (.field "symbol_") self.symbol
  securityExchange := view (.field "security_exchange_") self.securityExchange
  noMdEntries := self.noMdEntries2

end MarketDataSnapshotFullRefresh

/-- `roq::codec::fix::MarketDataIncrementalRefresh`. -/
structure Native.MarketDataIncrementalRefresh (S : Type) where
  mdReqId : S
  noMdEntries : List (Native.MDInc S)
deriving Functor

/-- The wrapper `MarketDataIncrementalRefresh`. -/
structure MarketDataIncrementalRefresh (V : Type) where
  mdReqId : Bytes
  noMdEntries : List MDInc
  noMdEntries2 : List (Native.MDInc V)

namespace MarketDataIncrementalRefresh

/-- Change the references that the wrapper holds. -/
def map (f : V → W) (self : MarketDataIncrementalRefresh V) : MarketDataIncrementalRefresh W :=
  { self with noMdEntries2 := self.noMdEntries2.map (f <$> ·) }

/-- The `std::string` members and those of the entries. -/
@[simp]
def texts (self : MarketDataIncrementalRefresh V) : List (Member × Bytes) :=
  [(.field "md_req_id_", self.mdReqId)] ++
    items "no_md_entries_" MDInc.texts self.noMdEntries

/-- `explicit MarketDataIncrementalRefresh(value_type const &value)`. -/
def ofValue (string : V → Bytes) (view : Member → Bytes → V)
    (value : Native.MarketDataIncrementalRefresh V) : MarketDataIncrementalRefresh V :=
  let noMdEntries := create (MDInc.ofValue string) value.noMdEntries
  { mdReqId := string value.mdReqId
    noMdEntries
    noMdEntries2 := create2 "no_md_entries_" view MDInc.toValue noMdEntries }

/-- `operator value_type() const`. -/
@[simp]
def toValue (view : Member → Bytes → V) (self : MarketDataIncrementalRefresh V) :
    Native.MarketDataIncrementalRefresh V where
  mdReqId := view (.field "md_req_id_") self.mdReqId
  noMdEntries := self.noMdEntries2

end MarketDataIncrementalRefresh

end RoqPython.Fix
