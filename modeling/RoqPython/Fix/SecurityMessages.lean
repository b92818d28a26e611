import RoqPython.Fix.Types

/-!
# Session Status and Security Messages

The messages on trading sessions, security lists, definitions and status, with the entry
type `SecListGrp` of `SecurityList`.

`SecListGrp` keeps three decimals as plain doubles and rebuilds them with the default
precision, and `SecurityDefinition` has no member for `min_price_increment`.
-/

namespace RoqPython.Fix

variable {V W : Type}

/-- `roq::codec::fix::TradingSessionStatusRequest`. -/
structure Native.TradingSessionStatusRequest (S : Type) where
  tradSesReqId : S
  tradingSessionId : S
  subscriptionRequestType : Enum .subscriptionRequestType
deriving Functor

/-- The wrapper `TradingSessionStatusRequest`. -/
structure TradingSessionStatusRequest where
  tradSesReqId : Bytes
  tradingSessionId : Bytes
  subscriptionRequestType : Enum .subscriptionRequestType

namespace TradingSessionStatusRequest

/-- The `std::string` members. -/
@[simp]
def texts (self : TradingSessionStatusRequest) : List (Member × Bytes) :=
  [(.field "trad_ses_req_id_", self.tradSesReqId),
   (.field "trading_session_id_", self.tradingSessionId)]

/-- `explicit TradingSessionStatusRequest(value_type const &value)`. -/
def ofValue (string : V → Bytes)
    (value : Native.TradingSessionStatusRequest V) : TradingSessionStatusRequest where
  tradSesReqId := string value.tradSesReqId
  tradingSessionId := string value.tradingSessionId
  subscriptionRequestType := value.subscriptionRequestType

/-- `operator value_type() const`. -/
@[simp]
def toValue (view : Member → Bytes → V) (self : TradingSessionStatusRequest) :
    Native.TradingSessionStatusRequest V where
  tradSesReqId := view (.field "trad_ses_req_id_") self.tradSesReqId
  tradingSessionId := view (.field "trading_session_id_") self.tradingSessionId
  subscriptionRequestType := self.subscriptionRequestType

/-- The arguments of the Python constructor of `TradingSessionStatusRequest`. -/
structure Args (S : Type) where
  tradSesReqId : S
  tradingSessionId : S
  subscriptionRequestType : Enum .subscriptionRequestType

/-- The constructor that `pybind11::init` selects. -/
def construct (string : V → Bytes) (args : Args V) : TradingSessionStatusRequest where
  tradSesReqId := string args.tradSesReqId
  tradingSessionId := string args.tradingSessionId
  subscriptionRequestType := args.subscriptionRequestType

end TradingSessionStatusRequest

/-- `roq::codec::fix::TradingSessionStatus`. -/
structure Native.TradingSessionStatus (S : Type) where
  tradSesReqId : S
  tradingSessionId : S
  unsolicitedIndicator : Bool
  tradSesStatus : Enum .tradSesStatus
  tradSesStatusRejReason : Enum .tradSesStatusRejReason
  text : S
deriving Functor

/-- The wrapper `TradingSessionStatus`. -/
structure TradingSessionStatus where
  tradSesReqId : Bytes
  tradingSessionId : Bytes
  unsolicitedIndicator : Bool
  tradSesStatus : Enum .tradSesStatus
  tradSesStatusRejReason : Enum .tradSesStatusRejReason
  text : Bytes

namespace TradingSessionStatus

/-- The `std::string` members. -/
@[simp]
def texts (self : TradingSessionStatus) : List (Member × Bytes) :=
  [(.field "trad_ses_req_id_", self.tradSesReqId),
   (.field "trading_session_id_", self.tradingSessionId), (.field "text_", self.text)]

/-- `explicit TradingSessionStatus(value_type const &value)`. -/
def ofValue (string : V → Bytes)
    (value : Native.TradingSessionStatus V) : TradingSessionStatus where
  tradSesReqId := string value.tradSesReqId
  tradingSessionId := string value.tradingSessionId
  unsolicitedIndicator := value.unsolicitedIndicator
  tradSesStatus := value.tradSesStatus
  tradSesStatusRejReason := value.tradSesStatusRejReason
  text := string value.text

/-- `operator value_type() const`. -/
@[simp]
def toValue (view : Member → Bytes → V) (self : TradingSessionStatus) :
    Native.TradingSessionStatus V where
  tradSesReqId := view (.field "trad_ses_req_id_") self.tradSesReqId
  tradingSessionId := view (.field "trading_session_id_") self.tradingSessionId
  unsolicitedIndicator := self.unsolicitedIndicator
  tradSesStatus := self.tradSesStatus
  tradSesStatusRejReason := self.tradSesStatusRejReason
  text := view (.field "text_") self.text

/-- The arguments of the Python constructor of `TradingSessionStatus`. -/
structure Args (S : Type) where
  tradSesReqId : S
  tradingSessionId : S
  unsolicitedIndicator : Bool
  tradSesStatus : Enum .tradSesStatus
  tradSesStatusRejReason : Enum .tradSesStatusRejReason
  text : S

/-- The constructor that `pybind11::init` selects. -/
def construct (string : V → Bytes) (args : Args V) : TradingSessionStatus where
  tradSesReqId := string args.tradSesReqId
  tradingSessionId := string args.tradingSessionId
  unsolicitedIndicator := args.unsolicitedIndicator
  tradSesStatus := args.tradSesStatus
  tradSesStatusRejReason := args.tradSesStatusRejReason
  text := string args.text

end TradingSessionStatus

/-- `roq::codec::fix::SecurityListRequest`. -/
structure Native.SecurityListRequest (S : Type) where
  securityReqId : S
  securityListRequestType : Enum .securityListRequestType
  symbol : S
  securityExchange : S
  tradingSessionId : S
  subscriptionRequestType : Enum .subscriptionRequestType
deriving Functor

/-- The wrapper `SecurityListRequest`. -/
structure SecurityListRequest where
  securityReqId : Bytes
  securityListRequestType : Enum .securityListRequestType
  symbol : Bytes
  securityExchange : Bytes
  tradingSessionId : Bytes
  subscriptionRequestType : Enum .subscriptionRequestType

namespace SecurityListRequest

/-- The `std::string` members. -/
@[simp]
def texts (self : SecurityListRequest) : List (Member × Bytes) :=
  [(.field "security_req_id_", self.securityReqId), (.field "symbol_", self.symbol),
   (.field "security_exchange_", self.securityExchange),
   (.field "trading_session_id_", self.tradingSessionId)]

/-- `explicit SecurityListRequest(value_type const &value)`. -/
def ofValue (string : V → Bytes)
    (value : Native.SecurityListRequest V) : SecurityListRequest where
  securityReqId := string value.securityReqId
  securityListRequestType := value.securityListRequestType
  symbol := string value.symbol
  securityExchange := string value.securityExchange
  tradingSessionId := string value.tradingSessionId
  subscriptionRequestType := value.subscriptionRequestType

/-- `operator value_type() const`. -/
@[simp]
def toValue (view : Member → Bytes → V) (self : SecurityListRequest) :
    Native.SecurityListRequest V where
  securityReqId := view (.field "security_req_id_") self.securityReqId
  securityListRequestType := self.securityListRequestType
  symbol := view (.field "symbol_") self.symbol
  securityExchange := view (.field "security_exchange_") self.securityExchange
  tradingSessionId := view (.field "trading_session_id_") self.tradingSessionId
  subscriptionRequestType := self.subscriptionRequestType

/-- The arguments of the Python constructor of `SecurityListRequest`. -/
structure Args (S : Type) where
  securityReqId : S
  securityListRequestType : Enum .securityListRequestType
  symbol : S
  securityExchange : S
  tradingSessionId : S
  subscriptionRequestType : Enum .subscriptionRequestType

/-- The constructor that `pybind11::init` selects. -/
def construct (string : V → Bytes) (args : Args V) : SecurityListRequest where
  securityReqId := string args.securityReqId
  securityListRequestType := args.securityListRequestType
  symbol := string args.symbol
  securityExchange := string args.securityExchange
  tradingSessionId := string args.tradingSessionId
  subscriptionRequestType := args.subscriptionRequestType

end SecurityListRequest

/-- `roq::codec::fix::SecListGrp`. -/
structure Native.SecListGrp (S : Type) where
  symbol : S
  contractMultiplier : Decimal
  securityExchange : S
  minTradeVol : Decimal
  tradingSessionId : S
  minPriceIncrement : Decimal
deriving Functor

/-- The wrapper `SecListGrp` of an entry. -/
structure SecListGrp where
  symbol : Bytes
  contractMultiplier : Double
  securityExchange : Bytes
  minTradeVol : Double
  tradingSessionId : Bytes
  minPriceIncrement : Double

namespace SecListGrp

/-- The `std::string` members. -/
@[simp]
def texts (self : SecListGrp) : List (String × Bytes) :=
  [("symbol", self.symbol), ("security_exchange", self.securityExchange),
   ("trading_session_id", self.tradingSessionId)]

/-- `explicit SecListGrp(value_type const &value)`. -/
def ofValue (string : V → Bytes) (value : Native.SecListGrp V) : SecListGrp where
  symbol := string value.symbol
  contractMultiplier := value.contractMultiplier.value
  securityExchange := string value.securityExchange
  minTradeVol := value.minTradeVol.value
  tradingSessionId := string value.tradingSessionId
  minPriceIncrement := value.minPriceIncrement.value

/-- `operator value_type() const`. -/
@[simp]
def toValue (view : String → Bytes → V) (self : SecListGrp) : Native.SecListGrp V where
  symbol := view "symbol" self.symbol
  contractMultiplier := ⟨self.contractMultiplier, default⟩
  securityExchange := view "security_exchange" self.securityExchange
  minTradeVol := ⟨self.minTradeVol, default⟩
  tradingSessionId := view "trading_session_id" self.tradingSessionId
  minPriceIncrement := ⟨self.minPriceIncrement, default⟩

/-- The arguments of the Python constructor of `SecListGrp`. -/
structure Args (S : Type) where
  symbol : S
  contractMultiplier : Double
  securityExchange : S
  minTradeVol : Double
  tradingSessionId : S
  minPriceIncrement : Double

/-- The constructor that `pybind11::init` selects. -/
def construct (string : V → Bytes) (args : Args V) : SecListGrp where
  symbol := string args.symbol
  contractMultiplier := args.contractMultiplier
  securityExchange := string args.securityExchange
  minTradeVol := args.minTradeVol
  tradingSessionId := string args.tradingSessionId
  minPriceIncrement := args.minPriceIncrement

end SecListGrp

/-- `roq::codec::fix::SecurityList`. -/
structure Native.SecurityList (S : Type) where
  securityReqId : S
  securityResponseId : S
  securityRequestResult : Enum .securityRequestResult
  noRelatedSym : List (Native.SecListGrp S)
deriving Functor

/-- The wrapper `SecurityList`. -/
structure SecurityList (V : Type) where
  securityReqId : Bytes
  securityResponseId : Bytes
  securityRequestResult : Enum .securityRequestResult
  noRelatedSym : List SecListGrp
  noRelatedSym2 : List (Native.SecListGrp V)

namespace SecurityList

/-- Change the references that the wrapper holds. -/
def map (f : V → W) (self : SecurityList V) : SecurityList W :=
  { self with noRelatedSym2 := self.noRelatedSym2.map (f <$> ·) }

/-- The `std::string` members and those of the entries. -/
@[simp]
def texts (self : SecurityList V) : List (Member × Bytes) :=
  [(.field "security_req_id_", self.securityReqId),
   (.field "security_response_id_", self.securityResponseId)] ++
    items "no_related_sym_" SecListGrp.texts self.noRelatedSym

/-- `explicit SecurityList(value_type const &value)`. -/
def ofValue (string : V → Bytes) (view : Member → Bytes → V)
    (value : Native.SecurityList V) : SecurityList V :=
  let noRelatedSym := create (SecListGrp.ofValue string) value.noRelatedSym
  { securityReqId := string value.securityReqId
    securityResponseId := string value.securityResponseId
    securityRequestResult := value.securityRequestResult
    noRelatedSym
    noRelatedSym2 := create2 "no_related_sym_" view SecListGrp.toValue noRelatedSym }

/-- `operator value_type() const`. -/
@[simp]
def toValue (view : Member → Bytes → V) (self : SecurityList V) : Native.SecurityList V where
  securityReqId := view (.field "security_req_id_") self.securityReqId
  securityResponseId := view (.field "security_response_id_") self.securityResponseId
  securityRequestResult := self.securityRequestResult
  noRelatedSym := self.noRelatedSym2

/-- The arguments of the Python constructor of `SecurityList`. -/
structure Args (S : Type) where
  securityReqId : S
  securityResponseId : S
  securityRequestResult : Enum .securityRequestResult
  noRelatedSym : List (SecListGrp.Args S)

/-- The constructor that `pybind11::init` selects. -/
def construct (string : V → Bytes) (view : Member → Bytes → V) (args : Args V) : SecurityList V :=
  let noRelatedSym := create id (args.noRelatedSym.map (SecListGrp.construct string))
  { securityReqId := string args.securityReqId
    securityResponseId := string args.securityResponseId
    securityRequestResult := args.securityRequestResult
    noRelatedSym
    noRelatedSym2 := create2 "no_related_sym_" view SecListGrp.toValue noRelatedSym }

end SecurityList

/-- `roq::codec::fix::SecurityDefinitionRequest`. -/
structure Native.SecurityDefinitionRequest (S : Type) where
  securityReqId : S
  securityRequestType : Enum .securityRequestType
  symbol : S
  securityExchange : S
  tradingSessionId : S
  subscriptionRequestType : Enum .subscriptionRequestType
deriving Functor

/-- The wrapper `SecurityDefinitionRequest`. -/
structure SecurityDefinitionRequest where
  securityReqId : Bytes
  securityRequestType : Enum .securityRequestType
  symbol : Bytes
  securityExchange : Bytes
  tradingSessionId : Bytes
  subscriptionRequestType : Enum .subscriptionRequestType

namespace SecurityDefinitionRequest

/-- The `std::string` members. -/
@[simp]
def texts (self : SecurityDefinitionRequest) : List (Member × Bytes) :=
  [(.field "security_req_id_", self.securityReqId), (.field "symbol_", self.symbol),
   (.field "security_exchange_", self.securityExchange),
   (.field "trading_session_id_", self.tradingSessionId)]

/-- `explicit SecurityDefinitionRequest(value_type const &value)`. -/
def ofValue (string : V → Bytes)
    (value : Native.SecurityDefinitionRequest V) : SecurityDefinitionRequest where
  securityReqId := string value.securityReqId
  securityRequestType := value.securityRequestType
  symbol := string value.symbol
  securityExchange := string value.securityExchange
  tradingSessionId := string value.tradingSessionId
  subscriptionRequestType := value.subscriptionRequestType

/-- `operator value_type() const`. -/
@[simp]
def toValue (view : Member → Bytes → V) (self : SecurityDefinitionRequest) :
    Native.SecurityDefinitionRequest V where
  securityReqId := view (.field "security_req_id_") self.securityReqId
  securityRequestType := self.securityRequestType
  symbol := view (.field "symbol_") self.symbol
  securityExchange := view (.field "security_exchange_") self.securityExchange
  tradingSessionId := view (.field "trading_session_id_") self.tradingSessionId
  subscriptionRequestType := self.subscriptionRequestType

/-- The arguments of the Python constructor of `SecurityDefinitionRequest`. -/
structure Args (S : Type) where
  securityReqId : S
  securityRequestType : Enum .securityRequestType
  symbol : S
  securityExchange : S
  tradingSessionId : S
  subscriptionRequestType : Enum .subscriptionRequestType

/-- The constructor that `pybind11::init` selects. -/
def construct (string : V → Bytes) (args : Args V) : SecurityDefinitionRequest where
  securityReqId := string args.securityReqId
  securityRequestType := args.securityRequestType
  symbol := string args.symbol
  securityExchange := string args.securityExchange
  tradingSessionId := string args.tradingSessionId
  subscriptionRequestType := args.subscriptionRequestType

end SecurityDefinitionRequest

/-- `roq::codec::fix::SecurityDefinition`. -/
structure Native.SecurityDefinition (S : Type) where
  securityReqId : S
  securityResponseId : S
  securityResponseType : Enum .securityResponseType
  symbol : S
  contractMultiplier : Decimal
  securityExchange : S
  tradingSessionId : S
  minTradeVol : Decimal
  minPriceIncrement : Decimal
deriving Functor

/-- The wrapper `SecurityDefinition`. -/
structure SecurityDefinition where
  securityReqId : Bytes
  securityResponseId : Bytes
  securityResponseType : Enum .securityResponseType
  symbol : Bytes
  contractMultiplier : Decimal
  securityExchange : Bytes
  tradingSessionId : Bytes
  minTradeVol : Decimal

namespace SecurityDefinition

/-- The `std::string` members. -/
@[simp]
def texts (self : SecurityDefinition) : List (Member × Bytes) :=
  [(.field "security_req_id_", self.securityReqId),
   (.field "security_response_id_", self.securityResponseId), (.field "symbol_", self.symbol),
   (.field "security_exchange_", self.securityExchange),
   (.field "trading_session_id_", self.tradingSessionId)]

/-- `explicit SecurityDefinition(value_type const &value)`. -/
def ofValue (string : V → Bytes) (value : Native.SecurityDefinition V) : SecurityDefinition where
  securityReqId := string value.securityReqId
  securityResponseId := string value.securityResponseId
  securityResponseType := value.securityResponseType
  symbol := string value.symbol
  contractMultiplier := value.contractMultiplier
  securityExchange := string value.securityExchange
  tradingSessionId := string value.tradingSessionId
  minTradeVol := value.minTradeVol

/-- `operator value_type() const`. -/
@[simp]
def toValue (X : Foreign) (view : Member → Bytes → V) (self : SecurityDefinition) :
    Native.SecurityDefinition V where
  securityReqId := view (.field "security_req_id_") self.securityReqId
  securityResponseId := view (.field "security_response_id_") self.securityResponseId
  securityResponseType := self.securityResponseType
  symbol := view (.field "symbol_") self.symbol
  contractMultiplier := self.contractMultiplier
  securityExchange := view (.field "security_exchange_") self.securityExchange
  tradingSessionId := view (.field "trading_session_id_") self.tradingSessionId
  minTradeVol := self.minTradeVol
  minPriceIncrement := X.decimal

/-- The arguments of the Python constructor of `SecurityDefinition`. -/
structure Args (S : Type) where
  securityReqId : S
  securityResponseId : S
  securityResponseType : Enum .securityResponseType
  symbol : S
  contractMultiplier : Double
  securityExchange : S
  tradingSessionId : S
  minTradeVol : Double

/-- The constructor that `pybind11::init` selects. -/
def construct (string : V → Bytes) (args : Args V) : SecurityDefinition where
  securityReqId := string args.securityReqId
  securityResponseId := string args.securityResponseId
  securityResponseType := args.securityResponseType
  symbol := string args.symbol
  contractMultiplier := .ofDouble args.contractMultiplier
  securityExchange := string args.securityExchange
  tradingSessionId := string args.tradingSessionId
  minTradeVol := .ofDouble args.minTradeVol

end SecurityDefinition

/-- `roq::codec::fix::SecurityStatusRequest`. -/
structure Native.SecurityStatusRequest (S : Type) where
  securityStatusReqId : S
  symbol : S
  securityExchange : S
  subscriptionRequestType : Enum .subscriptionRequestType
  tradingSessionId : S
deriving Functor

/-- The wrapper `SecurityStatusRequest`. -/
structure SecurityStatusRequest where
  securityStatusReqId : Bytes
  symbol : Bytes
  securityExchange : Bytes
  subscriptionRequestType : Enum .subscriptionRequestType
  tradingSessionId : Bytes

namespace SecurityStatusRequest

/-- The `std::string` members. -/
@[simp]
def texts (self : SecurityStatusRequest) : List (Member × Bytes) :=
  [(.field "security_status_req_id_", self.securityStatusReqId), (.field "symbol_", self.symbol),
   (.field "security_exchange_", self.securityExchange),
   (.field "trading_session_id_", self.tradingSessionId)]

/-- `explicit SecurityStatusRequest(value_type const &value)`. -/
def ofValue (string : V → Bytes)
    (value : Native.SecurityStatusRequest V) : SecurityStatusRequest where
  securityStatusReqId := string value.securityStatusReqId
  symbol := string value.symbol
  securityExchange := string value.securityExchange
  subscriptionRequestType := value.subscriptionRequestType
  tradingSessionId := string value.tradingSessionId

/-- `operator value_type() const`. -/
@[simp]
def toValue (view : Member → Bytes → V) (self : SecurityStatusRequest) :
    Native.SecurityStatusRequest V where
  securityStatusReqId := view (.field "security_status_req_id_") self.securityStatusReqId
  symbol := view (.field "symbol_") self.symbol
  securityExchange := view (.field "security_exchange_") self.securityExchange
  subscriptionRequestType := self.subscriptionRequestType
  tradingSessionId := view (.field "trading_session_id_") self.tradingSessionId

/-- The arguments of the Python constructor of `SecurityStatusRequest`. -/
structure Args (S : Type) where
  securityStatusReqId : S
  symbol : S
  securityExchange : S
  subscriptionRequestType : Enum .subscriptionRequestType
  tradingSessionId : S

/-- The constructor that `pybind11::init` selects. -/
def construct (string : V → Bytes) (args : Args V) : SecurityStatusRequest where
  securityStatusReqId := string args.securityStatusReqId
  symbol := string args.symbol
  securityExchange := string args.securityExchange
  subscriptionRequestType := args.subscriptionRequestType
  tradingSessionId := string args.tradingSessionId

end SecurityStatusRequest

/-- `roq::codec::fix::SecurityStatus`. -/
structure Native.SecurityStatus (S : Type) where
  securityStatusReqId : S
  symbol : S
  securityExchange : S
  tradingSessionId : S
  unsolicitedIndicator : Bool
  securityTradingStatus : Enum .securityTradingStatus
  transactTime : Milliseconds
deriving Functor

/-- The wrapper `SecurityStatus`. -/
structure SecurityStatus where
  securityStatusReqId : Bytes
  symbol : Bytes
  securityExchange : Bytes
  tradingSessionId : Bytes
  unsolicitedIndicator : Bool
  securityTradingStatus : Enum .securityTradingStatus
  transactTime : Milliseconds

namespace SecurityStatus

/-- The `std::string` members. -/
@[simp]
def texts (self : SecurityStatus) : List (Member × Bytes) :=
  [(.field "security_status_req_id_", self.securityStatusReqId), (.field "symbol_", self.symbol),
   (.field "security_exchange_", self.securityExchange),
   (.field "trading_session_id_", self.tradingSessionId)]

/-- `explicit SecurityStatus(value_type const &value)`. -/
def ofValue (string : V → Bytes) (value : Native.SecurityStatus V) : SecurityStatus where
  securityStatusReqId := string value.securityStatusReqId
  symbol := string value.symbol
  securityExchange := string value.securityExchange
  tradingSessionId := string value.tradingSessionId
  unsolicitedIndicator := value.unsolicitedIndicator
  securityTradingStatus := value.securityTradingStatus
  transactTime := value.transactTime

/-- `operator value_type() const`. -/
@[simp]
def toValue (view : Member → Bytes → V) (self : SecurityStatus) : Native.SecurityStatus V where
  securityStatusReqId := view (.field "security_status_req_id_") self.securityStatusReqId
  symbol := view (.field "symbol_") self.symbol
  securityExchange := view (.field "security_exchange_") self.securityExchange
  tradingSessionId := view (.field "trading_session_id_") self.tradingSessionId
  unsolicitedIndicator := self.unsolicitedIndicator
  securityTradingStatus := self.securityTradingStatus
  transactTime := self.transactTime

/-- The arguments of the Python constructor of `SecurityStatus`. -/
structure Args (S : Type) where
  securityStatusReqId : S
  symbol : S
  securityExchange : S
  tradingSessionId : S
  unsolicitedIndicator : Bool
  securityTradingStatus : Enum .securityTradingStatus
  transactTime : TimePoint

/-- The constructor that `pybind11::init` selects. -/
def construct (string : V → Bytes) (args : Args V) : SecurityStatus where
  securityStatusReqId := string args.securityStatusReqId
  symbol := string args.symbol
  securityExchange := string args.securityExchange
  tradingSessionId := string args.tradingSessionId
  unsolicitedIndicator := args.unsolicitedIndicator
  securityTradingStatus := args.securityTradingStatus
  transactTime := DateTime.toMilliseconds ⟨args.transactTime⟩

end SecurityStatus

end RoqPython.Fix
