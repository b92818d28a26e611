import Mathlib.Control.Functor
import Mathlib.Data.Int.Notation
import Mathlib.Data.List.Nodup
import Mathlib.Tactic.DeriveTraversable

/-!
# The Types of FIX Fields

The field types that the message wrappers of `codec/fix/details.hpp` are made of.

* Text is a list of bytes. A field of type `std::string_view` is a type parameter `V` of
  the records, so that one and the same translation of a conversion is read both with
  values (`V := Bytes`) and with references into a memory (`V := View ..`).
* An enumeration of `roq::fix` is declared outside the repository, which only passes its
  values on: a value is the underlying integer, tagged with the enumeration.
* A `double` is stored and copied only, never computed with: it is its 64 bits.
* A `std::chrono` duration is its count, and `std::chrono::system_clock::time_point` is
  the number of nanoseconds since the epoch.

Native types that the repository names but never looks into are collected in `Foreign`.
-/

namespace RoqPython

/-- The content of a `std::string`, of a `std::string_view` or of a Python `bytes`. -/
abbrev Bytes := List UInt8

namespace Fix

/-! ### Enumerations and numbers -/

/-- The enumerations of `roq::fix`, and `roq::Precision`. -/
inductive EnumType
  | accountType | businessRejectReason | cxlRejReason | cxlRejResponseTo | encryptMethod
  | execType | handlInst | lastLiquidityInd | mdEntryType | mdReqRejReason
  | mdUpdateAction | mdUpdateType | massCancelRejectReason | massCancelRequestType
  | massCancelResponse | massStatusReqType | msgType | ordRejReason | ordStatus | ordType
  | posReqResult | posReqStatus | posReqType | positionEffect | precision
  | securityListRequestType | securityRequestResult | securityRequestType
  | securityResponseType | securityTradingStatus | sessionRejectReason | settlPriceType
  | side | subscriptionRequestType | timeInForce | tradSesStatus
  | tradSesStatusRejReason | tradeRequestType | userRequestType | userStatus | version
deriving DecidableEq

/-- A value of the enumeration `e`, by its underlying integer. -/
structure Enum (e : EnumType) where
  value : ℤ
deriving DecidableEq

/-- Value-initialisation `E{}` of an enumeration. -/
instance (e : EnumType) : Inhabited (Enum e) := ⟨⟨0⟩⟩

/-- A `double`, by its bits. -/
structure Double where
  bits : UInt64
deriving DecidableEq

/-- `roq::Decimal`. -/
structure Decimal where
  value : Double
  precision : Enum .precision
deriving DecidableEq

/-- `Decimal{value, {}}`: the decimal that a `double` is turned into. -/
def Decimal.ofDouble (value : Double) : Decimal := ⟨value, default⟩

/-! ### Time -/

/-- The count of a `std::chrono::seconds`. -/
abbrev Seconds := ℤ

/-- The count of a `std::chrono::milliseconds`. -/
abbrev Milliseconds := ℤ

/-- The count of a `std::chrono::nanoseconds`. -/
abbrev Nanoseconds := ℤ

/-- A `std::chrono::system_clock::time_point`: nanoseconds since the epoch. -/
abbrev TimePoint := ℤ

/-- A `std::chrono::year_month_day`. -/
structure YearMonthDay where
  year : ℤ
  month : ℕ
  day : ℕ
deriving DecidableEq

/-- A `std::chrono::hh_mm_ss<std::chrono::milliseconds>`. -/
structure HhMmSs where
  isNegative : Bool
  hours : ℤ
  minutes : ℤ
  seconds : ℤ
  subseconds : ℤ
deriving DecidableEq

/-- `DateTime`: the helper through which the constructors take a point in time. -/
structure DateTime where
  value : TimePoint

namespace DateTime

/-- `operator std::chrono::milliseconds() const`: a `duration_cast`, which truncates
towards zero. -/
def toMilliseconds (self : DateTime) : Milliseconds := self.value.tdiv 1000000

/-- `operator std::chrono::year_month_day() const`, which is `return {}` whatever the
value. -/
def toYearMonthDay (_ : DateTime) : YearMonthDay := ⟨0, 0, 0⟩

end DateTime

/-! ### What the repository takes from outside -/

/-- The 35 message types that `Decoder::Handler` has an overload for. -/
inductive MessageType
  | logon | logout | testRequest | heartbeat | resendRequest | reject
  | businessMessageReject | userRequest | userResponse | tradingSessionStatusRequest
  | tradingSessionStatus | securityListRequest | securityList
  | securityDefinitionRequest | securityDefinition | securityStatusRequest
  | securityStatus | marketDataRequest | marketDataRequestReject
  | marketDataSnapshotFullRefresh | marketDataIncrementalRefresh | orderStatusRequest
  | orderMassStatusRequest | newOrderSingle | orderCancelRequest
  | orderCancelReplaceRequest | orderMassCancelRequest | orderCancelReject
  | orderMassCancelReport | executionReport | tradeCaptureReportRequest
  | tradeCaptureReport | requestForPositions | requestForPositionsAck | positionReport
deriving DecidableEq

/-- The native types and constants that the repository names but does not define: the
entries of the repeating groups that no wrapper has a member for, the two custom fields of
`MarketDataRequest`, and what `{}` and the named constants evaluate to. -/
structure Foreign where
  Party : Type
  TradingSession : Type
  TrdCapRptSide : Type
  PositionQty : Type
  PositionAmountData : Type
  CustomType : Type
  CustomValue : Type
  /-- `{}` at type `CustomType`. -/
  customType : CustomType
  /-- `{}` at type `CustomValue`. -/
  customValue : CustomValue
  /-- `{}` at type `Decimal`. -/
  decimal : Decimal
  /-- `roq::fix::Version::FIX_44`. -/
  FIX_44 : Enum .version
  /-- `T::MSG_TYPE` of each native message type `T`. -/
  MSG_TYPE : MessageType → Enum .msgType

/-- Some choice of native types and constants. -/
instance : Inhabited Foreign where
  default :=
    { Party := Unit, TradingSession := Unit, TrdCapRptSide := Unit, PositionQty := Unit
      PositionAmountData := Unit, CustomType := ℕ, CustomValue := ℕ, customType := 0
      customValue := 0, decimal := ⟨⟨0⟩, default⟩, FIX_44 := ⟨8⟩, MSG_TYPE := fun _ => default }

/-! ### Members that own text -/

/-- The path of a `std::string` member: a member of the object itself, or a member of an
entry of one of its vectors. -/
inductive Member
  | field (name : String)
  | item (vector : String) (index : ℕ) (name : String)
deriving DecidableEq

/-- Text that a member owns, seen as a value. -/
def ownText (_ : Member) (text : Bytes) : Bytes := text

/-- The text that the entries of a vector own, given what one entry owns. -/
def items {ε : Type} (vector : String) (texts : ε → List (String × Bytes))
    (entries : List ε) : List (Member × Bytes) :=
  entries.zipIdx.flatMap fun p => (texts p.1).map fun t => (.item vector p.2 t.1, t.2)

/-- The members of entries are different from the members of the object itself. -/
theorem field_notMem_items {ε : Type} {vector : String} {texts : ε → List (String × Bytes)}
    {entries : List ε} {name : String} :
    .field name ∉ (items vector texts entries).map Prod.fst := by
  simp [items]

/-- When no two members of one entry have the same name, no two members of the entries of
a vector have the same path: the index tells the entries apart. -/
theorem items_nodup {ε : Type} {vector : String} {texts : ε → List (String × Bytes)}
    (h : ∀ e, ((texts e).map Prod.fst).Nodup) (entries : List ε) :
    ((items vector texts entries).map Prod.fst).Nodup := by
  have hpaths : (items vector texts entries).map Prod.fst =
      entries.zipIdx.flatMap fun p => ((texts p.1).map Prod.fst).map (.item vector p.2) := by
    simp [items, List.map_flatMap, Function.comp_def]
  have hindices : (entries.zipIdx.map Prod.snd).Nodup := by
    rw [List.zipIdx_map_snd]
    exact List.nodup_range'
  rw [hpaths, List.nodup_flatMap]
  constructor
  · intro p _
    refine (h p.1).map ?_
    intro name₁ name₂ heq
    injection heq
  · rw [List.Nodup, List.pairwise_map] at hindices
    refine hindices.imp ?_
    intro p q hne m hp hq
    obtain ⟨_, _, rfl⟩ := List.mem_map.mp hp
    obtain ⟨_, _, heq⟩ := List.mem_map.mp hq
    injection heq with _ hindex
    exact hne hindex.symm

/-! ### Lists of entries -/

/-- `create`: convert the entries one by one, in order. -/
def create {α ε : Type} (convert : α → ε) (value : List α) : List ε := value.map convert

/-- `create_2`: turn the entries that a vector of the object owns into native entries,
whose text refers to the members of the entries. -/
def create2 {ε ν V : Type} (vector : String) (view : Member → Bytes → V)
    (toValue : (String → Bytes → V) → ε → ν) (entries : List ε) : List ν :=
  entries.zipIdx.map fun p => toValue (fun name => view (.item vector p.2 name)) p.1

end Fix

end RoqPython
