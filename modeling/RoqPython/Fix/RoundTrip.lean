import RoqPython.Fix.Message

/-!
# Round Trips

A decoded message is turned into a wrapper, and the wrapper back into a native message when
it is shown or encoded again. Here text is read as values (`V := Bytes`): every field that
a wrapper has a member for comes back as it was, entries of repeating groups included.

Three things do not come back by design: the repeating groups no wrapper has a member for
(`emptyGroups`), the custom fields of a `MarketDataRequest` (`resetCustom`), and the
version of a header. Two more are left open (`dropOpen`): the `min_price_increment` of a
`SecurityDefinition`, and the precision of the three decimals of a `SecListGrp`.

## Main results

* `Encodeable.reencode_message`: the round trip of messages.
* `wrapper_roundTrip`: the round trip of messages and headers.
-/

namespace RoqPython.Fix

variable {X : Foreign} {V W S : Type}

/-! ### What does not come back -/

/-- The message with the repeating groups empty that no wrapper has a member for. -/
def Native.Message.emptyGroups : Native.Message X S → Native.Message X S
  | .marketDataRequest value => .marketDataRequest { value with noTradingSessions := [] }
  | .orderStatusRequest value => .orderStatusRequest { value with noPartyIds := [] }
  | .orderMassStatusRequest value => .orderMassStatusRequest { value with noPartyIds := [] }
  | .newOrderSingle value =>
      .newOrderSingle { value with noPartyIds := [], noTradingSessions := [] }
  | .orderCancelRequest value => .orderCancelRequest { value with noPartyIds := [] }
  | .orderCancelReplaceRequest value =>
      .orderCancelReplaceRequest { value with noPartyIds := [] }
  | .orderMassCancelRequest value => .orderMassCancelRequest { value with noPartyIds := [] }
  | .orderMassCancelReport value => .orderMassCancelReport { value with noPartyIds := [] }
  | .executionReport value => .executionReport { value with noPartyIds := [] }
  | .tradeCaptureReportRequest value =>
      .tradeCaptureReportRequest { value with noPartyIds := [] }
  | .tradeCaptureReport value => .tradeCaptureReport { value with noSides := [] }
  | .requestForPositions value =>
      .requestForPositions { value with noPartyIds := [], noTradingSessions := [] }
  | .requestForPositionsAck value => .requestForPositionsAck { value with noPartyIds := [] }
  | .positionReport value =>
      .positionReport { value with noPartyIds := [], noPositions := [], noPosAmt := [] }
  | message => message

/-- The message with the two custom fields of `MarketDataRequest` at their default. -/
def Native.Message.resetCustom : Native.Message X S → Native.Message X S
  | .marketDataRequest value =>
      .marketDataRequest { value with customType := X.customType, customValue := X.customValue }
  | message => message

/-- The entry without the precisions of its decimals. -/
def Native.SecListGrp.dropOpen (value : Native.SecListGrp S) : Native.SecListGrp S :=
  { value with
    contractMultiplier := ⟨value.contractMultiplier.value, default⟩
    minTradeVol := ⟨value.minTradeVol.value, default⟩
    minPriceIncrement := ⟨value.minPriceIncrement.value, default⟩ }

/-- The message without the fields that are left open. -/
def Native.Message.dropOpen : Native.Message X S → Native.Message X S
  | .securityList value =>
      .securityList { value with noRelatedSym := value.noRelatedSym.map (·.dropOpen) }
  | .securityDefinition value =>
      .securityDefinition { value with minPriceIncrement := X.decimal }
  | message => message

/-! ### Lists of entries -/

/-- When references to members are made without regard to the member, the two conversions
of a list of entries are one conversion of each entry. -/
theorem create2_create {α ε ν : Type} {vector : String} {view : Bytes → V}
    {ofValue : α → ε} {toValue : (String → Bytes → V) → ε → ν} (xs : List α) :
    create2 vector (fun _ => view) toValue (create ofValue xs) =
      xs.map fun x => toValue (fun _ => view) (ofValue x) := by
  have hfst : (create ofValue xs).zipIdx.map Prod.fst = xs.map ofValue :=
    List.zipIdx_map_fst _ _
  calc create2 vector (fun _ => view) toValue (create ofValue xs)
      = ((create ofValue xs).zipIdx.map Prod.fst).map (toValue fun _ => view) := by
        rw [List.map_map]
        rfl
    _ = xs.map fun x => toValue (fun _ => view) (ofValue x) := by
        rw [hfst, List.map_map]
        rfl

/-! ### The types whose conversions are not field by field -/

/-- The cast of a number of seconds to 16 bits keeps it modulo `2 ^ 16`. -/
theorem toNat_ofInt (s : ℤ) : ((UInt16.ofInt s).toNat : ℤ) = s % 65536 := by
  have hnonneg : 0 ≤ s % 65536 := Int.emod_nonneg s (by decide)
  have hlt : s % 65536 < 65536 := Int.emod_lt_of_pos s (by decide)
  rw [UInt16.ofInt, UInt16.toNat_ofNat']
  omega

/-- So it keeps exactly the numbers that 16 bits can hold. -/
theorem toNat_ofInt_eq_iff (s : ℤ) :
    ((UInt16.ofInt s).toNat : ℤ) = s ↔ 0 ≤ s ∧ s < 65536 := by
  rw [toNat_ofInt]
  omega

/-- The heartbeat interval came from 16 bits and fits into 16 bits again. -/
theorem Logon.ofValue_toValue (value : Native.Logon Bytes) :
    (Logon.ofValue id value).toValue ownText = value := by
  have hcast : UInt16.ofInt (value.heartBtInt.toNat : ℤ) = value.heartBtInt := by
    have hlt : value.heartBtInt.toNat < 65536 := value.heartBtInt.toNat_lt
    have hkept := (toNat_ofInt_eq_iff value.heartBtInt.toNat).mpr (by omega)
    exact UInt16.toNat_inj.mp (Int.ofNat_inj.mp hkept)
  simp only [Logon.toValue, Logon.ofValue, hcast]
  rfl

/-- The entries lose the precisions of their decimals. -/
theorem SecurityList.ofValue_toValue (value : Native.SecurityList Bytes) :
    (SecurityList.ofValue id ownText value).toValue ownText =
      { value with noRelatedSym := value.noRelatedSym.map (·.dropOpen) } := by
  have hentries : create2 "no_related_sym_" ownText SecListGrp.toValue
      (create (SecListGrp.ofValue id) value.noRelatedSym) =
        value.noRelatedSym.map (·.dropOpen) := create2_create value.noRelatedSym
  simp only [SecurityList.toValue, SecurityList.ofValue, hentries]
  rfl

/-- The entries come back as they were. -/
theorem MarketDataRequest.ofValue_toValue (value : Native.MarketDataRequest X Bytes) :
    (MarketDataRequest.ofValue id ownText value).toValue ownText =
      { value with
        noTradingSessions := [], customType := X.customType, customValue := X.customValue } := by
  have hentries : create2 "no_related_sym_" ownText InstrmtMDReq.toValue
      (create (InstrmtMDReq.ofValue id) value.noRelatedSym) = value.noRelatedSym :=
    (create2_create value.noRelatedSym).trans (List.map_id _)
  simp only [MarketDataRequest.toValue, MarketDataRequest.ofValue, hentries]
  rfl

/-- The entries come back as they were. -/
theorem MarketDataSnapshotFullRefresh.ofValue_toValue
    (value : Native.MarketDataSnapshotFullRefresh Bytes) :
    (MarketDataSnapshotFullRefresh.ofValue id ownText value).toValue ownText = value := by
  have hentries : create2 "no_md_entries_" ownText MDFull.toValue
      (create (MDFull.ofValue id) value.noMdEntries) = value.noMdEntries :=
    (create2_create value.noMdEntries).trans (List.map_id _)
  simp only [MarketDataSnapshotFullRefresh.toValue, MarketDataSnapshotFullRefresh.ofValue,
    hentries]
  rfl

/-- The entries come back as they were. -/
theorem MarketDataIncrementalRefresh.ofValue_toValue
    (value : Native.MarketDataIncrementalRefresh Bytes) :
    (MarketDataIncrementalRefresh.ofValue id ownText value).toValue ownText = value := by
  have hentries : create2 "no_md_entries_" ownText MDInc.toValue
      (create (MDInc.ofValue id) value.noMdEntries) = value.noMdEntries :=
    (create2_create value.noMdEntries).trans (List.map_id _)
  simp only [MarketDataIncrementalRefresh.toValue, MarketDataIncrementalRefresh.ofValue,
    hentries]
  rfl

/-! ### The round trip -/

namespace Encodeable

/-- What a message is after it was turned into a wrapper and back. -/
def reencode (X : Foreign) (message : Native.Message X Bytes) : Native.Message X Bytes :=
  (ofValue id ownText message).toValue X ownText

/-- **The round trip of messages.** Every field comes back, the groups without a member
and the custom fields aside; nothing is said of the fields that are left open. -/
theorem reencode_message (message : Native.Message X Bytes) :
    (reencode X message).dropOpen = message.emptyGroups.resetCustom.dropOpen := by
  cases message with
  | logon value =>
      exact congrArg (fun v => Native.Message.dropOpen (.logon v)) (Logon.ofValue_toValue value)
  | securityList value =>
      have hdrop : (value.noRelatedSym.map (·.dropOpen)).map (·.dropOpen) =
          value.noRelatedSym.map (·.dropOpen) := by
        rw [List.map_map]
        rfl
      have hvalue := SecurityList.ofValue_toValue value
      simp only [reencode, ofValue, toValue, hvalue, Native.Message.dropOpen, hdrop,
        Native.Message.emptyGroups, Native.Message.resetCustom]
  | marketDataRequest value =>
      exact congrArg (fun v => Native.Message.dropOpen (.marketDataRequest v))
        (MarketDataRequest.ofValue_toValue value)
  | marketDataSnapshotFullRefresh value =>
      exact congrArg (fun v => Native.Message.dropOpen (.marketDataSnapshotFullRefresh v))
        (MarketDataSnapshotFullRefresh.ofValue_toValue value)
  | marketDataIncrementalRefresh value =>
      exact congrArg (fun v => Native.Message.dropOpen (.marketDataIncrementalRefresh v))
        (MarketDataIncrementalRefresh.ofValue_toValue value)
  -- The other types copy each field into a member and back.
  | _ => rfl

end Encodeable

/-! ### Messages and headers -/

/-- **The round trip.** A message comes back in every field but for the groups without a
member, the custom fields and what is left open; a header comes back but for its version,
which is the constant `FIX_44`. -/
theorem wrapper_roundTrip (message : Native.Message X Bytes) (header : Native.Header Bytes) :
    (Encodeable.reencode X message).dropOpen = message.emptyGroups.resetCustom.dropOpen ∧
      (Header.ofValue id header).toValue X ownText = { header with version := X.FIX_44 } := by
  constructor
  · exact Encodeable.reencode_message message
  · rfl

/-- A header of another version, and a market data request with a custom type, are altered
although neither has a group. -/
theorem wrapper_roundTrip_altered :
    (∃ header : Native.Header Bytes,
      (Header.ofValue id header).toValue default ownText ≠ header) ∧
    (∃ message : Native.Message default Bytes,
      Encodeable.reencode default message ≠ message.emptyGroups) := by
  constructor
  · refine ⟨⟨⟨9⟩, ⟨1⟩, [65], [66], 1, 0⟩, ?_⟩
    intro h
    have hversion : (⟨8⟩ : Enum .version) = ⟨9⟩ := congrArg Native.Header.version h
    cases hversion
  · refine ⟨.marketDataRequest ⟨[65], ⟨1⟩, 1, ⟨1⟩, true, [], [], [], (1 : ℕ), (0 : ℕ)⟩, ?_⟩
    intro h
    injection h with h
    have hcustom : (0 : ℕ) = 1 := congrArg Native.MarketDataRequest.customType h
    cases hcustom

end RoqPython.Fix
