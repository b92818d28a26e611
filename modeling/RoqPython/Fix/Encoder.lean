import RoqPython.Fix.Message

/-!
# The Encoder

`Encoder` numbers the messages that it encodes: `encode` makes the header with
`++msg_seq_num_` and then calls the native encoder, which may raise. The native encoder is a
parameter: a function from its own state, a header and a message to a result and a state.

The run of an encoder over a list of calls is the list of what happened in each call
(`Record`), the counter before and after it included.

## Main results

* `Encoder.getElem_run`: the call at position `i` has sequence number `i + 1`, whether it
  fails or not.
* `numbered_iff`: the successful calls are numbered without gap exactly when no call fails.
-/

namespace RoqPython.Fix

variable {X : Foreign} {ν ε : Type}

/-! ### Encoding -/

/-- `roq::codec::fix::Encoder::encode`. -/
abbrev NativeEncoder (X : Foreign) (ν ε : Type) :=
  ν → Native.Header Bytes → Native.Message X Bytes → Except ε Bytes × ν

/-- `Encoder`. -/
structure Encoder (ν : Type) where
  encoder : ν
  senderCompId : Bytes
  targetCompId : Bytes
  msgSeqNum : UInt64

/-- A call of `Encoder.encode` from Python. -/
structure Call where
  encodeable : Encodeable Bytes
  sendingTime : TimePoint

/-- What happened in a call. -/
structure Record (ε : Type) where
  before : UInt64
  header : Native.Header Bytes
  result : Except ε Bytes
  after : UInt64

namespace Encoder

/-- `Encoder(sender_comp_id, target_comp_id)`. -/
def create (encoder : ν) (senderCompId targetCompId : Bytes) : Encoder ν :=
  ⟨encoder, senderCompId, targetCompId, 0⟩

/-- The header of the next message. -/
def header (X : Foreign) (self : Encoder ν) (type : MessageType) (sendingTime : Nanoseconds) :
    Native.Header Bytes where
  version := X.FIX_44
  msgType := X.MSG_TYPE type
  senderCompId := self.senderCompId
  targetCompId := self.targetCompId
  msgSeqNum := self.msgSeqNum + 1
  sendingTime := sendingTime

/-- `encode(T const &value, std::chrono::nanoseconds sending_time)`: the counter advances
when the header is made, before the native encoder is called. The header is returned along with
the result. -/
def encodeValue (native : NativeEncoder X ν ε) (self : Encoder ν)
    (value : Native.Message X Bytes) (sendingTime : Nanoseconds) :
    Native.Header Bytes × Except ε Bytes × Encoder ν :=
  let header := self.header X value.type sendingTime
  let (result, encoder) := native self.encoder header value
  (header, result, { self with encoder, msgSeqNum := header.msgSeqNum })

/-- `encode(Encodeable const &encodeable, time_point sending_time)`, through the virtual
`Encodeable::encode`. -/
def encode (native : NativeEncoder X ν ε) (self : Encoder ν) (call : Call) :
    Native.Header Bytes × Except ε Bytes × Encoder ν :=
  self.encodeValue native (call.encodeable.toValue X ownText) call.sendingTime

/-- A call, with what happens in it. -/
def record (native : NativeEncoder X ν ε) (self : Encoder ν) (call : Call) :
    Record ε × Encoder ν :=
  let (header, result, encoder) := self.encode native call
  (⟨self.msgSeqNum, header, result, encoder.msgSeqNum⟩, encoder)

/-- A run: the calls one after the other, a failed call being caught by the caller. -/
def run (native : NativeEncoder X ν ε) : Encoder ν → List Call → List (Record ε)
  | _, [] => []
  | self, call :: calls =>
      let (record, self) := self.record native call
      record :: run native self calls

/-! ### One call -/

variable {native : NativeEncoder X ν ε} {self : Encoder ν} {call : Call}

/-- Every call takes a number, failing calls included. -/
theorem record_msgSeqNum : (self.record native call).2.msgSeqNum = self.msgSeqNum + 1 := rfl

/-- No call leaves the counter as it was. -/
theorem after_ne_before :
    (self.record native call).1.after ≠ (self.record native call).1.before := by
  intro h
  have hstep : self.msgSeqNum + 1 = self.msgSeqNum := h
  simp at hstep

/-! ### Runs -/

/-- **Every call takes a number.** The call at position `i` of a run carries the number
`i + 1` above the counter at the start of the run, and the ids of the encoder. -/
theorem getElem_run {calls : List Call} {i : ℕ} {r : Record ε}
    (h : (self.run native calls)[i]? = some r) :
    r.header.msgSeqNum = self.msgSeqNum + UInt64.ofNat (i + 1) ∧
      r.header.senderCompId = self.senderCompId ∧ r.header.targetCompId = self.targetCompId := by
  induction calls generalizing self i with
  | nil => cases h
  | cons call calls ih =>
      cases i with
      | zero =>
          obtain rfl := Option.some.inj h
          exact ⟨rfl, rfl, rfl⟩
      | succ i =>
          have hrest : ((self.record native call).2.run native calls)[i]? = some r := h
          obtain ⟨hnum, hsender, htarget⟩ := ih hrest
          refine ⟨?_, hsender, htarget⟩
          rw [hnum, record_msgSeqNum, UInt64.ofNat_add (i + 1) 1, UInt64.add_assoc,
            UInt64.add_comm 1]
          rfl

/-- A call of a run is a call of the encoder in some state. -/
theorem exists_of_mem_run {calls : List Call} {r : Record ε} (h : r ∈ self.run native calls) :
    ∃ self' call, r = (record native self' call).1 := by
  induction calls generalizing self with
  | nil => cases h
  | cons call calls ih =>
      rcases List.mem_cons.mp h with rfl | h
      · exact ⟨self, call, rfl⟩
      · exact ih h

/-- A run has one record for each call. -/
theorem length_run (calls : List Call) : (self.run native calls).length = calls.length := by
  induction calls generalizing self with
  | nil => rfl
  | cons call calls ih => rw [run, List.length_cons, List.length_cons, ih]

end Encoder

/-! ### Numbering -/

/-- The messages that a run hands to its caller are numbered 1, 2, 3, ... with the ids of
the encoder, and a failed call leaves the counter as it was. -/
def Numbered (senderCompId targetCompId : Bytes) (records : List (Record ε)) : Prop :=
  (∀ k r, (records.filter (·.result.isOk))[k]? = some r →
    r.header.msgSeqNum.toNat = k + 1 ∧ r.header.senderCompId = senderCompId ∧
      r.header.targetCompId = targetCompId) ∧
  ∀ r ∈ records, r.result.isOk = false → r.after = r.before

/-- The native encoder accepts the messages of the calls, one after the other, under
headers numbered from `k + 1` on. -/
def NativeEncoder.Accepts (native : NativeEncoder X ν ε) (senderCompId targetCompId : Bytes) :
    ν → ℕ → List Call → Prop
  | _, _, [] => True
  | encoder, k, call :: calls =>
      let value := call.encodeable.toValue X ownText
      let header : Native.Header Bytes :=
        ⟨X.FIX_44, X.MSG_TYPE value.type, senderCompId, targetCompId, UInt64.ofNat (k + 1),
          call.sendingTime⟩
      (native encoder header value).1.isOk = true ∧
        native.Accepts senderCompId targetCompId (native encoder header value).2 (k + 1) calls

variable {native : NativeEncoder X ν ε} {encoder : ν} {senderCompId targetCompId : Bytes}

/-- The native encoder accepts the messages when no call of the run fails. -/
theorem accepts_iff {k : ℕ} {calls : List Call} :
    native.Accepts senderCompId targetCompId encoder k calls ↔
      ∀ r ∈ Encoder.run native ⟨encoder, senderCompId, targetCompId, UInt64.ofNat k⟩ calls,
        r.result.isOk = true := by
  induction calls generalizing encoder k with
  | nil => exact iff_of_true trivial fun r hr => absurd hr List.not_mem_nil
  | cons call calls ih =>
      have hnum : UInt64.ofNat (k + 1) = UInt64.ofNat k + 1 := UInt64.ofNat_add k 1
      rw [NativeEncoder.Accepts, Encoder.run, List.forall_mem_cons, ih, hnum]
      rfl

/-- **Numbering.** In a run in which the counter does not overflow, the messages handed to
the caller are numbered without gap, and failed calls leave the counter as it was, exactly
when the native encoder accepts every message under the next number. -/
theorem numbered_iff {calls : List Call} (hcalls : calls.length < UInt64.size) :
    Numbered senderCompId targetCompId
        ((Encoder.create encoder senderCompId targetCompId).run native calls) ↔
      native.Accepts senderCompId targetCompId encoder 0 calls := by
  have haccepts : native.Accepts senderCompId targetCompId encoder 0 calls ↔
      ∀ r ∈ (Encoder.create encoder senderCompId targetCompId).run native calls,
        r.result.isOk = true := accepts_iff
  rw [haccepts]
  constructor
  · rintro ⟨-, hfailed⟩ r hr
    by_contra hresult
    obtain ⟨self, call, rfl⟩ := Encoder.exists_of_mem_run hr
    exact Encoder.after_ne_before (hfailed _ hr (Bool.not_eq_true _ ▸ hresult))
  · intro hok
    refine ⟨?_, ?_⟩
    · intro k r hr
      rw [List.filter_eq_self.mpr hok] at hr
      obtain ⟨hnum, hsender, htarget⟩ := Encoder.getElem_run hr
      refine ⟨?_, hsender, htarget⟩
      have hk : k < calls.length := by
        obtain ⟨hlt, -⟩ := List.getElem?_eq_some_iff.mp hr
        rwa [Encoder.length_run] at hlt
      have hzero : (Encoder.create encoder senderCompId targetCompId).msgSeqNum = 0 := rfl
      have hsize : UInt64.size = 18446744073709551616 := rfl
      rw [hnum, hzero, UInt64.zero_add, UInt64.toNat_ofNat']
      exact Nat.mod_eq_of_lt (by omega)
    · intro r hr hresult
      exact absurd (hok r hr) (by simp [hresult])

/-- Two messages that are accepted are numbered 1 and 2. -/
theorem two_numbered :
    Numbered [65] [66]
      ((Encoder.create () [65] [66]).run
        (fun _ _ _ => (.ok [1], ()) : NativeEncoder default Unit Unit)
        [⟨.heartbeat ⟨[]⟩, 0⟩, ⟨.logout ⟨[98]⟩, 0⟩]) :=
  (numbered_iff (by decide)).mpr ⟨rfl, rfl, trivial⟩

/-- A logout that does not fit takes the number 1, and the heartbeat after it is the first
message handed to the caller, with the number 2. -/
theorem gap_after_failure :
    ¬ Numbered [65] [66]
      ((Encoder.create () [65] [66]).run
        (fun _ _ value => if value.type = .logout then (.error (), ()) else (.ok [1], ()) :
          NativeEncoder default Unit Unit)
        [⟨.logout ⟨[98]⟩, 0⟩, ⟨.heartbeat ⟨[]⟩, 0⟩]) := by
  rintro ⟨hnumbers, -⟩
  obtain ⟨hnum, -, -⟩ := hnumbers 0 _ rfl
  exact absurd hnum (by decide)

end RoqPython.Fix
