import Mathlib.Data.List.TakeWhile
import RoqPython.FixSession
import RoqPython.Fix.Encoder
import RoqPython.Lib.Streaming

/-!
# The Workflow of the FIX Session Sample

`MySession` of `samples/fix_session.py` is `Client` with the workflow of `MyMixin`: each
message that the decoder delivers is answered with requests, which are encoded, logged and
written to the transport.

An exception leaves `data_received` with everything as it was when it was raised, and
asyncio then closes the transport: nothing more is received. The decode buffer, which no
callback looks at, stands beside the session.

What `_send` writes is recorded with the header and the native message that were encoded.

## Main results

* `exists_live`: wherever the stream is cut, a run over chunks is a run of the callback over
  the messages that arrived before the first chunk that is not valid UTF-8.
* `live_cut`: two ways to cut a stream lead to the same session and the same exception.
* `live_numbered`: in every run, whatever arrives, the messages are written under the numbers
  1, 2, 3, ... without gap.
* `live_answers`: what is written answers what arrived, one message after the other, as
  `asks` says.
* `live_heartbeats`: the heartbeats that are written are those that were asked for.
* `live_logon`: a session never writes a logon.
-/

namespace RoqPython.FixSession

open RoqPython.Fix Framing Raising

variable {X : Foreign} {ν ε : Type}

/-! ### The session -/

/-- What the sample names of `roq.fix`. -/
structure Enumerators where
  NONE : Enum .encryptMethod
  ALL_SECURITIES : Enum .securityListRequestType
  SNAPSHOT : Enum .subscriptionRequestType
  SNAPSHOT_UPDATES : Enum .subscriptionRequestType
  REQUEST_SECURITY_IDENTITY_AND_SPECIFICATIONS : Enum .securityRequestType
  INCREMENTAL_REFRESH : Enum .mdUpdateType
  BID : Enum .mdEntryType
  OFFER : Enum .mdEntryType
  ORDERS : Enum .massStatusReqType
  BUY : Enum .side
  LIMIT : Enum .ordType
  GTC : Enum .timeInForce
deriving Inhabited

/-- What a session depends on: the native encoder, the results of `datetime.now()`, one
after the other, and the enumerators. -/
structure Environment (X : Foreign) (ν ε : Type) where
  native : NativeEncoder X ν ε
  now : ℕ → TimePoint
  enumerators : Enumerators

/-- The exceptions that a session can raise. -/
inductive Exception (ε : Type)
  /-- The native encoder raised. -/
  | encode (error : ε)
  /-- `UnicodeDecodeError`. -/
  | unicodeDecodeError
  /-- `TypeError`: a constructor was called without a required argument. -/
  | typeError
deriving DecidableEq

/-- A message that was written to the transport. -/
structure Written (X : Foreign) where
  header : Native.Header Bytes
  value : Native.Message X Bytes
  data : Bytes

/-- `MySession`, and how often `datetime.now()` was called. -/
structure MySession (X : Foreign) (ν : Type) where
  encoder : Encoder ν
  username : Bytes
  password : Bytes
  ticks : ℕ
  written : List (Written X)

/-- Python text as UTF-8. -/
def utf8 (text : String) : Bytes := text.toUTF8.data.toList

/-- `MySession(sender_comp_id, target_comp_id, username, password)`. -/
def MySession.new (encoder : ν) (senderCompId targetCompId username password : Bytes) :
    MySession X ν :=
  ⟨.create encoder senderCompId targetCompId, username, password, 0, []⟩

/-! ### Requests -/

section Requests

variable (enumerators : Enumerators)

/-- Construct an object from Python. -/
def construct (args : Arguments Bytes) : Encodeable Bytes := args.construct id ownText

/-- `security_list_request`. -/
def securityListRequest : Encodeable Bytes :=
  construct <| .securityListRequest
    { securityReqId := utf8 "security_req_id_1"
      securityListRequestType := enumerators.ALL_SECURITIES
      symbol := []
      securityExchange := []
      tradingSessionId := []
      subscriptionRequestType := enumerators.SNAPSHOT }

/-- `heartbeat`. -/
def heartbeatReply (testReqId : Bytes) : Encodeable Bytes :=
  construct <| .heartbeat { testReqId }

/-- `security_definition_request`. -/
def securityDefinitionRequest : Encodeable Bytes :=
  construct <| .securityDefinitionRequest
    { securityReqId := utf8 "security_req_id_2"
      securityRequestType := enumerators.REQUEST_SECURITY_IDENTITY_AND_SPECIFICATIONS
      symbol := utf8 "BTC-PERPETUAL"
      securityExchange := utf8 "deribit"
      tradingSessionId := []
      subscriptionRequestType := enumerators.SNAPSHOT }

/-- `security_status_request`. -/
def securityStatusRequest : Encodeable Bytes :=
  construct <| .securityStatusRequest
    { securityStatusReqId := utf8 "security_status_req_id_1"
      symbol := utf8 "BTC-PERPETUAL"
      securityExchange := utf8 "deribit"
      subscriptionRequestType := enumerators.SNAPSHOT
      tradingSessionId := utf8 "deribit" }

/-- `market_data_request`. -/
def marketDataRequest : Encodeable Bytes :=
  construct <| .marketDataRequest
    { mdReqId := utf8 "md_req_id_1"
      subscriptionRequestType := enumerators.SNAPSHOT_UPDATES
      marketDepth := 5
      mdUpdateType := enumerators.INCREMENTAL_REFRESH
      aggregatedBook := true
      noMdEntryTypes := [enumerators.BID, enumerators.OFFER]
      noRelatedSym := [{ symbol := utf8 "BTC-PERPETUAL", securityExchange := utf8 "deribit" }] }

/-- `order_status_request`. -/
def orderStatusRequest : Encodeable Bytes :=
  construct <| .orderStatusRequest
    { orderId := []
      clOrdId := []
      ordStatusReqId := utf8 "ord_status_req_id_1"
      account := []
      symbol := []
      securityExchange := []
      side := default }

/-- `order_mass_status_request`. -/
def orderMassStatusRequest : Encodeable Bytes :=
  construct <| .orderMassStatusRequest
    { massStatusReqId := utf8 "mass_status_req_id_1"
      massStatusReqType := enumerators.ORDERS
      account := []
      tradingSessionId := []
      symbol := []
      securityExchange := []
      side := default }

/-- `std::numeric_limits<double>::quiet_NaN()`. -/
def quietNaN : Double := ⟨0x7FF8000000000000⟩

/-- `new_order_single`: one at 10000. -/
def newOrderSingle (transactTime : TimePoint) : Encodeable Bytes :=
  construct <| .newOrderSingle
    { clOrdId := utf8 "cl_ord_id_1"
      secondaryClOrdId := []
      account := utf8 "A1"
      handlInst := default
      execInst := []
      symbol := utf8 "BTC-PERPETUAL"
      securityExchange := utf8 "deribit"
      side := enumerators.BUY
      transactTime
      orderQty := ⟨0x3FF0000000000000⟩
      ordType := enumerators.LIMIT
      price := ⟨0x40C3880000000000⟩
      stopPx := quietNaN
      timeInForce := enumerators.GTC
      text := []
      positionEffect := default
      maxShow := quietNaN }

/-- `trading_session_status_request`. -/
def tradingSessionStatusRequest : Encodeable Bytes :=
  construct <| .tradingSessionStatusRequest
    { tradSesReqId := utf8 "trad_ses_req_id_1"
      tradingSessionId := utf8 "deribit"
      subscriptionRequestType := enumerators.SNAPSHOT }

end Requests

/-- The keyword arguments of a call of `Logon`. -/
structure LogonKeywords where
  encryptMethod : Option (Enum .encryptMethod) := none
  heartBtInt : Option Seconds := none
  rawDataLength : Option UInt32 := none
  rawData : Option Bytes := none
  resetSeqNumFlag : Option Bool := none
  nextExpectedMsgSeqNum : Option UInt64 := none
  username : Option Bytes := none
  password : Option Bytes := none

/-- The arguments of the constructor `Logon`. Four of them have no default. -/
def LogonKeywords.bind (enumerators : Enumerators) (self : LogonKeywords) :
    Option (Logon.Args Bytes) := do
  let heartBtInt ← self.heartBtInt
  let rawDataLength ← self.rawDataLength
  let rawData ← self.rawData
  let username ← self.username
  return {
    encryptMethod := self.encryptMethod.getD enumerators.NONE
    heartBtInt
    rawDataLength
    rawData
    resetSeqNumFlag := self.resetSeqNumFlag.getD false
    nextExpectedMsgSeqNum := self.nextExpectedMsgSeqNum.getD 0
    username
    password := self.password.getD [] }

namespace MySession

variable (env : Environment X ν ε)

/-- `datetime.now()`. -/
def now (self : MySession X ν) : TimePoint × MySession X ν :=
  (env.now self.ticks, { self with ticks := self.ticks + 1 })

/-- `_send`. The message is decoded to be logged, before it is written. -/
def _send (self : MySession X ν) (obj : Encodeable Bytes) :
    MySession X ν × Option (Exception ε) :=
  let (sendingTime, self) := self.now env
  let (header, result, encoder) := self.encoder.encode env.native ⟨obj, sendingTime⟩
  let self := { self with encoder }
  match result with
  | .error error => (self, some (.encode error))
  | .ok message =>
      if isUtf8 message then
        let written := self.written ++ [⟨header, obj.toValue X ownText, message⟩]
        ({ self with written }, none)
      else (self, some .unicodeDecodeError)

/-- Text of a message as a Python string. -/
def str (self : MySession X ν) (text : Bytes) : MySession X ν × Option (Exception ε) :=
  (self, if isUtf8 text then none else some .unicodeDecodeError)

/-- `new_order_single` is constructed with the time of the call, and sent. -/
def sendOrder (self : MySession X ν) : MySession X ν × Option (Exception ε) :=
  let (transactTime, self) := self.now env
  self._send env (newOrderSingle env.enumerators transactTime)

/-- `MyMixin._callback`. The types without an overload, and those that are only logged, are
the last case. -/
def _callback (self : MySession X ν) (header_message : Header × Encodeable Bytes) :
    MySession X ν × Option (Exception ε) :=
  match header_message.2 with
  | .logon _ => self._send env (securityListRequest env.enumerators)
  | .testRequest testRequest =>
      andThen (self.str testRequest.testReqId) fun self =>
        self._send env (heartbeatReply testRequest.testReqId)
  | .securityList _ => self._send env (securityDefinitionRequest env.enumerators)
  | .securityDefinition _ =>
      andThen (self._send env (securityStatusRequest env.enumerators)) fun self =>
        self._send env (marketDataRequest env.enumerators)
  | .securityStatus _ => self._send env orderStatusRequest
  | .executionReport executionReport =>
      andThen (self.str executionReport.ordStatusReqId) fun self =>
      andThen
        (if executionReport.ordStatusReqId.length > 0 then
          self._send env (orderMassStatusRequest env.enumerators)
        else (self, none)) fun self =>
      andThen (self.str executionReport.massStatusReqId) fun self =>
        if executionReport.massStatusReqId.length > 0 then self.sendOrder env
        else self._send env (tradingSessionStatusRequest env.enumerators)
  | _ => (self, none)

/-- `MyMixin.connection_made`: the logon is constructed with four keyword arguments. -/
def connectionMade (self : MySession X ν) : MySession X ν × Option (Exception ε) :=
  let keywords : LogonKeywords :=
    { heartBtInt := some 30
      username := some self.username
      password := some self.password
      encryptMethod := some env.enumerators.NONE }
  match keywords.bind env.enumerators with
  | none => (self, some .typeError)
  | some args => self._send env (construct (.logon args))

/-- `Decoder::Handler::dispatch`: the callback is given the wrappers of a native header and
a native message. -/
def dispatch (self : MySession X ν) (message : Native.Header Bytes × Native.Message X Bytes) :
    MySession X ν × Option (Exception ε) :=
  self._callback env (.ofValue id message.1, .ofValue id ownText message.2)

/-- `Client.data_received`, of a session and its decode buffer. -/
def dataReceived (native : Bytes → ℕ × List (Native.Header Bytes × Native.Message X Bytes)) :
    MySession X ν × Bytes → Bytes → (MySession X ν × Bytes) × Option (Exception ε) :=
  guarded isUtf8 .unicodeDecodeError (receiveWith native (dispatch env))

/-- The life of a session: the connection is made, and data is received until a call raises.
An exception of `connection_made` is only logged. -/
def live (native : Bytes → ℕ × List (Native.Header Bytes × Native.Message X Bytes))
    (self : MySession X ν) (chunks : List Bytes) :
    (MySession X ν × Bytes) × Option (Exception ε) :=
  run (dataReceived env native) ((self.connectionMade env).1, []) chunks

/-! ### One message -/

variable {env} {self : MySession X ν}

/-- The constructor call of `connection_made` lacks two required arguments, so that the
session is as it was. -/
theorem connectionMade_eq : self.connectionMade env = (self, some .typeError) := rfl

/-- **What `_send` does.** Either it raises and has written nothing, or it has written one
message, with the next number. -/
theorem send_cases (env : Environment X ν ε) (self : MySession X ν) (obj : Encodeable Bytes) :
    (∃ error, (self._send env obj).2 = some error ∧
      (self._send env obj).1.written = self.written) ∨
    ∃ data, (self._send env obj).2 = none ∧
      (self._send env obj).1.written = self.written ++
        [⟨self.encoder.header X (obj.toValue X ownText).type (env.now self.ticks),
          obj.toValue X ownText, data⟩] ∧
      (env.native self.encoder.encoder
        (self.encoder.header X (obj.toValue X ownText).type (env.now self.ticks))
        (obj.toValue X ownText)).1 = .ok data := by
  have hheader : (self.encoder.encode env.native ⟨obj, env.now self.ticks⟩).1 =
      self.encoder.header X (obj.toValue X ownText).type (env.now self.ticks) := rfl
  have hresult : (self.encoder.encode env.native ⟨obj, env.now self.ticks⟩).2.1 =
      (env.native self.encoder.encoder
        (self.encoder.header X (obj.toValue X ownText).type (env.now self.ticks))
        (obj.toValue X ownText)).1 := rfl
  cases hencode : (self.encoder.encode env.native ⟨obj, env.now self.ticks⟩).2.1 with
  | error error =>
      refine .inl ⟨.encode error, ?_⟩
      simp [_send, now, hencode]
  | ok data =>
      rw [← hresult, hencode]
      by_cases hdata : isUtf8 data = true
      · refine .inr ⟨data, ?_⟩
        simp [_send, now, hencode, hdata, hheader]
      · refine .inl ⟨.unicodeDecodeError, ?_⟩
        simp [_send, now, hencode, hdata]

/-- The encoder after `_send` took a number, and has the ids that it had. -/
theorem send_encoder (env : Environment X ν ε) (self : MySession X ν) (obj : Encodeable Bytes) :
    (self._send env obj).1.encoder.msgSeqNum = self.encoder.msgSeqNum + 1 ∧
      (self._send env obj).1.encoder.senderCompId = self.encoder.senderCompId ∧
      (self._send env obj).1.encoder.targetCompId = self.encoder.targetCompId := by
  have hencoder : (self._send env obj).1.encoder =
      (self.encoder.encode env.native ⟨obj, env.now self.ticks⟩).2.2 := by
    simp only [_send, now]
    split
    · rfl
    · split <;> rfl
  rw [hencoder]
  exact ⟨rfl, rfl, rfl⟩

/-! ### Numbering -/

/-- What was written is numbered from 1 on, under the ids of the session, and is the
encoding of its header and its message. -/
structure Numbered (env : Environment X ν ε) (senderCompId targetCompId : Bytes)
    (session : MySession X ν) : Prop where
  sender : session.encoder.senderCompId = senderCompId
  target : session.encoder.targetCompId = targetCompId
  written : ∀ k w, session.written[k]? = some w →
    w.header.msgSeqNum = UInt64.ofNat (k + 1) ∧ w.header.senderCompId = senderCompId ∧
      w.header.targetCompId = targetCompId ∧ w.header.msgType = X.MSG_TYPE w.value.type ∧
      ∃ encoder, (env.native encoder w.header w.value).1 = .ok w.data

/-- The next number is the one after the last message that was written. -/
structure Ready (env : Environment X ν ε) (senderCompId targetCompId : Bytes)
    (session : MySession X ν) : Prop
    extends Numbered env senderCompId targetCompId session where
  next : session.encoder.msgSeqNum = UInt64.ofNat session.written.length

variable {senderCompId targetCompId : Bytes}

/-- A session looks at its encoder and at what was written only. -/
theorem Ready.of_eq {self' : MySession X ν} (h : Ready env senderCompId targetCompId self)
    (hencoder : self'.encoder = self.encoder) (hwritten : self'.written = self.written) :
    Ready env senderCompId targetCompId self' where
  sender := hencoder ▸ h.sender
  target := hencoder ▸ h.target
  written := hwritten ▸ h.written
  next := by rw [hencoder, hwritten, h.next]

/-- **One message.** When a number is taken and nothing is written, the session raises. -/
theorem ready_send (h : Ready env senderCompId targetCompId self) (obj : Encodeable Bytes) :
    Ensures (Ready env senderCompId targetCompId) (Numbered env senderCompId targetCompId)
      (self._send env obj) := by
  obtain ⟨hnext, hsender, htarget⟩ := send_encoder env self obj
  rcases send_cases env self obj with
    ⟨error, hraised, hwritten⟩ | ⟨data, hreturned, hwritten, hdata⟩
  · have hnumbered : Numbered env senderCompId targetCompId (self._send env obj).1 :=
      ⟨hsender.trans h.sender, htarget.trans h.target, hwritten ▸ h.written⟩
    rw [Ensures, hraised]
    exact hnumbered
  · have hready : Ready env senderCompId targetCompId (self._send env obj).1 := by
      refine ⟨⟨hsender.trans h.sender, htarget.trans h.target, ?_⟩, ?_⟩
      · intro k w hk
        rw [hwritten] at hk
        rcases Nat.lt_trichotomy k self.written.length with hlt | rfl | hgt
        · rw [List.getElem?_append_left hlt] at hk
          exact h.written k w hk
        · rw [List.getElem?_concat_length] at hk
          obtain rfl := Option.some.inj hk
          refine ⟨?_, h.sender, h.target, rfl, _, hdata⟩
          have hnumber : self.encoder.msgSeqNum + 1 = UInt64.ofNat (self.written.length + 1) := by
            rw [h.next]
            exact (UInt64.ofNat_add _ 1).symm
          exact hnumber
        · have hbound := (List.getElem?_eq_some_iff.mp hk).1
          rw [List.length_append, List.length_singleton] at hbound
          omega
      · rw [hnext, hwritten, h.next, List.length_append]
        exact (UInt64.ofNat_add _ 1).symm
    rw [Ensures, hreturned]
    exact hready

/-- Making a string of text changes nothing. -/
theorem ready_str (h : Ready env senderCompId targetCompId self) (text : Bytes) :
    Ensures (Ready env senderCompId targetCompId) (Numbered env senderCompId targetCompId)
      (self.str text : MySession X ν × Option (Exception ε)) := by
  rw [str]
  split
  · exact h
  · exact h.toNumbered

/-- The callback, for any message. -/
theorem ready_callback (message : Header × Encodeable Bytes)
    (h : Ready env senderCompId targetCompId self) :
    Ensures (Ready env senderCompId targetCompId) (Numbered env senderCompId targetCompId)
      (self._callback env message) := by
  have hsend : ∀ (obj : Encodeable Bytes) (s : MySession X ν),
      Ready env senderCompId targetCompId s →
        Ensures (Ready env senderCompId targetCompId) (Numbered env senderCompId targetCompId)
          (s._send env obj) := fun obj s hs => ready_send hs obj
  have horder : ∀ s : MySession X ν, Ready env senderCompId targetCompId s →
      Ensures (Ready env senderCompId targetCompId) (Numbered env senderCompId targetCompId)
        (s.sendOrder env) := by
    intro s hs
    have hticks : Ready env senderCompId targetCompId { s with ticks := s.ticks + 1 } :=
      hs.of_eq rfl rfl
    exact ready_send hticks _
  obtain ⟨header, message⟩ := message
  cases message with
  | logon | securityList | securityStatus => exact hsend _ _ h
  | testRequest testRequest => exact (ready_str h _).andThen (hsend _)
  | securityDefinition => exact (hsend _ _ h).andThen (hsend _)
  | executionReport executionReport =>
      refine (ready_str h _).andThen fun s hs => ?_
      refine Ensures.andThen (P := Ready env senderCompId targetCompId) ?_ fun s hs => ?_
      · split
        · exact hsend _ _ hs
        · exact hs
      · refine (ready_str hs _).andThen fun s hs => ?_
        split
        · exact horder s hs
        · exact hsend _ _ hs
  | _ => exact h

/-- A new session. -/
theorem ready_new (env : Environment X ν ε) (encoder : ν)
    (senderCompId targetCompId username password : Bytes) :
    Ready env senderCompId targetCompId
      (new encoder senderCompId targetCompId username password) where
  sender := rfl
  target := rfl
  written := by
    intro k w hk
    cases hk
  next := rfl

/-- **Numbering.** In every run of a session, whatever arrives and whatever goes wrong, the
messages are written under the numbers 1, 2, 3, ... and under the ids of the session; and
when the session has not raised, the encoder goes on from there. -/
theorem live_numbered (native : Bytes → ℕ × List (Native.Header Bytes × Native.Message X Bytes))
    (encoder : ν) (senderCompId targetCompId username password : Bytes) (chunks : List Bytes) :
    let result :=
      (new encoder senderCompId targetCompId username password).live env native chunks
    Numbered env senderCompId targetCompId result.1.1 ∧
      (result.2 = none → Ready env senderCompId targetCompId result.1.1) := by
  have hnew := ready_new env encoder senderCompId targetCompId username password
  have hrun : Ensures (fun state => Ready env senderCompId targetCompId state.1)
      (fun state => Numbered env senderCompId targetCompId state.1)
      ((new encoder senderCompId targetCompId username password).live env native chunks) := by
    rw [live, connectionMade_eq]
    refine Ensures.run (fun state chunk hstate => ?_) chunks hnew
    refine Ensures.guarded _ _ hstate.toNumbered ?_
    exact ensures_receiveWith native (fun s message hs => ready_callback _ hs) hstate chunk
  exact ⟨hrun.always fun state hready => hready.toNumbered, hrun.returned⟩

/-! ### Any cut -/

/-- `8=FIX.4.4|9=51|35=?|49=?|56=?|34=1|52=19700101-00:00:00.000|112=a|10=10?|`. -/
def sampleFrame (msgType senderCompId targetCompId digit : UInt8) : Bytes :=
  [56, 61, 70, 73, 88, 46, 52, 46, 52, 1, 57, 61, 53, 49, 1, 51, 53, 61, msgType, 1, 52, 57, 61,
    senderCompId, 1, 53, 54, 61, targetCompId, 1, 51, 52, 61, 49, 1, 53, 50, 61, 49, 57, 55, 48,
    48, 49, 48, 49, 45, 48, 48, 58, 48, 48, 58, 48, 48, 46, 48, 48, 48, 1, 49, 49, 50, 61, 97, 1,
    49, 48, 61, 49, 48, digit, 1]

/-- A test request from `B` to `A`. -/
def sampleTestRequest : Bytes := sampleFrame 49 66 65 56

/-- A heartbeat from `A` to `B`. -/
def sampleHeartbeat : Bytes := sampleFrame 48 65 66 55

/-- The header of a first message, sent at the epoch. -/
def sampleHeader (type : MessageType) (senderCompId targetCompId : Bytes) :
    Native.Header Bytes :=
  ⟨(default : Foreign).FIX_44, (default : Foreign).MSG_TYPE type, senderCompId, targetCompId, 1,
    0⟩

/-- What the test request decodes to. -/
def sampleMessage : Native.Header Bytes × Native.Message default Bytes :=
  (sampleHeader .testRequest [66] [65], .testRequest ⟨[97]⟩)

/-- A decoder that knows the test request. -/
def sampleDecoder (buffer : Bytes) :
    ℕ × List (Native.Header Bytes × Native.Message default Bytes) :=
  if sampleTestRequest <+: buffer then (sampleTestRequest.length, [sampleMessage]) else (0, [])

theorem decodes_sampleDecoder :
    Decodes (· = sampleTestRequest) (fun _ => sampleMessage) sampleDecoder := by
  refine ⟨?_, ?_, ?_⟩
  · rintro f rfl
    decide
  · rintro p ⟨f, rfl, hp, hne⟩
    refine if_neg fun h => hne ?_
    exact hp.eq_of_length_le h.length_le
  · rintro f rest rfl
    exact if_pos (List.prefix_append _ rest)

/-- An encoder that knows the heartbeat, and a clock that ticks. -/
def sampleEnvironment : Environment default Unit Unit where
  native _ header value :=
    match value with
    | .heartbeat ⟨testReqId⟩ =>
        if header = sampleHeader .heartbeat [65] [66] ∧ testReqId = [97] then
          (.ok sampleHeartbeat, ())
        else (.error (), ())
    | _ => (.error (), ())
  now tick := tick
  enumerators := default

section Cuts

variable {IsFrame : Bytes → Prop}
  {decode : Bytes → Native.Header Bytes × Native.Message X Bytes}
  {native : Bytes → ℕ × List (Native.Header Bytes × Native.Message X Bytes)}

/-- A run over chunks is a run of the callback over the messages that are complete in the
chunks before the first one that is not valid UTF-8. -/
theorem exists_live (env : Environment X ν ε) (hdecodes : Decodes IsFrame decode native)
    {frames : List Bytes} (hframes : ∀ f ∈ frames, IsFrame f) {p : Bytes}
    (hp : Unfinished IsFrame p)
    {chunks : List Bytes} (hstream : chunks.flatten = frames.flatten ++ p)
    (self : MySession X ν) :
    ∃ done todo q, frames = done ++ todo ∧ Unfinished IsFrame q ∧
      (chunks.takeWhile isUtf8).flatten = done.flatten ++ q ∧
      (self.live env native chunks).1.1 = (run (dispatch env) self (done.map decode)).1 ∧
      (self.live env native chunks).2 =
        (run (dispatch env) self (done.map decode)).2.or
          (if chunks.all isUtf8 then none else some .unicodeDecodeError) ∧
      (chunks.all isUtf8 = true → done = frames) ∧
      ((self.live env native chunks).2 = none → (self.live env native chunks).1.2 = p) := by
  have hcut : frames.flatten ++ p =
      (chunks.takeWhile isUtf8).flatten ++ (chunks.dropWhile isUtf8).flatten := by
    rw [← hstream, ← List.flatten_append, List.takeWhile_append_dropWhile]
  obtain ⟨done, todo, q, rfl, hgood, hq, hrest⟩ := exists_cut hframes hp hcut
  have hdone : ∀ f ∈ done, IsFrame f := fun f hf => hframes f (List.mem_append_left _ hf)
  have htodo : ∀ f ∈ todo, IsFrame f := fun f hf => hframes f (List.mem_append_right _ hf)
  have hnil : Unfinished IsFrame [] := hp.of_prefix List.nil_prefix
  have hall : chunks.all isUtf8 = true → todo = [] ∧ p = q := by
    intro hall
    have hdrop : chunks.dropWhile isUtf8 = [] :=
      List.dropWhile_eq_nil_iff.mpr (List.all_eq_true.mp hall)
    rw [hdrop, List.flatten_nil, List.append_nil] at hrest
    obtain rfl : todo = [] := hdecodes.frames_eq_nil htodo hq ⟨p, hrest⟩
    exact ⟨rfl, hrest⟩
  obtain ⟨hstate, herror, hbuffer⟩ := hdecodes.run_receiveWith (dispatch env)
    hdone hq hnil hgood.symm self
  have hlive : self.live env native chunks =
      andThen (run (receiveWith native (dispatch env)) (self, [])
        (chunks.takeWhile isUtf8)) fun state =>
          (state, if chunks.all isUtf8 then none else some .unicodeDecodeError) := by
    rw [live, connectionMade_eq]
    exact run_guarded _ _ _ _
  refine ⟨done, todo, q, rfl, hq, hgood, ?_, ?_, ?_, ?_⟩
  · rw [hlive, ← hstate]
    cases hraised : (run (receiveWith native (dispatch env)) (self, [])
      (chunks.takeWhile isUtf8)).2 with
    | none => rw [andThen_of_none hraised]
    | some error => rw [andThen_of_some hraised]
  · rw [hlive, ← herror]
    cases hraised : (run (receiveWith native (dispatch env)) (self, [])
      (chunks.takeWhile isUtf8)).2 with
    | none => rw [andThen_of_none hraised, Option.none_or]
    | some error => rw [andThen_of_some hraised, hraised, Option.some_or]
  · intro h
    rw [(hall h).1, List.append_nil]
  · intro hnone
    rw [hlive] at hnone ⊢
    obtain ⟨hreturned, hutf8⟩ := of_andThen_none hnone
    rw [andThen_of_none hreturned]
    have h : chunks.all isUtf8 = true := by
      by_contra hother
      simp [hother] at hutf8
    exact (hbuffer hreturned).trans (hall h).2.symm

/-- **Any cut.** Two ways to cut a stream of frames, the last of them unfinished, into chunks
that are valid UTF-8 lead to the same session and the same exception; and to the same buffer,
when nothing was raised. -/
theorem live_cut (hdecodes : Decodes IsFrame decode native) {frames : List Bytes}
    (hframes : ∀ f ∈ frames, IsFrame f) {p : Bytes} (hp : Unfinished IsFrame p)
    {chunks chunks' : List Bytes} (hstream : chunks.flatten = frames.flatten ++ p)
    (hsame : chunks'.flatten = chunks.flatten) (hutf8 : ∀ data ∈ chunks, isUtf8 data = true)
    (hutf8' : ∀ data ∈ chunks', isUtf8 data = true) (self : MySession X ν) :
    (self.live env native chunks').1.1 = (self.live env native chunks).1.1 ∧
      (self.live env native chunks').2 = (self.live env native chunks).2 ∧
      ((self.live env native chunks).2 = none →
        (self.live env native chunks').1.2 = (self.live env native chunks).1.2) := by
  have hall : chunks.all isUtf8 = true := List.all_eq_true.mpr hutf8
  have hall' : chunks'.all isUtf8 = true := List.all_eq_true.mpr hutf8'
  obtain ⟨done, -, -, -, -, -, hstate, herror, hdone, hbuffer⟩ :=
    exists_live env hdecodes hframes hp hstream self
  obtain ⟨done', -, -, -, -, -, hstate', herror', hdone', hbuffer'⟩ :=
    exists_live env hdecodes hframes hp (hsame.trans hstream) self
  rw [hall, hdone hall] at herror
  rw [hall', hdone' hall'] at herror'
  rw [hdone hall] at hstate
  rw [hdone' hall'] at hstate'
  refine ⟨hstate'.trans hstate.symm, herror'.trans herror.symm, fun hnone => ?_⟩
  rw [hbuffer hnone, hbuffer' (herror'.trans (herror.symm.trans hnone))]

end Cuts

/-- A test request and the start of another one, in two chunks and in three. The test request
is answered, and nothing is raised. -/
theorem live_cut_testRequest :
    let session := new () [65] [66] [] []
    let result := session.live sampleEnvironment sampleDecoder
      [sampleTestRequest.take 11, sampleTestRequest.drop 11 ++ sampleTestRequest.take 3]
    let result' := session.live sampleEnvironment sampleDecoder
      [sampleTestRequest, sampleTestRequest.take 2, [70]]
    result.2 = none ∧ result'.1.1 = result.1.1 ∧ result'.2 = result.2 ∧
      result'.1.2 = result.1.2 := by
  have hp : Unfinished (· = sampleTestRequest) (sampleTestRequest.take 3) :=
    ⟨sampleTestRequest, rfl, List.take_prefix _ _, by decide⟩
  have hframes : ∀ f ∈ [sampleTestRequest], f = sampleTestRequest := by simp
  intro session result result'
  have hreturned : result.2 = none := by decide +kernel
  have hcut : result'.1.1 = result.1.1 ∧ result'.2 = result.2 ∧
      (result.2 = none → result'.1.2 = result.1.2) :=
    live_cut decodes_sampleDecoder hframes hp (by decide) (by decide) (by decide) (by decide)
      session
  exact ⟨hreturned, hcut.1, hcut.2.1, hcut.2.2 hreturned⟩

end MySession

/-! ### What is written, and why -/

/-- What a message can ask for. -/
inductive Request
  | securityList
  | heartbeat (testReqId : Bytes)
  | securityDefinition
  | securityStatus
  | marketData
  | orderStatus
  | orderMassStatus
  | newOrderSingle
  | tradingSessionStatus
deriving DecidableEq

/-- The message that is sent for a request, at a time. -/
def Request.encodeable (enumerators : Enumerators) (transactTime : TimePoint) :
    Request → Encodeable Bytes
  | .securityList => securityListRequest enumerators
  | .heartbeat testReqId => heartbeatReply testReqId
  | .securityDefinition => securityDefinitionRequest enumerators
  | .securityStatus => securityStatusRequest enumerators
  | .marketData => marketDataRequest enumerators
  | .orderStatus => orderStatusRequest
  | .orderMassStatus => orderMassStatusRequest enumerators
  | .newOrderSingle => FixSession.newOrderSingle enumerators transactTime
  | .tradingSessionStatus => tradingSessionStatusRequest enumerators

/-- What a message that arrives asks for: the workflow, as a table. -/
def asks : Encodeable Bytes → List Request
  | .logon _ => [.securityList]
  | .testRequest testRequest => [.heartbeat testRequest.testReqId]
  | .securityList _ => [.securityDefinition]
  | .securityDefinition _ => [.securityStatus, .marketData]
  | .securityStatus _ => [.orderStatus]
  | .executionReport executionReport =>
      (if executionReport.ordStatusReqId = [] then [] else [.orderMassStatus]) ++
        if executionReport.massStatusReqId = [] then [.tradingSessionStatus]
        else [.newOrderSingle]
  | _ => []

/-- A message that was written is the one for a request, at some time of the clock. -/
def Written.Answers (env : Environment X ν ε) (w : Written X) (request : Request) : Prop :=
  ∃ tick, w.value = (request.encodeable env.enumerators (env.now tick)).toValue X ownText

/-- The id of a heartbeat that was written. -/
def Written.heartbeatId (w : Written X) : Option Bytes :=
  match w.value with
  | .heartbeat value => some value.testReqId
  | _ => none

/-- The id of a test request. -/
def testRequestId : Encodeable Bytes → Option Bytes
  | .testRequest testRequest => some testRequest.testReqId
  | _ => none

/-- The id of a heartbeat that is asked for. -/
def Request.heartbeatId : Request → Option Bytes
  | .heartbeat testReqId => some testReqId
  | _ => none

/-- A heartbeat answers the request for it, and no other. -/
theorem Written.Answers.heartbeatId_eq {env : Environment X ν ε} {w : Written X}
    {request : Request} (h : w.Answers env request) : w.heartbeatId = request.heartbeatId := by
  obtain ⟨tick, hvalue⟩ := h
  rw [Written.heartbeatId, hvalue]
  cases request <;> rfl

/-- The heartbeats that a message asks for. -/
theorem filterMap_asks (message : Encodeable Bytes) :
    (asks message).filterMap Request.heartbeatId = (testRequestId message).toList := by
  cases message with
  | executionReport executionReport =>
      rw [asks]
      split <;> split <;> rfl
  | _ => rfl

namespace MySession

variable {env : Environment X ν ε}

/-- `_send` writes what it is called with. -/
theorem logs_send (self : MySession X ν) {obj : Encodeable Bytes} {request : Request}
    (h : ∃ tick, obj = request.encodeable env.enumerators (env.now tick)) :
    Logs written (Written.Answers env) self [request] (self._send env obj) := by
  obtain ⟨tick, rfl⟩ := h
  rcases send_cases env self (request.encodeable env.enumerators (env.now tick)) with
    ⟨error, hraised, hwritten⟩ | ⟨data, hreturned, hwritten, -⟩
  · have hsend : self._send env (request.encodeable env.enumerators (env.now tick)) =
        ((self._send env (request.encodeable env.enumerators (env.now tick))).1, some error) :=
      Prod.ext rfl hraised
    rw [hsend]
    exact Logs.raised hwritten _
  · have hsend : self._send env (request.encodeable env.enumerators (env.now tick)) =
        ((self._send env (request.encodeable env.enumerators (env.now tick))).1, none) :=
      Prod.ext rfl hreturned
    rw [hsend]
    exact Logs.single hwritten ⟨tick, rfl⟩

/-- Making a string of text writes nothing. -/
theorem logs_str (self : MySession X ν) (text : Bytes) :
    Logs written (Written.Answers env) self []
      (self.str text : MySession X ν × Option (Exception ε)) :=
  Logs.nothing rfl

/-- **One message.** The callback writes what the message asks for. -/
theorem logs_callback (self : MySession X ν) (message : Header × Encodeable Bytes) :
    Logs written (Written.Answers env) self (asks message.2) (self._callback env message) := by
  have hsend : ∀ (request : Request) (s : MySession X ν), Logs written (Written.Answers env) s
      [request] (s._send env (request.encodeable env.enumerators (env.now 0))) :=
    fun request s => s.logs_send ⟨0, rfl⟩
  have horder : ∀ s : MySession X ν, Logs written (Written.Answers env) s [.newOrderSingle]
      (s.sendOrder env) := by
    intro s
    have hsent : Logs written (Written.Answers env) { s with ticks := s.ticks + 1 }
        [.newOrderSingle] (s.sendOrder env) := logs_send _ ⟨s.ticks, rfl⟩
    exact hsent
  obtain ⟨header, message⟩ := message
  cases message with
  | logon => exact hsend .securityList self
  | securityList => exact hsend .securityDefinition self
  | securityStatus => exact hsend .orderStatus self
  | testRequest testRequest =>
      exact (logs_str self _).andThen (hsend (.heartbeat testRequest.testReqId))
  | securityDefinition => exact (hsend .securityStatus self).andThen (hsend .marketData)
  | executionReport executionReport =>
      have hfirst : ∀ s : MySession X ν, Logs written (Written.Answers env) s
          (if executionReport.ordStatusReqId = [] then [] else [.orderMassStatus])
          (if executionReport.ordStatusReqId.length > 0 then
            s._send env (orderMassStatusRequest env.enumerators)
          else (s, none)) := by
        intro s
        cases executionReport.ordStatusReqId with
        | nil => exact Logs.nothing rfl
        | cons => exact hsend .orderMassStatus s
      have hsecond : ∀ s : MySession X ν, Logs written (Written.Answers env) s
          (if executionReport.massStatusReqId = [] then [.tradingSessionStatus]
            else [.newOrderSingle])
          (if executionReport.massStatusReqId.length > 0 then s.sendOrder env
            else s._send env (tradingSessionStatusRequest env.enumerators)) := by
        intro s
        cases executionReport.massStatusReqId with
        | nil => exact hsend .tradingSessionStatus s
        | cons => exact horder s
      refine (logs_str self _).andThen fun s => ?_
      refine (hfirst s).andThen fun s => ?_
      exact (logs_str s _).andThen hsecond
  | _ => exact Logs.nothing rfl

/-- A run over messages writes what they ask for, one after the other. -/
theorem logs_run (env : Environment X ν ε) (self : MySession X ν)
    (messages : List (Native.Header Bytes × Native.Message X Bytes)) :
    Logs written (Written.Answers env) self
      (messages.flatMap fun message => asks (.ofValue id ownText message.2))
      (run (dispatch env) self messages) :=
  Logs.run (fun s _ => s.logs_callback _) self messages

section Frames

variable {IsFrame : Bytes → Prop}
  {decode : Bytes → Native.Header Bytes × Native.Message X Bytes}
  {native : Bytes → ℕ × List (Native.Header Bytes × Native.Message X Bytes)}

/-- The messages of the frames that arrived. -/
def messages (decode : Bytes → Native.Header Bytes × Native.Message X Bytes)
    (frames : List Bytes) : List (Encodeable Bytes) :=
  frames.map fun f => .ofValue id ownText (decode f).2

/-- A run over chunks answers the first of the requests that the messages make, and all of them
when nothing was raised. -/
theorem logs_live (env : Environment X ν ε) (hdecodes : Decodes IsFrame decode native)
    {frames : List Bytes} (hframes : ∀ f ∈ frames, IsFrame f) {p : Bytes}
    (hp : Unfinished IsFrame p) {chunks : List Bytes}
    (hstream : chunks.flatten = frames.flatten ++ p) (self : MySession X ν) :
    Logs (fun state => state.1.written) (Written.Answers env) (self, [])
      ((messages decode frames).flatMap asks) (self.live env native chunks) := by
  obtain ⟨done, todo, q, rfl, -, -, hstate, herror, hall, -⟩ :=
    exists_live env hdecodes hframes hp hstream self
  obtain ⟨entries, answered, hlog, hprefix, hanswers, hcomplete⟩ :=
    self.logs_run env (done.map decode)
  have hasked : (done.map decode).flatMap (fun message => asks (.ofValue id ownText message.2)) =
      (messages decode done).flatMap asks := by
    rw [messages, List.flatMap_map, List.flatMap_map]
  rw [hasked] at hprefix hcomplete
  refine ⟨entries, answered, ?_, hprefix.trans ?_, hanswers, ?_⟩
  · exact (congrArg written hstate).trans hlog
  · rw [messages, messages, List.map_append, List.flatMap_append]
    exact List.prefix_append _ _
  · intro hnone
    rw [herror, Option.or_eq_none_iff] at hnone
    obtain ⟨hreturned, hutf8⟩ := hnone
    have h : chunks.all isUtf8 = true := by
      by_contra hother
      simp [hother] at hutf8
    rw [hcomplete hreturned, ← hall h]

/-- **Answers.** What a session has written, wherever the stream was cut and whatever went
wrong, answers the first of the requests that the messages that arrived make, one after the
other, as `asks` says: the last message of these may be answered in part. All requests are
answered when nothing was raised. -/
theorem live_answers (env : Environment X ν ε) (hdecodes : Decodes IsFrame decode native)
    {frames : List Bytes} (hframes : ∀ f ∈ frames, IsFrame f) {p : Bytes}
    (hp : Unfinished IsFrame p) {chunks : List Bytes}
    (hstream : chunks.flatten = frames.flatten ++ p)
    (encoder : ν) (senderCompId targetCompId username password : Bytes) :
    let result :=
      (new encoder senderCompId targetCompId username password).live env native chunks
    ∃ answered, answered <+: (messages decode frames).flatMap asks ∧
      List.Forall₂ (Written.Answers env) result.1.1.written answered ∧
      (result.2 = none → answered = (messages decode frames).flatMap asks) := by
  obtain ⟨entries, answered, hlog, hprefix, hanswers, hall⟩ := logs_live env hdecodes hframes hp
    hstream (new encoder senderCompId targetCompId username password)
  refine ⟨answered, hprefix, ?_, hall⟩
  have hwritten : ((new encoder senderCompId targetCompId username password).live env native
      chunks).1.1.written = entries := hlog
  rwa [hwritten]

/-- A test request that arrives in two chunks is processed, and nothing is raised. -/
theorem sample_returns : ((new () [65] [66] [] []).live sampleEnvironment sampleDecoder
    [sampleTestRequest.take 11, sampleTestRequest.drop 11]).2 = none := by
  decide +kernel

/-- Nothing is the start of a test request. -/
theorem sample_unfinished : Unfinished (· = sampleTestRequest) [] :=
  ⟨sampleTestRequest, rfl, List.nil_prefix, by decide⟩

/-- The test request is answered. -/
theorem live_answers_testRequest :
    let result := (new () [65] [66] [] []).live sampleEnvironment sampleDecoder
      [sampleTestRequest.take 11, sampleTestRequest.drop 11]
    result.2 = none ∧
      List.Forall₂ (Written.Answers sampleEnvironment) result.1.1.written
        [Request.heartbeat [97]] := by
  have hframes : ∀ f ∈ [sampleTestRequest], f = sampleTestRequest := by simp
  intro result
  obtain ⟨answered, -, hanswers, hall⟩ : ∃ answered, answered <+: [Request.heartbeat [97]] ∧
      List.Forall₂ (Written.Answers sampleEnvironment) result.1.1.written answered ∧
      (result.2 = none → answered = [Request.heartbeat [97]]) :=
    live_answers sampleEnvironment decodes_sampleDecoder hframes sample_unfinished (by decide)
      () [65] [66] [] []
  exact ⟨sample_returns, hall sample_returns ▸ hanswers⟩

/-- **Heartbeats.** A session writes one heartbeat for each of the first test requests, with its
id and in the order in which they arrived, and no other; and for all of them when nothing was
raised. -/
theorem live_heartbeats (env : Environment X ν ε) (hdecodes : Decodes IsFrame decode native)
    {frames : List Bytes} (hframes : ∀ f ∈ frames, IsFrame f) {p : Bytes}
    (hp : Unfinished IsFrame p) {chunks : List Bytes}
    (hstream : chunks.flatten = frames.flatten ++ p)
    (encoder : ν) (senderCompId targetCompId username password : Bytes) :
    let result :=
      (new encoder senderCompId targetCompId username password).live env native chunks
    result.1.1.written.filterMap Written.heartbeatId <+:
        (messages decode frames).filterMap testRequestId ∧
      (result.2 = none → result.1.1.written.filterMap Written.heartbeatId =
        (messages decode frames).filterMap testRequestId) := by
  obtain ⟨selected, hlog, hprefix, hall⟩ := (logs_live env hdecodes hframes hp hstream
    (new encoder senderCompId targetCompId username password)).filterMap
      fun entry request => Written.Answers.heartbeatId_eq
  have hasked : ((messages decode frames).flatMap asks).filterMap Request.heartbeatId =
      (messages decode frames).filterMap testRequestId := by
    rw [List.filterMap_flatMap, List.filterMap_eq_flatMap_toList]
    exact List.flatMap_congr fun message _ => filterMap_asks message
  have hwritten : ((new encoder senderCompId targetCompId username password).live env native
      chunks).1.1.written.filterMap Written.heartbeatId = selected := hlog
  rw [hasked] at hprefix hall
  exact ⟨hwritten ▸ hprefix, hwritten ▸ hall⟩

/-- The heartbeat for the test request is written. -/
theorem live_heartbeats_testRequest :
    let result := (new () [65] [66] [] []).live sampleEnvironment sampleDecoder
      [sampleTestRequest.take 11, sampleTestRequest.drop 11]
    result.2 = none ∧ result.1.1.written.filterMap Written.heartbeatId = [[97]] := by
  have hframes : ∀ f ∈ [sampleTestRequest], f = sampleTestRequest := by simp
  intro result
  have hheartbeats : result.1.1.written.filterMap Written.heartbeatId <+: [[97]] ∧
      (result.2 = none → result.1.1.written.filterMap Written.heartbeatId = [[97]]) :=
    live_heartbeats sampleEnvironment decodes_sampleDecoder hframes sample_unfinished (by decide)
      () [65] [66] [] []
  exact ⟨sample_returns, hheartbeats.2 sample_returns⟩

end Frames

/-- No logon was written. -/
def NoLogon (session : MySession X ν) : Prop :=
  ∀ w ∈ session.written, w.value.type ≠ .logon

/-- The callback writes no logon. -/
theorem noLogon_dispatch {s : MySession X ν}
    (message : Native.Header Bytes × Native.Message X Bytes) (hs : s.NoLogon) :
    Ensures NoLogon NoLogon (dispatch env s message) := by
  refine Ensures.of_fst fun w hw => ?_
  rcases (s.logs_callback _).mem hw with hold | ⟨request, -, tick, hvalue⟩
  · exact hs w hold
  · rw [hvalue]
    cases request <;> exact nofun

/-- **No logon.** The constructor call of `connection_made` raises, and no other message that
is written is a logon: in no run, whatever arrives, is there one. -/
theorem live_logon (env : Environment X ν ε)
    (native : Bytes → ℕ × List (Native.Header Bytes × Native.Message X Bytes))
    (encoder : ν) (senderCompId targetCompId username password : Bytes) (chunks : List Bytes) :
    let session := new encoder senderCompId targetCompId username password
    (session.connectionMade env).2 = some .typeError ∧
      (session.live env native chunks).1.1.NoLogon := by
  have hnew : (new (X := X) encoder senderCompId targetCompId username password).NoLogon := by
    intro w hw
    cases hw
  have hrun : Ensures (fun state => state.1.NoLogon) (fun state => state.1.NoLogon)
      ((new encoder senderCompId targetCompId username password).live env native chunks) := by
    rw [live, connectionMade_eq]
    refine Ensures.run (fun state chunk hstate => ?_) chunks hnew
    refine Ensures.guarded _ _ hstate ?_
    exact ensures_receiveWith native (fun s message => noLogon_dispatch message) hstate chunk
  exact ⟨congrArg Prod.snd connectionMade_eq, hrun.always fun _ h => h⟩

end MySession

end RoqPython.FixSession
