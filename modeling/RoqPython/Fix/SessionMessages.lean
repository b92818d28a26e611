import RoqPython.Fix.Types

/-!
# Session Messages

The session-level messages of `codec/fix/details.hpp`, from `Logon` to `UserResponse`. For
each message there is the native record (its fields are those that the conversion operator
of the wrapper names, in that order), the wrapper with its two conversions, and the Python
constructor with its arguments in the order of `pybind11::arg`.

Two members differ from the rest of the file: `Logon` keeps the 16-bit heartbeat interval
as a number of seconds and casts it back, and `BusinessMessageReject` keeps its text as a
`std::string_view`.
-/

namespace RoqPython.Fix

variable {V W : Type}

/-- `roq::codec::fix::Logon`. -/
structure Native.Logon (S : Type) where
  encryptMethod : Enum .encryptMethod
  heartBtInt : UInt16
  rawDataLength : UInt32
  rawData : S
  resetSeqNumFlag : Bool
  nextExpectedMsgSeqNum : UInt64
  username : S
  password : S
deriving Functor

/-- The wrapper `Logon`. -/
structure Logon where
  encryptMethod : Enum .encryptMethod
  heartBtInt : Seconds
  rawDataLength : UInt32
  rawData : Bytes
  resetSeqNumFlag : Bool
  nextExpectedMsgSeqNum : UInt64
  username : Bytes
  password : Bytes

namespace Logon

/-- The `std::string` members. -/
@[simp]
def texts (self : Logon) : List (Member × Bytes) :=
  [(.field "raw_data_", self.rawData), (.field "username_", self.username),
   (.field "password_", self.password)]

/-- `explicit Logon(value_type const &value)`. -/
def ofValue (string : V → Bytes) (value : Native.Logon V) : Logon where
  encryptMethod := value.encryptMethod
  heartBtInt := value.heartBtInt.toNat
  rawDataLength := value.rawDataLength
  rawData := string value.rawData
  resetSeqNumFlag := value.resetSeqNumFlag
  nextExpectedMsgSeqNum := value.nextExpectedMsgSeqNum
  username := string value.username
  password := string value.password

/-- `operator value_type() const`. -/
@[simp]
def toValue (view : Member → Bytes → V) (self : Logon) : Native.Logon V where
  encryptMethod := self.encryptMethod
  heartBtInt := UInt16.ofInt self.heartBtInt
  rawDataLength := self.rawDataLength
  rawData := view (.field "raw_data_") self.rawData
  resetSeqNumFlag := self.resetSeqNumFlag
  nextExpectedMsgSeqNum := self.nextExpectedMsgSeqNum
  username := view (.field "username_") self.username
  password := view (.field "password_") self.password

/-- The arguments of the Python constructor of `Logon`. -/
structure Args (S : Type) where
  encryptMethod : Enum .encryptMethod
  heartBtInt : Seconds
  rawDataLength : UInt32
  rawData : S
  resetSeqNumFlag : Bool
  nextExpectedMsgSeqNum : UInt64
  username : S
  password : S

/-- The constructor that `pybind11::init` selects. -/
def construct (string : V → Bytes) (args : Args V) : Logon where
  encryptMethod := args.encryptMethod
  heartBtInt := args.heartBtInt
  rawDataLength := args.rawDataLength
  rawData := string args.rawData
  resetSeqNumFlag := args.resetSeqNumFlag
  nextExpectedMsgSeqNum := args.nextExpectedMsgSeqNum
  username := string args.username
  password := string args.password

end Logon

/-- `roq::codec::fix::Logout`. -/
structure Native.Logout (S : Type) where
  text : S
deriving Functor

/-- The wrapper `Logout`. -/
structure Logout where
  text : Bytes

namespace Logout

/-- The `std::string` members. -/
@[simp]
def texts (self : Logout) : List (Member × Bytes) :=
  [(.field "text_", self.text)]

/-- `explicit Logout(value_type const &value)`. -/
def ofValue (string : V → Bytes) (value : Native.Logout V) : Logout where
  text := string value.text

/-- `operator value_type() const`. -/
@[simp]
def toValue (view : Member → Bytes → V) (self : Logout) : Native.Logout V where
  text := view (.field "text_") self.text

/-- The arguments of the Python constructor of `Logout`. -/
structure Args (S : Type) where
  text : S

/-- The constructor that `pybind11::init` selects. -/
def construct (string : V → Bytes) (args : Args V) : Logout where
  text := string args.text

end Logout

/-- `roq::codec::fix::TestRequest`. -/
structure Native.TestRequest (S : Type) where
  testReqId : S
deriving Functor

/-- The wrapper `TestRequest`. -/
structure TestRequest where
  testReqId : Bytes

namespace TestRequest

/-- The `std::string` members. -/
@[simp]
def texts (self : TestRequest) : List (Member × Bytes) :=
  [(.field "test_req_id_", self.testReqId)]

/-- `explicit TestRequest(value_type const &value)`. -/
def ofValue (string : V → Bytes) (value : Native.TestRequest V) : TestRequest where
  testReqId := string value.testReqId

/-- `operator value_type() const`. -/
@[simp]
def toValue (view : Member → Bytes → V) (self : TestRequest) : Native.TestRequest V where
  testReqId := view (.field "test_req_id_") self.testReqId

/-- The arguments of the Python constructor of `TestRequest`. -/
structure Args (S : Type) where
  testReqId : S

/-- The constructor that `pybind11::init` selects. -/
def construct (string : V → Bytes) (args : Args V) : TestRequest where
  testReqId := string args.testReqId

end TestRequest

/-- `roq::codec::fix::Heartbeat`. -/
structure Native.Heartbeat (S : Type) where
  testReqId : S
deriving Functor

/-- The wrapper `Heartbeat`. -/
structure Heartbeat where
  testReqId : Bytes

namespace Heartbeat

/-- The `std::string` members. -/
@[simp]
def texts (self : Heartbeat) : List (Member × Bytes) :=
  [(.field "test_req_id_", self.testReqId)]

/-- `explicit Heartbeat(value_type const &value)`. -/
def ofValue (string : V → Bytes) (value : Native.Heartbeat V) : Heartbeat where
  testReqId := string value.testReqId

/-- `operator value_type() const`. -/
@[simp]
def toValue (view : Member → Bytes → V) (self : Heartbeat) : Native.Heartbeat V where
  testReqId := view (.field "test_req_id_") self.testReqId

/-- The arguments of the Python constructor of `Heartbeat`. -/
structure Args (S : Type) where
  testReqId : S

/-- The constructor that `pybind11::init` selects. -/
def construct (string : V → Bytes) (args : Args V) : Heartbeat where
  testReqId := string args.testReqId

end Heartbeat

/-- `roq::codec::fix::ResendRequest`. -/
structure Native.ResendRequest (S : Type) where
  beginSeqNo : UInt64
  endSeqNo : UInt64
deriving Functor

/-- The wrapper `ResendRequest`. -/
structure ResendRequest where
  beginSeqNo : UInt64
  endSeqNo : UInt64

namespace ResendRequest

/-- The `std::string` members. -/
@[simp]
def texts (_ : ResendRequest) : List (Member × Bytes) :=
  []

/-- `explicit ResendRequest(value_type const &value)`. -/
def ofValue (value : Native.ResendRequest V) : ResendRequest where
  beginSeqNo := value.beginSeqNo
  endSeqNo := value.endSeqNo

/-- `operator value_type() const`. -/
@[simp]
def toValue (self : ResendRequest) : Native.ResendRequest V where
  beginSeqNo := self.beginSeqNo
  endSeqNo := self.endSeqNo

/-- The arguments of the Python constructor of `ResendRequest`. -/
structure Args (S : Type) where
  beginSeqNo : UInt64
  endSeqNo : UInt64

/-- The constructor that `pybind11::init` selects. -/
def construct (args : Args V) : ResendRequest where
  beginSeqNo := args.beginSeqNo
  endSeqNo := args.endSeqNo

end ResendRequest

/-- `roq::codec::fix::Reject`. -/
structure Native.Reject (S : Type) where
  refSeqNum : UInt64
  text : S
  refTagId : UInt32
  refMsgType : Enum .msgType
  sessionRejectReason : Enum .sessionRejectReason
deriving Functor

/-- The wrapper `Reject`. -/
structure Reject where
  refSeqNum : UInt64
  text : Bytes
  refTagId : UInt32
  refMsgType : Enum .msgType
  sessionRejectReason : Enum .sessionRejectReason

namespace Reject

/-- The `std::string` members. -/
@[simp]
def texts (self : Reject) : List (Member × Bytes) :=
  [(.field "text_", self.text)]

/-- `explicit Reject(value_type const &value)`. -/
def ofValue (string : V → Bytes) (value : Native.Reject V) : Reject where
  refSeqNum := value.refSeqNum
  text := string value.text
  refTagId := value.refTagId
  refMsgType := value.refMsgType
  sessionRejectReason := value.sessionRejectReason

/-- `operator value_type() const`. -/
@[simp]
def toValue (view : Member → Bytes → V) (self : Reject) : Native.Reject V where
  refSeqNum := self.refSeqNum
  text := view (.field "text_") self.text
  refTagId := self.refTagId
  refMsgType := self.refMsgType
  sessionRejectReason := self.sessionRejectReason

/-- The arguments of the Python constructor of `Reject`. -/
structure Args (S : Type) where
  refSeqNum : UInt64
  text : S
  refTagId : UInt32
  refMsgType : Enum .msgType
  sessionRejectReason : Enum .sessionRejectReason

/-- The constructor that `pybind11::init` selects. -/
def construct (string : V → Bytes) (args : Args V) : Reject where
  refSeqNum := args.refSeqNum
  text := string args.text
  refTagId := args.refTagId
  refMsgType := args.refMsgType
  sessionRejectReason := args.sessionRejectReason

end Reject

/-- `roq::codec::fix::BusinessMessageReject`. -/
structure Native.BusinessMessageReject (S : Type) where
  refSeqNum : UInt64
  refMsgType : Enum .msgType
  businessRejectRefId : S
  businessRejectReason : Enum .businessRejectReason
  text : S
deriving Functor

/-- The wrapper `BusinessMessageReject`. -/
structure BusinessMessageReject (V : Type) where
  refSeqNum : UInt64
  refMsgType : Enum .msgType
  businessRejectRefId : Bytes
  businessRejectReason : Enum .businessRejectReason
  text : V

namespace BusinessMessageReject

/-- Change the references that the wrapper holds. -/
def map (f : V → W) (self : BusinessMessageReject V) : BusinessMessageReject W :=
  { self with text := f self.text }

/-- The `std::string` members. -/
@[simp]
def texts (self : BusinessMessageReject V) : List (Member × Bytes) :=
  [(.field "business_reject_ref_id_", self.businessRejectRefId)]

/-- `explicit BusinessMessageReject(value_type const &value)`. -/
def ofValue (string : V → Bytes)
    (value : Native.BusinessMessageReject V) : BusinessMessageReject V where
  refSeqNum := value.refSeqNum
  refMsgType := value.refMsgType
  businessRejectRefId := string value.businessRejectRefId
  businessRejectReason := value.businessRejectReason
  text := value.text

/-- `operator value_type() const`. -/
@[simp]
def toValue (view : Member → Bytes → V) (self : BusinessMessageReject V) :
    Native.BusinessMessageReject V where
  refSeqNum := self.refSeqNum
  refMsgType := self.refMsgType
  businessRejectRefId := view (.field "business_reject_ref_id_") self.businessRejectRefId
  businessRejectReason := self.businessRejectReason
  text := self.text

/-- The arguments of the Python constructor of `BusinessMessageReject`. -/
structure Args (S : Type) where
  refSeqNum : UInt64
  refMsgType : Enum .msgType
  businessRejectRefId : S
  businessRejectReason : Enum .businessRejectReason
  text : S

/-- The constructor that `pybind11::init` selects. -/
def construct (string : V → Bytes) (args : Args V) : BusinessMessageReject V where
  refSeqNum := args.refSeqNum
  refMsgType := args.refMsgType
  businessRejectRefId := string args.businessRejectRefId
  businessRejectReason := args.businessRejectReason
  text := args.text

end BusinessMessageReject

/-- `roq::codec::fix::UserRequest`. -/
structure Native.UserRequest (S : Type) where
  userRequestId : S
  userRequestType : Enum .userRequestType
  username : S
  password : S
  newPassword : S
deriving Functor

/-- The wrapper `UserRequest`. -/
structure UserRequest where
  userRequestId : Bytes
  userRequestType : Enum .userRequestType
  username : Bytes
  password : Bytes
  newPassword : Bytes

namespace UserRequest

/-- The `std::string` members. -/
@[simp]
def texts (self : UserRequest) : List (Member × Bytes) :=
  [(.field "user_request_id_", self.userRequestId), (.field "username_", self.username),
   (.field "password_", self.password), (.field "new_password_", self.newPassword)]

/-- `explicit UserRequest(value_type const &value)`. -/
def ofValue (string : V → Bytes) (value : Native.UserRequest V) : UserRequest where
  userRequestId := string value.userRequestId
  userRequestType := value.userRequestType
  username := string value.username
  password := string value.password
  newPassword := string value.newPassword

/-- `operator value_type() const`. -/
@[simp]
def toValue (view : Member → Bytes → V) (self : UserRequest) : Native.UserRequest V where
  userRequestId := view (.field "user_request_id_") self.userRequestId
  userRequestType := self.userRequestType
  username := view (.field "username_") self.username
  password := view (.field "password_") self.password
  newPassword := view (.field "new_password_") self.newPassword

/-- The arguments of the Python constructor of `UserRequest`. -/
structure Args (S : Type) where
  userRequestId : S
  userRequestType : Enum .userRequestType
  username : S
  password : S
  newPassword : S

/-- The constructor that `pybind11::init` selects. -/
def construct (string : V → Bytes) (args : Args V) : UserRequest where
  userRequestId := string args.userRequestId
  userRequestType := args.userRequestType
  username := string args.username
  password := string args.password
  newPassword := string args.newPassword

end UserRequest

/-- `roq::codec::fix::UserResponse`. -/
structure Native.UserResponse (S : Type) where
  userRequestId : S
  username : S
  userStatus : Enum .userStatus
  userStatusText : S
deriving Functor

/-- The wrapper `UserResponse`. -/
structure UserResponse where
  userRequestId : Bytes
  username : Bytes
  userStatus : Enum .userStatus
  userStatusText : Bytes

namespace UserResponse

/-- The `std::string` members. -/
@[simp]
def texts (self : UserResponse) : List (Member × Bytes) :=
  [(.field "user_request_id_", self.userRequestId), (.field "username_", self.username),
   (.field "user_status_text_", self.userStatusText)]

/-- `explicit UserResponse(value_type const &value)`. -/
def ofValue (string : V → Bytes) (value : Native.UserResponse V) : UserResponse where
  userRequestId := string value.userRequestId
  username := string value.username
  userStatus := value.userStatus
  userStatusText := string value.userStatusText

/-- `operator value_type() const`. -/
@[simp]
def toValue (view : Member → Bytes → V) (self : UserResponse) : Native.UserResponse V where
  userRequestId := view (.field "user_request_id_") self.userRequestId
  username := view (.field "username_") self.username
  userStatus := self.userStatus
  userStatusText := view (.field "user_status_text_") self.userStatusText

/-- The arguments of the Python constructor of `UserResponse`. -/
structure Args (S : Type) where
  userRequestId : S
  username : S
  userStatus : Enum .userStatus
  userStatusText : S

/-- The constructor that `pybind11::init` selects. -/
def construct (string : V → Bytes) (args : Args V) : UserResponse where
  userRequestId := string args.userRequestId
  username := string args.username
  userStatus := args.userStatus
  userStatusText := string args.userStatusText

end UserResponse

end RoqPython.Fix
