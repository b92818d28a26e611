import RoqPython.Fix.Types

/-!
# UDP Headers

A datagram is a header of fixed size followed by a payload. The header says which message
the payload belongs to only by its place in the sequence: it carries the index of the
fragment and the index of the last fragment of its message.

The decoding of the header is native code, and a parameter here.

## Main definitions

* `Udp.Header`: the fields of `roq::codec::udp::Header`.
* `Udp.Codec`: the size of the header and how it is decoded.
-/

namespace RoqPython.Udp

/-- `roq.codec.udp.Header`. -/
structure Header where
  control : UInt8
  objectType : UInt8
  sessionId : UInt16
  sequenceNumber : ℕ
  fragment : UInt8
  fragmentMax : UInt8
  objectId : UInt16
  lastSequenceNumber : ℕ
deriving DecidableEq, Inhabited

/-- The native functions behind the class: `sizeof` and the constructor. -/
structure Codec where
  sizeof : ℕ
  decode : Bytes → Header

/-! ### The layout of `samples/udp.py` -/

/-- Two and four bytes as a number, the lowest byte first. -/
def uint16 (data : Bytes) : UInt16 :=
  (data.getD 0 0).toUInt16 + 256 * (data.getD 1 0).toUInt16

def uint32 (data : Bytes) : ℕ :=
  (uint16 data).toNat + 65536 * (uint16 (data.drop 2)).toNat

/-- The fields in the order in which the sample lists them. -/
def Codec.sample : Codec where
  sizeof := 16
  decode data :=
    { control := data.getD 0 0
      objectType := data.getD 1 0
      sessionId := uint16 (data.drop 2)
      sequenceNumber := uint32 (data.drop 4)
      fragment := data.getD 8 0
      fragmentMax := data.getD 9 0
      objectId := uint16 (data.drop 10)
      lastSequenceNumber := uint32 (data.drop 12) }

/-- The header of the sample, with other numbers of fragments, and a payload. -/
def Codec.sampleDatagram (fragment fragmentMax : UInt8) (payload : Bytes) : Bytes :=
  [3, 0, 1, 2, 1, 2, 3, 4, fragment, fragmentMax, 1, 2, 1, 2, 3, 4] ++ payload

end RoqPython.Udp
