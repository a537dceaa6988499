import DeviceUplink.Frame.Basic
import DeviceUplink.RemainingLength

/-!
# Encoding of frames

A frame is a header octet, the length of its body, and the body. The high nibble of the header is
the type; the low nibble is zero, except that it is one on a SYNC frame sent by a server.
-/

namespace DeviceUplink.Frame

def header : Frame → UInt8
  | connect _ => 0x10
  | connAck _ => 0x20
  | pingReq => 0xC0
  | pingResp => 0xD0
  | disconnect _ => 0xE0
  | syncRequest _ => 0xF0
  | syncResponse _ => 0xF1

/-- A field whose length is written as a 16-bit number. -/
def shortField (field : Bytes) : Bytes :=
  Bytes.ofWord16 field.length ++ field

/-- A field whose length is written as a 32-bit number. -/
def longField (field : Bytes) : Bytes :=
  Bytes.ofWord32 field.length ++ field

def body : Frame → Bytes
  | connect c =>
    Bytes.ofWord16 c.keepAlive.toNat ++ c.protocolId :: shortField c.sessionKey
      ++ shortField c.signature ++ longField c.payload
  | connAck code => [code.toByte]
  | disconnect reason => [reason.toByte]
  | pingReq | pingResp => []
  | syncRequest s | syncResponse s => s.flags :: longField s.payload

def bodyLength : Frame → Nat
  | connect c => 11 + c.sessionKey.length + c.signature.length + c.payload.length
  | connAck _ | disconnect _ => 1
  | pingReq | pingResp => 0
  | syncRequest s | syncResponse s => 5 + s.payload.length

theorem length_body (f : Frame) : f.body.length = f.bodyLength := by
  cases f <;> simp [body, bodyLength, shortField, longField, Bytes.ofWord16, Bytes.ofWord32] <;>
    omega

/-- The fields with a 16-bit length are no longer than such a length can say. -/
def shortFieldsFit : Frame → Bool
  | connect c => c.sessionKey.length ≤ 65535 && c.signature.length ≤ 65535
  | _ => true

/-- The size of the body is checked before its fields. -/
def encode (f : Frame) : Except FrameError Bytes :=
  if f.bodyLength > RemainingLength.maxValue then .error (.tooLarge f.bodyLength)
  else if f.shortFieldsFit then
    .ok (f.header :: RemainingLength.encode f.bodyLength ++ f.body)
  else .error (.malformed .connect)

end DeviceUplink.Frame
