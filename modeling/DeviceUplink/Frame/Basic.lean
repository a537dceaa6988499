import DeviceUplink.Bytes

/-!
# Frames

The seven frames of the sync protocol and the codes that they carry.
-/

namespace DeviceUplink

inductive ReturnCode
  | accepted
  | refuseBadProtocol
  | refuseIdRejected
  | refuseServerUnavailable
  /-- The device identity has to be discarded. -/
  | refuseBadCredentials
  | refuseNoAuth
  | refuseVerificationFailed
deriving DecidableEq, Repr

namespace ReturnCode

def toByte : ReturnCode → UInt8
  | accepted => 1
  | refuseBadProtocol => 2
  | refuseIdRejected => 3
  | refuseServerUnavailable => 4
  | refuseBadCredentials => 5
  | refuseNoAuth => 6
  | refuseVerificationFailed => 7

def ofByte? (byte : UInt8) : Option ReturnCode :=
  match byte.toNat with
  | 1 => some accepted
  | 2 => some refuseBadProtocol
  | 3 => some refuseIdRejected
  | 4 => some refuseServerUnavailable
  | 5 => some refuseBadCredentials
  | 6 => some refuseNoAuth
  | 7 => some refuseVerificationFailed
  | _ => none

def all : List ReturnCode :=
  [accepted, refuseBadProtocol, refuseIdRejected, refuseServerUnavailable, refuseBadCredentials,
    refuseNoAuth, refuseVerificationFailed]

def title : ReturnCode → String
  | accepted => "Accepted"
  | refuseBadProtocol => "RefuseBadProtocol"
  | refuseIdRejected => "RefuseIdRejected"
  | refuseServerUnavailable => "RefuseServerUnavailable"
  | refuseBadCredentials => "RefuseBadCredentials"
  | refuseNoAuth => "RefuseNoAuth"
  | refuseVerificationFailed => "RefuseVerificationFailed"

theorem ofByte?_toByte (code : ReturnCode) : ofByte? code.toByte = some code := by
  cases code <;> rfl

end ReturnCode

inductive DisconnectReason
  /-- The peer ends the session on purpose. -/
  | graceful
  | badRequest
  | internalError
  | credentialsRevoked
deriving DecidableEq, Repr

namespace DisconnectReason

def toByte : DisconnectReason → UInt8
  | graceful => 0
  | badRequest => 1
  | internalError => 2
  | credentialsRevoked => 3

def ofByte? (byte : UInt8) : Option DisconnectReason :=
  match byte.toNat with
  | 0 => some graceful
  | 1 => some badRequest
  | 2 => some internalError
  | 3 => some credentialsRevoked
  | _ => none

def all : List DisconnectReason :=
  [graceful, badRequest, internalError, credentialsRevoked]

def title : DisconnectReason → String
  | graceful => "None"
  | badRequest => "BadRequest"
  | internalError => "InternalError"
  | credentialsRevoked => "CredentialsRevoked"

theorem ofByte?_toByte (reason : DisconnectReason) : ofByte? reason.toByte = some reason := by
  cases reason <;> rfl

end DisconnectReason

/-- The body of a SYNC frame. A frame to be sent may carry any flag octet. -/
structure SyncBody where
  flags : UInt8
  payload : Bytes
deriving DecidableEq, Repr

namespace SyncBody

def zippedBit : UInt8 := 1

def encryptedBit : UInt8 := 2

def plain (payload : Bytes) : SyncBody :=
  { flags := 0, payload }

def encrypted (payload : Bytes) : SyncBody :=
  { flags := encryptedBit, payload }

def isZipped (body : SyncBody) : Bool :=
  body.flags &&& zippedBit != 0

def isEncrypted (body : SyncBody) : Bool :=
  body.flags &&& encryptedBit != 0

/-- Only the two defined flag bits are set. -/
def hasKnownFlags (body : SyncBody) : Bool :=
  body.flags &&& ~~~(zippedBit ||| encryptedBit) == 0

end SyncBody

structure Connect where
  /-- Seconds. -/
  keepAlive : UInt16
  protocolId : UInt8
  sessionKey : Bytes
  signature : Bytes
  payload : Bytes
deriving DecidableEq, Repr

/-- The protocol identifier that a device sends. -/
def platformProtocolId : UInt8 := 1

inductive Frame
  | connect (body : Connect)
  | connAck (code : ReturnCode)
  | syncRequest (body : SyncBody)
  | syncResponse (body : SyncBody)
  | pingReq
  | pingResp
  | disconnect (reason : DisconnectReason)
deriving DecidableEq, Repr

/-- The parts of the grammar that an error about a frame body can name. -/
inductive BodyKind
  | connect
  | connAck
  | sync
  | syncRequest
  | syncResponse
  | ping
  | disconnect
deriving DecidableEq, Repr

def BodyKind.label : BodyKind → String
  | connect => "CONNECT"
  | connAck => "CONNACK"
  | sync => "SYNC"
  | syncRequest => "SYNC-REQUEST"
  | syncResponse => "SYNC-RESPONSE"
  | ping => "PING"
  | disconnect => "DISCONNECT"

/-- Why bytes are not a frame, or a frame has no encoding. -/
inductive FrameError
  | unknownType (type : UInt8)
  | badFlags (type flags : UInt8)
  | badLength
  | tooLarge (size : Nat)
  | unknownReturnCode (byte : UInt8)
  | unknownReason (byte : UInt8)
  | malformed (body : BodyKind)
deriving DecidableEq, Repr

namespace FrameError

def nibbleText (n : UInt8) : String :=
  "0x" ++ String.ofList (Nat.toDigits 16 n.toNat)

def message : FrameError → String
  | unknownType type => "unknown frame type " ++ nibbleText type
  | badFlags type flags =>
    "invalid flags " ++ nibbleText flags ++ " for frame type " ++ nibbleText type
  | badLength => "malformed remaining length"
  | tooLarge size => "size limit exceeded: " ++ toString size
  | unknownReturnCode byte => "unknown return code " ++ toString byte.toNat
  | unknownReason byte => "unknown disconnect reason " ++ toString byte.toNat
  | malformed body => "malformed " ++ body.label ++ " body"

end FrameError

namespace Frame

def name : Frame → String
  | connect _ => "CONNECT"
  | connAck _ => "CONNACK"
  | syncRequest _ => "SYNC-REQUEST"
  | syncResponse _ => "SYNC-RESPONSE"
  | pingReq => "PINGREQ"
  | pingResp => "PINGRESP"
  | disconnect _ => "DISCONNECT"

end Frame

end DeviceUplink
