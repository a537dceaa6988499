import DeviceUplink.Frame.Basic
import DeviceUplink.RemainingLength

/-!
# Decoding of frames

`Frame.scan` looks at the front of a byte string and finds a frame there, a reason why there is
none, or that bytes are missing. A frame with a bad body is as long as a good one, so reading can
go on behind it. A bad or too large length leaves no place to go on from.
-/

namespace DeviceUplink.Frame

/-- Splits a field with a 16-bit length off the front. -/
def takeShortField (bytes : Bytes) : Option (Bytes × Bytes) :=
  match bytes with
  | a :: b :: rest =>
    let length := Bytes.toNat [a, b]
    if rest.length < length then none else some (rest.take length, rest.drop length)
  | _ => none

/-- Splits a field with a 32-bit length off the front. -/
def takeLongField (bytes : Bytes) : Option (Bytes × Bytes) :=
  match bytes with
  | a :: b :: c :: d :: rest =>
    let length := Bytes.toNat [a, b, c, d]
    if rest.length < length then none else some (rest.take length, rest.drop length)
  | _ => none

def connectOfBody (body : Bytes) : Except FrameError Frame :=
  match body with
  | a :: b :: protocolId :: rest =>
    match takeShortField rest with
    | none => .error (.malformed .connect)
    | some (sessionKey, rest) =>
      match takeShortField rest with
      | none => .error (.malformed .connect)
      | some (signature, rest) =>
        match takeLongField rest with
        | some (payload, []) =>
          let keepAlive := (Bytes.toNat [a, b]).toUInt16
          .ok (connect { keepAlive, protocolId, sessionKey, signature, payload })
        | _ => .error (.malformed .connect)
  | _ => .error (.malformed .connect)

/-- An unknown code is reported before octets behind it. -/
def connAckOfBody (body : Bytes) : Except FrameError Frame :=
  match body with
  | [] => .error (.malformed .connAck)
  | byte :: rest =>
    match ReturnCode.ofByte? byte with
    | none => .error (.unknownReturnCode byte)
    | some code => if rest.isEmpty then .ok (connAck code) else .error (.malformed .connAck)

/-- An unknown reason is reported before octets behind it. -/
def disconnectOfBody (body : Bytes) : Except FrameError Frame :=
  match body with
  | [] => .error (.malformed .disconnect)
  | byte :: rest =>
    match DisconnectReason.ofByte? byte with
    | none => .error (.unknownReason byte)
    | some reason =>
      if rest.isEmpty then .ok (disconnect reason) else .error (.malformed .disconnect)

/-- The direction is known only once the whole body is read, and so is its name in an error. -/
def syncOfBody (isResponse : Bool) (body : Bytes) : Except FrameError Frame :=
  match body with
  | [] => .error (.malformed .sync)
  | flags :: rest =>
    if SyncBody.hasKnownFlags { flags, payload := [] } then
      match takeLongField rest with
      | none => .error (.malformed .sync)
      | some (payload, behind) =>
        match isResponse, behind with
        | false, [] => .ok (syncRequest { flags, payload })
        | true, [] => .ok (syncResponse { flags, payload })
        | false, _ => .error (.malformed .syncRequest)
        | true, _ => .error (.malformed .syncResponse)
    else .error (.malformed .sync)

/-- The frame with this header octet and body. Flags are refused before an unknown type is. -/
def ofBody (header : UInt8) (body : Bytes) : Except FrameError Frame :=
  let type := header >>> 4
  let flags := header &&& 0x0F
  if type = 0xF then
    if flags = 0 then syncOfBody false body
    else if flags = 1 then syncOfBody true body
    else .error (.badFlags type flags)
  else if flags ≠ 0 then .error (.badFlags type flags)
  else if type = 0x1 then connectOfBody body
  else if type = 0x2 then connAckOfBody body
  else if type = 0xC then if body.isEmpty then .ok pingReq else .error (.malformed .ping)
  else if type = 0xD then if body.isEmpty then .ok pingResp else .error (.malformed .ping)
  else if type = 0xE then disconnectOfBody body
  else .error (.unknownType type)

inductive Scan
  | incomplete
  /-- A frame of one header octet and `behind` more octets. -/
  | found (frame : Frame) (behind : Nat)
  /-- A complete frame of one header octet and `behind` more octets that breaks the grammar. -/
  | broken (error : FrameError) (behind : Nat)
  /-- The length is bad, so it is not known where the next frame starts. -/
  | stuck (error : FrameError)
deriving DecidableEq

/-- A complete frame, good or broken. -/
def Scan.ofBody (header : UInt8) (body : Bytes) (behind : Nat) : Scan :=
  match Frame.ofBody header body with
  | .ok frame => .found frame behind
  | .error error => .broken error behind

/-- Reads a frame from a buffer of `size` octets that starts with `front`. The length field lies
within the first five octets; `slice at n` is asked for only when the buffer holds it. -/
def scanBuffer (limit : Nat) (front : Bytes) (size : Nat) (slice : Nat → Nat → Bytes) : Scan :=
  match front with
  | [] => .incomplete
  | header :: rest =>
    match RemainingLength.read rest with
    | .incomplete => .incomplete
    | .malformed => .stuck .badLength
    | .value length used =>
      if limit < length then .stuck (.tooLarge length)
      else if size < 1 + used + length then .incomplete
      else .ofBody header (slice (1 + used) length) (used + length)

/-- What stands at the front of a byte string. Bodies larger than `limit` are refused unseen. -/
def scan (limit : Nat) (bytes : Bytes) : Scan :=
  scanBuffer limit (bytes.take 5) bytes.length fun start length =>
    (bytes.drop start).take length

end DeviceUplink.Frame
