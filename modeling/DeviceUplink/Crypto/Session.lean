import DeviceUplink.Crypto.Error
import DeviceUplink.Crypto.Suite

/-!
# Crypto sessions

A device makes a fresh key for each session and hands it over wrapped for one destination and
signed; both sides then seal payloads under it. Whatever is random is an argument.

A sealed payload is a nonce and the ciphertext. A wrapped key is an ephemeral public key followed by
the session key, sealed under a digest of what the ephemeral and the destination key agree on.
-/

namespace DeviceUplink

/-- A text that is sealed starts with its nonce. -/
def nonceSize : Nat := 12

def sessionKeySize : Nat := 32

def agreementKeySize : Nat := 32

def wrappedKeySize : Nat := agreementKeySize + nonceSize + sessionKeySize + Sealing.tagSize

namespace Suite

def sealWith (suite : Suite) (key nonce plain : Bytes) : Bytes :=
  nonce ++ suite.encrypt key nonce plain

def openWith (suite : Suite) (key sealed : Bytes) : Except CryptoError Bytes :=
  if sealed.length < nonceSize + Sealing.tagSize then .error .decrypt
  else
    match suite.decrypt key (sealed.take nonceSize) (sealed.drop nonceSize) with
    | some plain => .ok plain
    | none => .error .decrypt

/-- The octets of "uplink session key wrap v1". -/
def wrapLabel : Bytes :=
  "uplink session key wrap v1".toUTF8.toList

def wrappingKey (suite : Suite) (shared ephemeral destination : Bytes) : Bytes :=
  suite.digest (wrapLabel ++ shared ++ ephemeral ++ destination)

end Suite

/-- The device's side of a session. -/
structure CryptoSession where
  key : Bytes
  destination : Bytes
  seed : Bytes
deriving DecidableEq

namespace CryptoSession

/-- A session under `key`. The destination's key is looked at before the device's keys. -/
def new (suite : Suite) (destination privateKey publicKey key : Bytes) :
    Except CryptoError CryptoSession :=
  if destination.length ≠ agreementKeySize then .error (.invalidKey .destination)
  else if suite.signatureKey privateKey ≠ publicKey then .error .keyMismatch
  else .ok { key, destination, seed := privateKey }

/-- The session key in a form that only the destination can open. -/
def wrapKey (suite : Suite) (s : CryptoSession) (ephemeral nonce : Bytes) : Bytes :=
  let ephemeralKey := suite.agreementKey ephemeral
  let shared := suite.agree ephemeral s.destination
  ephemeralKey
    ++ suite.sealWith (suite.wrappingKey shared ephemeralKey s.destination) nonce s.key

def sign (suite : Suite) (s : CryptoSession) (message : Bytes) : Bytes :=
  suite.sign s.seed message

def encrypt (suite : Suite) (s : CryptoSession) (nonce plain : Bytes) : Bytes :=
  suite.sealWith s.key nonce plain

def decrypt (suite : Suite) (s : CryptoSession) (sealed : Bytes) : Except CryptoError Bytes :=
  suite.openWith s.key sealed

/-- What logs show: the first octets of the destination, and no secret. -/
def text (s : CryptoSession) : String :=
  "CryptoSession \x7b destination: ["
    ++ ", ".intercalate ((s.destination.take 4).map fun b => toString b.toNat) ++ "], .. \x7d"

end CryptoSession

/-- The server's side of a session. -/
structure PeerSession where
  key : Bytes
deriving DecidableEq

namespace PeerSession

/-- Takes over the session key that a device has wrapped and signed. The signature is verified
before the wrapped key is looked at. -/
def accept (suite : Suite) (serverSecret wrapped signature deviceKey : Bytes) :
    Except CryptoError PeerSession :=
  if suite.isSignatureKey deviceKey then
    if suite.verify deviceKey wrapped signature then
      if wrapped.length = wrappedKeySize then
        let ephemeralKey := wrapped.take agreementKeySize
        let shared := suite.agree serverSecret ephemeralKey
        let wrapping := suite.wrappingKey shared ephemeralKey (suite.agreementKey serverSecret)
        (suite.openWith wrapping (wrapped.drop agreementKeySize)).map fun key => { key }
      else .error .decrypt
    else .error .signature
  else .error (.invalidKey .device)

def encrypt (suite : Suite) (s : PeerSession) (nonce plain : Bytes) : Bytes :=
  suite.sealWith s.key nonce plain

def decrypt (suite : Suite) (s : PeerSession) (sealed : Bytes) : Except CryptoError Bytes :=
  suite.openWith s.key sealed

end PeerSession

end DeviceUplink
