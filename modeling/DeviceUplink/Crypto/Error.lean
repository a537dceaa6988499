/-!
# Crypto errors
-/

namespace DeviceUplink

/-- Whose public key is meant. -/
inductive KeyOwner
  | destination
  | device
deriving DecidableEq, Repr

namespace KeyOwner

def name : KeyOwner → String
  | destination => "destination"
  | device => "device"

end KeyOwner

inductive CryptoError
  | invalidKey (owner : KeyOwner)
  /-- The public key of the device does not belong to its private key. -/
  | keyMismatch
  | encrypt
  /-- The octets were not sealed under the key. -/
  | decrypt
  | signature
deriving DecidableEq, Repr

namespace CryptoError

def message : CryptoError → String
  | invalidKey owner => "invalid " ++ owner.name ++ " key"
  | keyMismatch => "device public key does not match private key"
  | encrypt => "encryption failed"
  | decrypt => "decryption failed"
  | signature => "signature verification failed"

end CryptoError

end DeviceUplink
