import DeviceUplink.Crypto.Ed25519
import DeviceUplink.Crypto.Sealing
import DeviceUplink.Crypto.X25519

/-!
# Cipher suites

The primitives of a session. Sessions use them through a `Suite`, so what holds of a session holds
for all primitives that obey the few laws it needs. `Suite.standard` is the one in use.
-/

namespace DeviceUplink

structure Suite where
  /-- The secret that the owners of a private and a public agreement key share. -/
  agree : (privateKey publicKey : Bytes) → Bytes
  agreementKey : (privateKey : Bytes) → Bytes
  signatureKey : (seed : Bytes) → Bytes
  sign : (seed message : Bytes) → Bytes
  isSignatureKey : Bytes → Bool
  verify : (key message signature : Bytes) → Bool
  digest : Bytes → Bytes
  /-- Appends a tag of 16 octets. -/
  encrypt : (key nonce plain : Bytes) → Bytes
  decrypt : (key nonce sealed : Bytes) → Option Bytes

/-- X25519, Ed25519, SHA-256 and ChaCha20-Poly1305. -/
def Suite.standard : Suite where
  agree := X25519.agree
  agreementKey := X25519.publicKey
  signatureKey := Ed25519.publicKey
  sign := Ed25519.sign
  isSignatureKey := Ed25519.isPublicKey
  verify := Ed25519.verify
  digest := Sha2.sha256
  encrypt := Sealing.encrypt
  decrypt := Sealing.decrypt

end DeviceUplink
