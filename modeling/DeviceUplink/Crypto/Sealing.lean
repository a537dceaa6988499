import DeviceUplink.Crypto.ChaCha20
import DeviceUplink.Crypto.Poly1305

/-!
# Sealing

ChaCha20-Poly1305 without associated data. What is opened has to carry the very tag that sealing
would have put there.
-/

namespace DeviceUplink.Sealing

def tagSize : Nat := 16

/-- What the tag of a ciphertext covers: the text, filled up to whole blocks, and its length behind
the length of the associated data. -/
def covered (ciphertext : Bytes) : Bytes :=
  ciphertext ++ List.replicate ((16 - ciphertext.length % 16) % 16) 0
    ++ Bytes.ofNatLE 8 0 ++ Bytes.ofNatLE 8 ciphertext.length

/-- Block zero of the key stream is the key of the tag. -/
def tag (key nonce ciphertext : Bytes) : Bytes :=
  Poly1305.tag ((ChaCha20.block key nonce 0).take 32) (covered ciphertext)

def encrypt (key nonce plain : Bytes) : Bytes :=
  let ciphertext := ChaCha20.apply key nonce 1 plain
  ciphertext ++ tag key nonce ciphertext

def decrypt (key nonce sealed : Bytes) : Option Bytes :=
  if sealed.length < tagSize then none
  else
    let ciphertext := sealed.take (sealed.length - tagSize)
    if sealed.drop (sealed.length - tagSize) = tag key nonce ciphertext then
      some (ChaCha20.apply key nonce 1 ciphertext)
    else none

theorem length_tag (key nonce ciphertext : Bytes) :
    (tag key nonce ciphertext).length = tagSize :=
  Poly1305.length_tag _ _

theorem length_encrypt (key nonce plain : Bytes) :
    (encrypt key nonce plain).length = plain.length + tagSize := by
  simp only [encrypt, List.length_append, ChaCha20.length_apply, length_tag]

end DeviceUplink.Sealing
