import DeviceUplink.Bytes

/-!
# Poly1305

The one-time authenticator: a polynomial whose coefficients are the blocks of the message,
evaluated modulo a prime near `2 ^ 130`.
-/

namespace DeviceUplink.Poly1305

def prime : Nat := Nat.pow 2 130 - 5

/-- The point of evaluation, with the bits cleared that have to be. -/
def clamp (r : Nat) : Nat :=
  r &&& 0x0ffffffc0ffffffc0ffffffc0fffffff

/-- A block as a number, with a one bit behind its octets. -/
def coefficient (block : Bytes) : Nat :=
  Bytes.toNatLE block + Nat.pow 256 block.length

def evaluate (r : Nat) (message : Bytes) : Nat :=
  (Bytes.chunks 16 message).foldl (fun sum block => (sum + coefficient block) * r % prime) 0

/-- The tag under a key of 32 octets. -/
def tag (key message : Bytes) : Bytes :=
  let r := clamp (Bytes.toNatLE (key.take 16))
  let s := Bytes.toNatLE (key.drop 16)
  Bytes.ofNatLE 16 (evaluate r message + s)

theorem length_tag (key message : Bytes) : (tag key message).length = 16 :=
  Bytes.length_ofNatLE 16 _

end DeviceUplink.Poly1305
