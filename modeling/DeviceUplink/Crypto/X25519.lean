import DeviceUplink.Crypto.Field25519

/-!
# X25519

Key agreement on the Montgomery curve, by its ladder over the bits of the secret.
-/

namespace DeviceUplink.X25519

/-- A secret as a number: a multiple of eight with bit 254 as its highest. -/
def scalar (secret : Bytes) : Nat :=
  let n := Bytes.toNatLE secret % Nat.pow 2 255
  (n - n % 8) % Nat.pow 2 254 + Nat.pow 2 254

/-- Two neighbouring multiples of a point, without their second coordinates. -/
structure Rungs where
  x2 : Field25519
  z2 : Field25519
  x3 : Field25519
  z3 : Field25519

namespace Rungs

def swap (r : Rungs) : Rungs :=
  { x2 := r.x3, z2 := r.z3, x3 := r.x2, z3 := r.z2 }

/-- Doubles the first multiple and adds it to the second; `x1` is the point itself. -/
def climb (x1 : Field25519) (r : Rungs) : Rungs :=
  let a := r.x2 + r.z2
  let aa := a * a
  let b := r.x2 - r.z2
  let bb := b * b
  let e := aa - bb
  let da := (r.x3 - r.z3) * a
  let cb := (r.x3 + r.z3) * b
  { x2 := aa * bb
    z2 := e * (aa + 121665 * e)
    x3 := (da + cb) * (da + cb)
    z3 := x1 * ((da - cb) * (da - cb)) }

end Rungs

/-- Takes in the lowest `count` bits of `n`, the highest first. -/
def ladder (x1 : Field25519) (n : Nat) : (count : Nat) → Rungs → Rungs
  | 0, r => r
  | count + 1, r =>
    let next := if n.testBit count then (r.swap.climb x1).swap else r.climb x1
    ladder x1 n count next

/-- The secret shared with the owner of a public key. -/
def agree (secret point : Bytes) : Bytes :=
  let x1 := Field25519.ofBytes point
  let last := ladder x1 (scalar secret) 255 { x2 := 1, z2 := 0, x3 := x1, z3 := 1 }
  Field25519.toBytes (last.x2 * Field25519.inverse last.z2)

def basePoint : Bytes :=
  Bytes.ofNatLE 32 9

def publicKey (secret : Bytes) : Bytes :=
  agree secret basePoint

theorem length_agree (secret point : Bytes) : (agree secret point).length = 32 :=
  Bytes.length_ofNatLE 32 _

end DeviceUplink.X25519
