import DeviceUplink.Crypto.Field25519
import DeviceUplink.Crypto.Sha2

/-!
# Ed25519

Signatures on the twisted Edwards curve. A public key may be any octets that denote a point, also
one of small order or one written with a number above the modulus; the second half of a signature
has to be below the group order.
-/

namespace DeviceUplink.Ed25519

/-- The order of the base point. -/
def order : Nat := Nat.pow 2 252 + 27742317777372353535851937790883648493

def coefficient : Field25519 :=
  0 - 121665 * Field25519.inverse 121666

/-- A point `(x / z, y / z)` with `t = x * y / z`. -/
structure Point where
  x : Field25519
  y : Field25519
  z : Field25519
  t : Field25519

namespace Point

def neutral : Point :=
  { x := 0, y := 1, z := 1, t := 0 }

def neg (p : Point) : Point :=
  { p with x := 0 - p.x, t := 0 - p.t }

/-- The sum, with no exceptional cases. `d2` is twice the coefficient of the curve. -/
def add (d2 : Field25519) (p q : Point) : Point :=
  let a := (p.y - p.x) * (q.y - q.x)
  let b := (p.y + p.x) * (q.y + q.x)
  let c := p.t * d2 * q.t
  let d := 2 * p.z * q.z
  let e := b - a
  let f := d - c
  let g := d + c
  let h := b + a
  { x := e * f, y := g * h, z := f * g, t := e * h }

/-- Takes in the lowest `count` bits of `n`, the highest first. -/
def multiplyFrom (d2 : Field25519) (p : Point) (n : Nat) : (count : Nat) → Point → Point
  | 0, sum => sum
  | count + 1, sum =>
    let doubled := add d2 sum sum
    multiplyFrom d2 p n count (if n.testBit count then add d2 doubled p else doubled)

/-- `n` times a point, for `n` below `2 ^ 256`. -/
def multiply (n : Nat) (p : Point) : Point :=
  multiplyFrom (2 * coefficient) p n 256 neutral

def plus (p q : Point) : Point :=
  add (2 * coefficient) p q

/-- The second coordinate, with the sign of the first in the highest bit. -/
def toBytes (p : Point) : Bytes :=
  let zInverse := Field25519.inverse p.z
  let x := p.x * zInverse
  let y := p.y * zInverse
  Bytes.ofNatLE 32 (y.val + if Field25519.isNegative x then Nat.pow 2 255 else 0)

/-- The point that 32 octets denote, if there is one. -/
def ofBytes? (bytes : Bytes) : Option Point :=
  let y := Field25519.ofBytes bytes
  let yy := y * y
  match Field25519.ratioRoot? (yy - 1) (coefficient * yy + 1) with
  | none => none
  | some root =>
    let x := if Nat.pow 2 255 ≤ Bytes.toNatLE bytes then 0 - root else root
    some { x, y, z := 1, t := x * y }

/-- The point with second coordinate 4/5 and an even first one. -/
def base : Point :=
  let y := 4 * Field25519.inverse 5
  let yy := y * y
  let x := (Field25519.ratioRoot? (yy - 1) (coefficient * yy + 1)).getD 0
  { x, y, z := 1, t := x * y }

end Point

/-- A secret exponent: a multiple of eight with bit 254 as its highest. -/
def exponent (hash : Bytes) : Nat :=
  let n := Bytes.toNatLE (hash.take 32) % Nat.pow 2 255
  (n - n % 8) % Nat.pow 2 254 + Nat.pow 2 254

def publicKey (seed : Bytes) : Bytes :=
  (Point.multiply (exponent (Sha2.sha512 seed)) Point.base).toBytes

def hashedScalar (message : Bytes) : Nat :=
  Bytes.toNatLE (Sha2.sha512 message) % order

def sign (seed message : Bytes) : Bytes :=
  let hash := Sha2.sha512 seed
  let a := exponent hash
  let r := hashedScalar (hash.drop 32 ++ message)
  let commitment := (Point.multiply r Point.base).toBytes
  let k := hashedScalar (commitment ++ publicKey seed ++ message)
  commitment ++ Bytes.ofNatLE 32 ((r + k * a) % order)

def isPublicKey (bytes : Bytes) : Bool :=
  (Point.ofBytes? bytes).isSome

/-- The first half of a signature has to be the very octets that verification computes. -/
def verify (key message signature : Bytes) : Bool :=
  match Point.ofBytes? key with
  | none => false
  | some a =>
    let s := Bytes.toNatLE (signature.drop 32)
    if signature.length = 64 ∧ s < order then
      let k := hashedScalar (signature.take 32 ++ key ++ message)
      let commitment := (Point.multiply s Point.base).plus (Point.multiply k a.neg)
      commitment.toBytes == signature.take 32
    else false

theorem length_sign (seed message : Bytes) : (sign seed message).length = 64 := by
  simp only [sign, Point.toBytes, List.length_append, Bytes.length_ofNatLE]

end DeviceUplink.Ed25519
