import DeviceUplink.Bytes

/-!
# The field of the curves

Numbers modulo `2 ^ 255 - 19`. Elements travel as 32 octets, of which reading ignores the highest
bit; a number not below the modulus is read as its remainder.
-/

namespace DeviceUplink

namespace Field25519

def modulus : Nat := Nat.pow 2 255 - 19

instance : @NeZero Nat Zero.ofOfNat0 modulus := ⟨by decide⟩

end Field25519

abbrev Field25519 := Fin Field25519.modulus

namespace Field25519

def ofBytes (bytes : Bytes) : Field25519 :=
  Fin.ofNat modulus (Bytes.toNatLE bytes % Nat.pow 2 255)

def toBytes (x : Field25519) : Bytes :=
  Bytes.ofNatLE 32 x.val

/-- `x ^ n` by squaring. -/
def power (x : Field25519) (n : Nat) : Field25519 :=
  if _h : n = 0 then 1
  else
    let half := power (x * x) (n / 2)
    if n % 2 = 1 then x * half else half
termination_by n

/-- The inverse; zero has zero. -/
def inverse (x : Field25519) : Field25519 :=
  power x (modulus - 2)

def isNegative (x : Field25519) : Bool :=
  x.val % 2 == 1

/-- A square root of minus one. -/
def rootOfMinusOne : Field25519 :=
  power 2 ((modulus - 1) / 4)

/-- A root of `u / v` whose number is even, if there is one. -/
def ratioRoot? (u v : Field25519) : Option Field25519 :=
  let v3 := v * v * v
  let r := u * v3 * power (u * v3 * v3 * v) ((modulus - 5) / 8)
  let check := v * r * r
  let even (x : Field25519) : Field25519 := if isNegative x then 0 - x else x
  if check = u then some (even r)
  else if check = 0 - u then some (even (r * rootOfMinusOne))
  else none

end Field25519

end DeviceUplink
