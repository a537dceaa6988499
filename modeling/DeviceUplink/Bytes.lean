/-!
# Byte strings

Byte strings are lists of octets. Numbers in frames are big-endian; the numbers of the
cryptographic primitives are little-endian.
-/

namespace DeviceUplink

abbrev Bytes := List UInt8

namespace Bytes

def ofWord16 (n : Nat) : Bytes :=
  [(n / 256).toUInt8, n.toUInt8]

def ofWord32 (n : Nat) : Bytes :=
  [(n / 16777216).toUInt8, (n / 65536).toUInt8, (n / 256).toUInt8, n.toUInt8]

def toNat (bytes : Bytes) : Nat :=
  bytes.foldl (fun value byte => value * 256 + byte.toNat) 0

/-- The low `count` octets of a number, the lowest first. -/
def ofNatLE : (count : Nat) → (n : Nat) → Bytes
  | 0, _ => []
  | count + 1, n => n.toUInt8 :: ofNatLE count (n / 256)

def toNatLE : Bytes → Nat
  | [] => 0
  | byte :: rest => byte.toNat + 256 * toNatLE rest

/-- The low `count` octets of a number, the highest first. -/
def ofNatBE (count n : Nat) : Bytes :=
  (ofNatLE count n).reverse

/-- Groups of `size` octets; the last may be shorter. -/
def chunks (size : Nat) (bytes : Bytes) : List Bytes :=
  if _h : size = 0 ∨ bytes = [] then []
  else bytes.take size :: chunks size (bytes.drop size)
termination_by bytes.length
decreasing_by
  have : bytes.length ≠ 0 := fun h0 => _h (.inr (List.eq_nil_of_length_eq_zero h0))
  simp only [List.length_drop]
  omega

theorem length_ofNatLE (count n : Nat) : (ofNatLE count n).length = count := by
  induction count generalizing n with
  | zero => rfl
  | succ count ih => simp [ofNatLE, ih]

end Bytes

end DeviceUplink
