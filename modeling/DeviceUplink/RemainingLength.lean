import DeviceUplink.Bytes

/-!
# Remaining length

The length field of a frame: groups of seven bits, the least significant first. The high bit of
an octet says that another group follows. A field has at most four octets.
-/

namespace DeviceUplink.RemainingLength

/-- The largest number that four groups of seven bits express. -/
def maxValue : Nat := 268435455

/-- The shortest form of `n`. A number above `maxValue` gets more octets than a reader takes. -/
def encode (n : Nat) : Bytes :=
  if n < 128 then [n.toUInt8] else (n % 128 + 128).toUInt8 :: encode (n / 128)
termination_by n

/-- Appends the shortest form of `n` to what a buffer holds, octet by octet. -/
def put (buffer : Bytes) (n : Nat) : Bytes :=
  let group := (n % 128).toUInt8
  if n / 128 = 0 then buffer ++ [group] else put (buffer ++ [group ||| 0x80]) (n / 128)
termination_by n

inductive Reading
  /-- The number read and the count of octets that hold it. -/
  | value (n used : Nat)
  | incomplete
  | malformed
deriving DecidableEq

/-- Reads at most `room` further groups. Once the room is used up, no octet can mend the field. -/
def readGroups : (room : Nat) → Bytes → Reading
  | 0, _ => .malformed
  | _ + 1, [] => .incomplete
  | room + 1, byte :: rest =>
    if byte.toNat < 128 then .value byte.toNat 1
    else match readGroups room rest with
      | .value n used => .value (byte.toNat - 128 + 128 * n) (used + 1)
      | .incomplete => .incomplete
      | .malformed => .malformed

def read (bytes : Bytes) : Reading :=
  readGroups 4 bytes

end DeviceUplink.RemainingLength
