import DeviceUplink.Bytes
import DeviceUplink.Text.Quoted

/-!
# Hexadecimal text

Two digits an octet. Writing uses lower case; reading takes both cases and looks at the octets of
the text, so a digit outside ASCII is reported by its first octet.
-/

namespace DeviceUplink.Hex

inductive Error
  | oddLength
  /-- The octet at this position is not a digit. -/
  | badDigit (octet : UInt8) (position : Nat)
deriving DecidableEq

def Error.message : Error → String
  | oddLength => "Odd number of digits"
  | badDigit octet position =>
    "Invalid character " ++ Text.quotedChar (Char.ofNat octet.toNat) ++ " at position "
      ++ toString position

def digit (n : Nat) : Char :=
  if n < 10 then Char.ofNat (48 + n) else Char.ofNat (87 + n)

def encode (bytes : Bytes) : String :=
  String.ofList (bytes.flatMap fun b => [digit (b.toNat / 16), digit (b.toNat % 16)])

def digitValue? (octet : UInt8) : Option Nat :=
  let n := octet.toNat
  if 48 ≤ n && n ≤ 57 then some (n - 48)
  else if 65 ≤ n && n ≤ 70 then some (n - 55)
  else if 97 ≤ n && n ≤ 102 then some (n - 87)
  else none

/-- Reads pairs of digits; the pair at the front stands at `position`. -/
def decodeOctets (position : Nat) : Bytes → Except Error Bytes
  | [] => .ok []
  | [_] => .error .oddLength
  | high :: low :: rest =>
    match digitValue? high, digitValue? low with
    | none, _ => .error (.badDigit high position)
    | some _, none => .error (.badDigit low (position + 1))
    | some h, some l => (decodeOctets (position + 2) rest).map ((h * 16 + l).toUInt8 :: ·)

/-- An odd number of digits is refused before any digit is looked at. -/
def decode (text : String) : Except Error Bytes :=
  let octets := text.toUTF8.toList
  if octets.length % 2 = 1 then .error .oddLength else decodeOctets 0 octets

end DeviceUplink.Hex
