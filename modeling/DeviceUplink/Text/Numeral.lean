/-!
# Decimal numerals

Bounded whole numbers as settings write them: an optional plus sign and at least one digit,
leading zeros allowed.
-/

namespace DeviceUplink.Numeral

inductive Error
  | empty
  | badDigit
  | tooLarge
deriving DecidableEq

def Error.message : Error → String
  | empty => "cannot parse integer from empty string"
  | badDigit => "invalid digit found in string"
  | tooLarge => "number too large to fit in target type"

def digitValue? (c : Char) : Option Nat :=
  if '0' ≤ c && c ≤ '9' then some (c.toNat - 48) else none

/-- Reads digits behind those that make up `value`. The first fault from the left is reported. -/
def readDigits (largest : Nat) (value : Nat) : List Char → Except Error Nat
  | [] => .ok value
  | c :: rest =>
    match digitValue? c with
    | none => .error .badDigit
    | some d =>
      if largest < value * 10 + d then .error .tooLarge
      else readDigits largest (value * 10 + d) rest

/-- The number at most `largest` that the text denotes. -/
def parse (largest : Nat) (text : List Char) : Except Error Nat :=
  match text with
  | [] => .error .empty
  | ['+'] => .error .badDigit
  | '+' :: digits => readDigits largest 0 digits
  | digits => readDigits largest 0 digits

/-- As `parse`, but zero may have a minus sign as well. -/
def parseSigned (largest : Nat) : List Char → Except Error Nat
  | ['-'] => .error .badDigit
  | '-' :: digits => readDigits 0 0 digits
  | text => parse largest text

def max16 : Nat := 65535

def max32 : Nat := 4294967295

def max64 : Nat := 18446744073709551615

end DeviceUplink.Numeral
