import DeviceUplink.Binary64.Basic

/-!
# Shortest decimals

The decimal with the fewest digits that reads back as a binary64 number, and of these the nearest.
-/

namespace DeviceUplink.Binary64

/-- The decimal `0.d₁d₂… * 10 ^ point`. -/
structure Decimal where
  digits : List Char
  point : Int
deriving DecidableEq, Repr

/-- The least power of ten above the number, which is not zero. -/
def scale (b : Binary64) : Int :=
  let (num, den) := b.ratio
  if den ≤ num then (Nat.toDigits 10 (num / den)).length
  else
    match (List.range 400).find? fun j => den ≤ num * Nat.pow 10 j with
    | some j => 1 - (j : Int)
    | none => 0

/-- Does `digits * 10 ^ exponent` round to the number? The ends of the interval of those that do
count if the significand is even, and below a power of two the interval is narrower. -/
def readsBack (b : Binary64) (digits : Nat) (exponent : Int) : Bool :=
  let isNarrow := b.significand == significandBound / 2 && leastExponent < b.exponent
  let low := 4 * b.significand - (if isNarrow then 1 else 2)
  let high := 4 * b.significand + 2
  let quarter : Binary64 := ⟨1, b.exponent - 2⟩
  let given := digits * Nat.pow 10 exponent.toNat * quarter.ratio.2
  let unit := quarter.ratio.1 * Nat.pow 10 (-exponent).toNat
  let isEven := b.significand % 2 == 0
  (low * unit < given || (isEven && low * unit == given))
    && (given < high * unit || (isEven && given == high * unit))

/-- The best multiple of `10 ^ exponent` that reads back, if there is one. -/
def onGrid? (b : Binary64) (exponent : Int) : Option Nat :=
  let num := b.ratio.1 * Nat.pow 10 (-exponent).toNat
  let den := b.ratio.2 * Nat.pow 10 exponent.toNat
  let below := num / den
  let above := below + 1
  match b.readsBack below exponent, b.readsBack above exponent with
  | false, false => none
  | true, false => some below
  | false, true => some above
  | true, true => some (nearest num den)

def decimalOf (digits : Nat) (exponent : Int) : Decimal :=
  let written := Nat.toDigits 10 digits
  { digits := (written.reverse.dropWhile (· == '0')).reverse
    point := written.length + exponent }

def exactDecimal (b : Binary64) : Decimal :=
  decimalOf (b.ratio.1 * Nat.pow 5 (-b.exponent).toNat) (min b.exponent 0)

/-- Tries one digit, then two, and so on; 17 digits are enough. -/
def shortest (b : Binary64) : Decimal :=
  let found := (List.range 17).findSome? fun i =>
    let exponent := b.scale - (i + 1 : Nat)
    (b.onGrid? exponent).map fun digits => decimalOf digits exponent
  found.getD b.exactDecimal

end DeviceUplink.Binary64
