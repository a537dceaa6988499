/-!
# Binary64 numbers

The finite binary64 numbers that are not negative, with rounding to the nearest in exact arithmetic.
-/

namespace DeviceUplink

/-- The number `significand * 2 ^ exponent`. -/
structure Binary64 where
  significand : Nat
  exponent : Int
deriving DecidableEq, Repr

namespace Binary64

def leastExponent : Int := -1074

def greatestExponent : Int := 971

/-- Significands have 53 bits, unless the exponent is least. -/
def significandBound : Nat := Nat.pow 2 53

def zero : Binary64 := ⟨0, leastExponent⟩

def ratio (b : Binary64) : Nat × Nat :=
  (b.significand * Nat.pow 2 b.exponent.toNat, Nat.pow 2 (-b.exponent).toNat)

/-- The whole number nearest to `num / den`, of two equally near ones the even one. -/
def nearest (num den : Nat) : Nat :=
  let quotient := num / den
  let doubled := 2 * (num % den)
  if den < doubled || (den == doubled && quotient % 2 == 1) then quotient + 1 else quotient

/-- Numerator and denominator of `num / den / 2 ^ exponent`. -/
def scaled (num den : Nat) (exponent : Int) : Nat × Nat :=
  (num * Nat.pow 2 (-exponent).toNat, den * Nat.pow 2 exponent.toNat)

/-- The number whose significand this is once it has been rounded, unless that is too large. -/
def ofRounded (significand : Nat) (exponent : Int) : Option Binary64 :=
  let b : Binary64 :=
    if significand = significandBound then ⟨significand / 2, exponent + 1⟩
    else ⟨significand, exponent⟩
  if greatestExponent < b.exponent then none else some b

/-- The number nearest to `num / den`, unless that is too large. -/
def ofRatio (num den : Nat) : Option Binary64 :=
  if num = 0 then some zero
  else
    let guess := (Nat.log2 num : Int) - Nat.log2 den - 53
    let (n, d) := scaled num den guess
    let fitting := if n / d < significandBound then guess else guess + 1
    let exponent := max fitting leastExponent
    let (n, d) := scaled num den exponent
    ofRounded (nearest n d) exponent

def mul (a b : Binary64) : Option Binary64 :=
  ofRatio (a.ratio.1 * b.ratio.1) (a.ratio.2 * b.ratio.2)

def div (a b : Binary64) : Option Binary64 :=
  ofRatio (a.ratio.1 * b.ratio.2) (a.ratio.2 * b.ratio.1)

end Binary64

end DeviceUplink
