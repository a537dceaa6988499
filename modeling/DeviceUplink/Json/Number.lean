import DeviceUplink.Binary64.Shortest
import DeviceUplink.Text.Numeral

/-!
# JSON numbers

Whole numbers of 64 bits are kept as they are; all others become binary64 numbers. A significand
grows while it has at most 64 bits: digits of the whole part that come later raise the exponent,
and later digits of the fraction are dropped.
-/

namespace DeviceUplink.Json

inductive Number
  | whole (n : Int)
  | real (isNegative : Bool) (magnitude : Binary64)
deriving DecidableEq, Repr

namespace Number

def zeros (n : Nat) : List Char :=
  List.replicate n '0'

/-- Positional from a hundred thousandth up to below ten million billions, scientific elsewhere. -/
def realText (b : Binary64) : List Char :=
  if b.significand = 0 then "0.0".toList
  else
    let ⟨digits, point⟩ := b.shortest
    if 0 < point && point ≤ 16 then
      let before := digits.take point.toNat ++ zeros (point.toNat - digits.length)
      let behind := digits.drop point.toNat
      before ++ '.' :: (if behind.isEmpty then ['0'] else behind)
    else if -5 < point && point ≤ 0 then
      '0' :: '.' :: zeros (-point).toNat ++ digits
    else
      let behind := digits.drop 1
      digits.take 1 ++ (if behind.isEmpty then [] else '.' :: behind)
        ++ 'e' :: (toString (point - 1)).toList

def text : Number → List Char
  | whole n => (toString n).toList
  | real isNegative b => (if isNegative then ['-'] else []) ++ realText b

/-- A number as far as it has been read. -/
structure Draft where
  significand : Nat
  exponent : Int
  /-- It has neither fraction nor exponent, and all its digits are in the significand. -/
  isWhole : Bool

def isDigit (c : Char) : Bool :=
  (Numeral.digitValue? c).isSome

/-- Takes in digits while the significand fits, and counts them. -/
def takeDigits (significand count : Nat) : List Char → Nat × Nat × List Char
  | [] => (significand, count, [])
  | c :: rest =>
    match Numeral.digitValue? c with
    | none => (significand, count, c :: rest)
    | some d =>
      if significand * 10 + d ≤ Numeral.max64 then
        takeDigits (significand * 10 + d) (count + 1) rest
      else (significand, count, c :: rest)

def startsWithDigit (cs : List Char) : Bool :=
  cs.head?.any isDigit

/-- The part before the point, which starts with zero only if it is zero. -/
def readWhole? : List Char → Option (Draft × List Char)
  | '0' :: rest => if startsWithDigit rest then none else some (⟨0, 0, true⟩, rest)
  | cs =>
    if startsWithDigit cs then
      let (significand, _, rest) := takeDigits 0 0 cs
      let extra := (rest.takeWhile isDigit).length
      some (⟨significand, extra, extra == 0⟩, rest.drop extra)
    else none

def readFraction? (d : Draft) : List Char → Option (Draft × List Char)
  | '.' :: cs =>
    if startsWithDigit cs then
      let (significand, count, rest) := takeDigits d.significand 0 cs
      some (⟨significand, d.exponent - count, false⟩, rest.dropWhile isDigit)
    else none
  | cs => some (d, cs)

/-- The sign of an exponent, as whether it is negative. -/
def readSign : List Char → Bool × List Char
  | '-' :: rest => (true, rest)
  | '+' :: rest => (false, rest)
  | cs => (false, cs)

def readExponent? (d : Draft) (cs : List Char) : Option (Draft × List Char) :=
  match cs with
  | 'e' :: rest | 'E' :: rest =>
    let (isNegative, rest) := readSign rest
    if startsWithDigit rest then
      let digits := rest.takeWhile isDigit
      let n : Nat := digits.foldl (fun n c => n * 10 + (Numeral.digitValue? c).getD 0) 0
      let exponent := if isNegative then d.exponent - n else d.exponent + n
      some (⟨d.significand, exponent, false⟩, rest.drop digits.length)
    else none
  | _ => some (d, cs)

def greatestPower : Nat := 308

def powerOfTen (n : Nat) : Option Binary64 :=
  Binary64.ofRatio (Nat.pow 10 n) 1

/-- Multiplies or divides by a power of ten, each of which is rounded; a division by more than the
greatest power is done in two steps. -/
def Draft.magnitude? (d : Draft) : Option Binary64 := do
  let base ← Binary64.ofRatio d.significand 1
  if d.significand = 0 then return base
  else if 0 ≤ d.exponent then
    if d.exponent ≤ greatestPower then base.mul (← powerOfTen d.exponent.toNat) else none
  else
    let down := (-d.exponent).toNat
    if down ≤ greatestPower then base.div (← powerOfTen down)
    else if down ≤ 2 * greatestPower then
      let lowered ← base.div (← powerOfTen greatestPower)
      lowered.div (← powerOfTen (down - greatestPower))
    else return .zero

/-- Zero with a minus sign is no whole number. -/
def Draft.number? (d : Draft) (isNegative : Bool) : Option Number :=
  if d.isWhole && !isNegative then some (whole d.significand)
  else if d.isWhole && 0 < d.significand && d.significand ≤ Nat.pow 2 63 then
    some (whole (-d.significand))
  else d.magnitude?.map (real isNegative)

/-- The number at the front of a text, with what follows it. -/
def read? (cs : List Char) : Option (Number × List Char) := do
  let (isNegative, cs) := match cs with
    | '-' :: rest => (true, rest)
    | _ => (false, cs)
  let (d, cs) ← readWhole? cs
  let (d, cs) ← readFraction? d cs
  let (d, cs) ← readExponent? d cs
  return (← d.number? isNegative, cs)

end Number

end DeviceUplink.Json
