import DeviceUplink.Duration
import DeviceUplink.Text.Blank
import DeviceUplink.Text.Numeral
import DeviceUplink.Text.Quoted

/-!
# Notation of durations

Durations as people write them: numbers with units, such as `1h 30m` or `1.5s`. A month is 30.44
days and a year 365.25 days. Reading goes through the text once, a character at a time.
-/

namespace DeviceUplink.Duration

inductive TimeUnit
  | nanosecond
  | microsecond
  | millisecond
  | second
  | minute
  | hour
  | day
  | week
  | month
  | year
deriving DecidableEq, Repr

namespace TimeUnit

def ofName? : String → Option TimeUnit
  | "nanos" | "nsec" | "ns" => some nanosecond
  | "usec" | "us" | "µs" => some microsecond
  | "millis" | "msec" | "ms" => some millisecond
  | "seconds" | "second" | "secs" | "sec" | "s" => some second
  | "minutes" | "minute" | "min" | "mins" | "m" => some minute
  | "hours" | "hour" | "hr" | "hrs" | "h" => some hour
  | "days" | "day" | "d" => some day
  | "weeks" | "week" | "wk" | "wks" | "w" => some week
  | "months" | "month" | "M" => some month
  | "years" | "year" | "yr" | "yrs" | "y" => some year
  | _ => none

/-- The seconds in one unit, or the nanoseconds if it is shorter than a second. -/
def wholeScale : TimeUnit → Nat × Nat
  | nanosecond => (0, 1)
  | microsecond => (0, 1000)
  | millisecond => (0, 1000000)
  | second => (1, 0)
  | minute => (60, 0)
  | hour => (3600, 0)
  | day => (86400, 0)
  | week => (604800, 0)
  | month => (2630016, 0)
  | year => (31557600, 0)

/-- As `wholeScale`, for the part behind the point: from the hour on it must come to whole
seconds, and below that to whole nanoseconds. -/
def fractionScale : TimeUnit → Option (Nat × Nat)
  | nanosecond => none
  | second => some (0, 1000000000)
  | minute => some (0, 60000000000)
  | unit => some unit.wholeScale

end TimeUnit

inductive NotationError
  | invalidCharacter (offset : Nat)
  | numberExpected (offset : Nat)
  | unknownUnit (unit : String) (value : Nat)
  | overflow
  | empty
deriving DecidableEq

def NotationError.message : NotationError → String
  | invalidCharacter offset => "invalid character at " ++ toString offset
  | numberExpected offset => "expected number at " ++ toString offset
  | unknownUnit unit value =>
    if unit = "" then
      "time unit needed, for example " ++ toString value ++ "sec or " ++ toString value ++ "ms"
    else
      "unknown time unit " ++ Text.quoted unit ++ ", supported units: ns, us/µs, ms, sec, min, "
        ++ "hours, days, weeks, months, years (and few variations)"
  | overflow =>
    "number is too large or cannot be represented without a lack of precision "
      ++ "(values below 1ns are not supported)"
  | empty => "value was empty"

def maxNumber : Nat := 18446744073709551615

def boundedNumber (n : Nat) : Except NotationError Nat :=
  if maxNumber < n then .error .overflow else .ok n

structure Fraction where
  numerator : Nat := 0
  denominator : Nat := 1
deriving DecidableEq

/-- `n * scale * fraction`, which has to be whole. -/
def Fraction.scaled (f : Fraction) (scale : Nat) : Except NotationError Nat :=
  match boundedNumber (f.numerator * scale) with
  | .error e => .error e
  | .ok n => if n % f.denominator = 0 then .ok (n / f.denominator) else .error .overflow

def plus (total : Duration) (seconds nanoseconds : Nat) : Except NotationError Duration :=
  if maxNumber < total.subseconds + nanoseconds then .error .overflow
  else
    let sum := total.nanoseconds + (ofParts seconds nanoseconds).nanoseconds
    if longest.nanoseconds < sum then .error .overflow else .ok ⟨sum⟩

def plusWhole (total : Duration) (n : Nat) (unit : TimeUnit) : Except NotationError Duration :=
  match boundedNumber (n * unit.wholeScale.1), boundedNumber (n * unit.wholeScale.2) with
  | .ok seconds, .ok nanoseconds => total.plus seconds nanoseconds
  | _, _ => .error .overflow

def plusFraction (total : Duration) (f : Fraction) (unit : TimeUnit) :
    Except NotationError Duration :=
  match unit.fractionScale with
  | none => .error .overflow
  | some (secondScale, nanosecondScale) =>
    match f.scaled secondScale, f.scaled nanosecondScale with
    | .ok seconds, .ok nanoseconds => total.plus seconds nanoseconds
    | _, _ => .error .overflow

/-- Adds the item `n` with this fraction and unit. -/
def plusItem (total : Duration) (n : Nat) (fraction? : Option Fraction) (unitName : String) :
    Except NotationError Duration :=
  match TimeUnit.ofName? unitName with
  | none => .error (.unknownUnit unitName n)
  | some unit =>
    match total.plusWhole n unit, fraction? with
    | .error e, _ => .error e
    | .ok sum, none => .ok sum
    | .ok sum, some f => sum.plusFraction f unit

/-- What the characters read so far leave open. -/
inductive Mode
  /-- Nothing but blanks so far. -/
  | start
  /-- Behind an item. -/
  | gap
  | whole (n : Nat)
  /-- Behind the point; a fault here is reported at `mark`. -/
  | behindPoint (n : Nat) (fraction : Fraction) (mark : Nat)
  | unit (n : Nat) (fraction? : Option Fraction) (letters : List Char)
deriving DecidableEq

structure Progress where
  total : Duration
  mode : Mode
deriving DecidableEq

def isUnitLetter (c : Char) : Bool :=
  c.isAlpha || c == 'µ'

/-- Takes in the character at `offset`. -/
def Progress.step (p : Progress) (offset : Nat) (c : Char) : Except NotationError Progress :=
  match p.mode with
  | .start | .gap =>
    match Numeral.digitValue? c with
    | some d => .ok { p with mode := .whole d }
    | none => if Text.isBlank c then .ok p else .error (.numberExpected offset)
  | .whole n =>
    match Numeral.digitValue? c with
    | some d => (boundedNumber (n * 10 + d)).map fun m => { p with mode := .whole m }
    | none =>
      if Text.isBlank c then .ok p
      else if isUnitLetter c then .ok { p with mode := .unit n none [c] }
      else if c = '.' then .ok { p with mode := .behindPoint n {} offset }
      else .error (.invalidCharacter offset)
  | .behindPoint n f mark =>
    match Numeral.digitValue? c with
    | some d =>
      match boundedNumber (f.denominator * 10), boundedNumber (f.numerator * 10 + d) with
      | .ok denominator, .ok numerator =>
        .ok { p with mode := .behindPoint n { numerator, denominator } (offset + 1) }
      | _, _ => .error .overflow
    | none =>
      if Text.isBlank c then .ok { p with mode := .behindPoint n f (offset + c.utf8Size) }
      else if isUnitLetter c ∧ f.denominator ≠ 1 then
        .ok { p with mode := .unit n (some f) [c] }
      else .error (.invalidCharacter mark)
  | .unit n fraction? letters =>
    match Numeral.digitValue? c with
    | some d =>
      (p.total.plusItem n fraction? (String.ofList letters)).map fun total =>
        { total, mode := .whole d }
    | none =>
      if Text.isBlank c then
        (p.total.plusItem n fraction? (String.ofList letters)).map fun total =>
          { total, mode := .gap }
      else if isUnitLetter c then .ok { p with mode := .unit n fraction? (letters ++ [c]) }
      else .error (.invalidCharacter offset)

def Progress.read (p : Progress) (offset : Nat) : List Char → Except NotationError Progress
  | [] => .ok p
  | c :: rest =>
    match p.step offset c with
    | .error e => .error e
    | .ok next => next.read (offset + c.utf8Size) rest

def Progress.finish (p : Progress) : Except NotationError Duration :=
  match p.mode with
  | .start => .error .empty
  | .gap => .ok p.total
  | .whole n => p.total.plusItem n none ""
  | .behindPoint n f mark =>
    if f.denominator = 1 then .error (.invalidCharacter mark)
    else p.total.plusItem n (some f) ""
  | .unit n fraction? letters => p.total.plusItem n fraction? (String.ofList letters)

/-- Reads a duration. Only a lone zero may go without a unit. -/
def parse (text : String) : Except NotationError Duration :=
  if text = "0" then .ok zero
  else
    match Progress.read { total := zero, mode := .start } 0 text.toList with
    | .error e => .error e
    | .ok p => p.finish

/-- An item of the written form, left out if it is zero. -/
def item (n : Nat) (name : String) : List String :=
  if n = 0 then [] else [toString n ++ name]

/-- As `item`, with the plural for more than one. -/
def pluralItem (n : Nat) (name : String) : List String :=
  item n (if n = 1 then name else name ++ "s")

/-- The written form: years, months, days, hours and so on, each as large as it can be. -/
def format (d : Duration) : String :=
  let inYear := d.seconds % 31557600
  let inMonth := inYear % 2630016
  let inDay := inMonth % 86400
  let items :=
    pluralItem (d.seconds / 31557600) "year" ++ pluralItem (inYear / 2630016) "month"
      ++ pluralItem (inMonth / 86400) "day" ++ item (inDay / 3600) "h"
      ++ item (inDay % 3600 / 60) "m" ++ item (inDay % 60) "s"
      ++ item (d.subseconds / 1000000) "ms" ++ item (d.subseconds / 1000 % 1000) "us"
      ++ item (d.subseconds % 1000) "ns"
  if items.isEmpty then "0s" else " ".intercalate items

end DeviceUplink.Duration
