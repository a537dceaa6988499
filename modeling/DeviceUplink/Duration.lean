/-!
# Durations

Spans of time in whole nanoseconds. A duration that the program can hold has at most `2 ^ 64 - 1`
whole seconds.
-/

namespace DeviceUplink

structure Duration where
  nanoseconds : Nat
deriving DecidableEq, Repr

namespace Duration

def nanosecondsPerSecond : Nat := 1000000000

def zero : Duration := ⟨0⟩

def ofSeconds (n : Nat) : Duration := ⟨n * nanosecondsPerSecond⟩

def ofMilliseconds (n : Nat) : Duration := ⟨n * 1000000⟩

/-- Whole seconds and the nanoseconds above them. -/
def ofParts (seconds subseconds : Nat) : Duration :=
  ⟨seconds * nanosecondsPerSecond + subseconds⟩

def seconds (d : Duration) : Nat :=
  d.nanoseconds / nanosecondsPerSecond

def subseconds (d : Duration) : Nat :=
  d.nanoseconds % nanosecondsPerSecond

def longest : Duration :=
  ofParts 18446744073709551615 999999999

def min (a b : Duration) : Duration :=
  ⟨Nat.min a.nanoseconds b.nanoseconds⟩

/-- The product, unless it is too long to be held. -/
def scale? (d : Duration) (factor : Nat) : Option Duration :=
  if d.nanoseconds * factor ≤ longest.nanoseconds then some ⟨d.nanoseconds * factor⟩ else none

end Duration

end DeviceUplink
