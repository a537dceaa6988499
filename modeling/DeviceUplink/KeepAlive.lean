import DeviceUplink.Duration

/-!
# Keep-alive

When pings are due on a connection and what their answers measure. Instants are nanoseconds on
any clock that does not run backwards.
-/

namespace DeviceUplink

/-- Half of the keep-alive, so that the server sees traffic before its own timeout. A keep-alive
of zero counts as one second. -/
def pingInterval (keepAlive : UInt16) : Duration :=
  .ofMilliseconds (max keepAlive.toNat 1 * 500)

/-- The ping that waits for its answer and the last round trip measured. -/
structure RoundTrip where
  outstanding : Option Nat := none
  last : Option Duration := none
deriving DecidableEq

namespace RoundTrip

/-- A newer ping takes the place of one that waits. -/
def recordPing (r : RoundTrip) (now : Nat) : RoundTrip :=
  { r with outstanding := some now }

/-- Measures the round trip if a ping waits. -/
def processPong (r : RoundTrip) (now : Nat) : RoundTrip × Option Duration :=
  match r.outstanding with
  | none => (r, none)
  | some sent => ({ outstanding := none, last := some ⟨now - sent⟩ }, some ⟨now - sent⟩)

theorem outstanding_processPong (r : RoundTrip) (now : Nat) :
    (r.processPong now).1.outstanding = none := by
  unfold processPong
  split
  · assumption
  · rfl

/-- The connection is gone; the last measurement stays. -/
def reset (r : RoundTrip) : RoundTrip :=
  { r with outstanding := none }

end RoundTrip

/-- A recurring timer whose ticks somebody receives. -/
structure Ticker where
  interval : Nat
  interval_pos : 0 < interval
  deadline : Nat
  /-- A tick later than this starts the schedule anew. -/
  tolerance : Nat := 5000000
  hasReceiver : Bool := true
  isFinished : Bool := false

namespace Ticker

/-- The first tick is due one interval from now. -/
def start (interval : Nat) (h : 0 < interval) (now : Nat) : Ticker :=
  { interval, interval_pos := h, deadline := now + interval }

def nextDeadline (t : Ticker) (now : Nat) : Nat :=
  if t.deadline + t.tolerance < now then now + t.interval else t.deadline + t.interval

theorem deadline_lt_nextDeadline (t : Ticker) (now : Nat) :
    t.deadline < t.nextDeadline now := by
  have := t.interval_pos
  unfold nextDeadline
  split <;> omega

theorem sub_nextDeadline_lt {t : Ticker} {now : Nat} (h : ¬ now < t.deadline) :
    now + 1 - t.nextDeadline now < now + 1 - t.deadline := by
  have := t.deadline_lt_nextDeadline now
  omega

/-- Lets the ticker run at `now` and counts the ticks delivered. Without a receiver the tick that
is due ends the ticker. -/
def advance (t : Ticker) (now : Nat) : Ticker × Nat :=
  if t.isFinished then (t, 0)
  else if now < t.deadline then (t, 0)
  else if t.hasReceiver then
    let (last, ticks) := advance { t with deadline := t.nextDeadline now } now
    (last, ticks + 1)
  else ({ t with isFinished := true }, 0)
termination_by now + 1 - t.deadline
decreasing_by
  exact sub_nextDeadline_lt (by assumption)

def cancel (t : Ticker) : Ticker :=
  { t with isFinished := true }

def dropReceiver (t : Ticker) : Ticker :=
  { t with hasReceiver := false }

end Ticker

end DeviceUplink
