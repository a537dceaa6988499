import DeviceUplink.Failover.Policy

/-!
# Failover ledger

What is remembered of failures and connections, and the answers that follow from it. Nothing here
waits: a call takes the ledger and gives back the next one.
-/

namespace DeviceUplink

structure FailoverLedger where
  policy : FailoverPolicy
  /-- Failures in a row, by address and role. -/
  failures : String → ServerRole → Nat := fun _ _ => 0
  /-- Questions in a row, by status. -/
  attempts : FailoverStatus → Nat := fun _ => 0
  /-- The address last signalled for a role, and when, in nanoseconds. -/
  lastSignal : ServerRole → Option (String × Nat) := fun _ => none

namespace FailoverLedger

def failureCount (ledger : FailoverLedger) (server : Server) : Nat :=
  ledger.failures server.address server.role

/-- A signal for this server would repeat the last one of its role within the window. -/
def isRepeated (ledger : FailoverLedger) (now : Nat) (server : Server) : Bool :=
  match ledger.lastSignal server.role with
  | some (address, at_) =>
    address == server.address && now - at_ < ledger.policy.resolutionWindow.nanoseconds
  | none => false

def countFailure (ledger : FailoverLedger) (server : Server) : FailoverLedger :=
  { ledger with failures := fun address role =>
      if address = server.address ∧ role = server.role then ledger.failures address role + 1
      else ledger.failures address role }

def forgetSignal (ledger : FailoverLedger) (role : ServerRole) : FailoverLedger :=
  { ledger with lastSignal := fun r => if r = role then none else ledger.lastSignal r }

def noteSignal (ledger : FailoverLedger) (now : Nat) (server : Server) : FailoverLedger :=
  { ledger with lastSignal := fun r =>
      if r = server.role then some (server.address, now) else ledger.lastSignal r }

/-- Records a failure. The second part says whether the server is to be rotated out. -/
def serverFailed (ledger : FailoverLedger) (now : Nat) (server : Server) :
    FailoverLedger × Bool :=
  if ledger.isRepeated now server then (ledger.countFailure server, false)
  else ((ledger.countFailure server).noteSignal now server, true)

/-- A connection to any server ends all series of questions. -/
def serverConnected (ledger : FailoverLedger) (server : Server) : FailoverLedger :=
  { ledger.forgetSignal server.role with
    failures := fun address role =>
      if address = server.address ∧ role = server.role then 0 else ledger.failures address role
    attempts := fun _ => 0 }

def countAttempt (ledger : FailoverLedger) (status : FailoverStatus) : FailoverLedger :=
  { ledger with attempts := fun s =>
      if s = status then ledger.attempts s + 1 else ledger.attempts s }

def isExhausted (policy : FailoverPolicy) (attempt : Nat) : Bool :=
  match policy.maxConsecutiveFailures with
  | some most => most.toNat < attempt
  | none => false

/-- Answers a question. A retry of a whole list starts at its first server, whose next failure has
to be signalled again. -/
def decide (ledger : FailoverLedger) (status : FailoverStatus) :
    FailoverLedger × FailoverDecision :=
  let counted := ledger.countAttempt status
  let attempt := counted.attempts status
  if isExhausted ledger.policy attempt then (counted, .stop)
  else if status = .noConnectivity ∧ ledger.policy.retryOnNoConnectivity = false then
    (counted, .noop)
  else
    let delay := ledger.policy.delayFor attempt
    match status.exhaustedRole? with
    | some role => (counted.forgetSignal role, .retry delay)
    | none => (counted, .retry delay)

end FailoverLedger

end DeviceUplink
