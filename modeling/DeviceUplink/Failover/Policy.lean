import DeviceUplink.Duration
import DeviceUplink.Server

/-!
# Failover policy

What channels ask about when servers or the network are gone, what they may be told, and how long
a retry waits.
-/

namespace DeviceUplink

inductive FailoverStatus
  | noConnectivity
  | bootstrapServersExhausted
  | bootstrapServerLost
  | operationsServersExhausted
  | noOperationsServers
deriving DecidableEq, Repr

namespace FailoverStatus

def all : List FailoverStatus :=
  [noConnectivity, bootstrapServersExhausted, bootstrapServerLost, operationsServersExhausted,
    noOperationsServers]

def title : FailoverStatus → String
  | noConnectivity => "NoConnectivity"
  | bootstrapServersExhausted => "BootstrapServersNa"
  | bootstrapServerLost => "CurrentBootstrapServerNa"
  | operationsServersExhausted => "OperationsServersNa"
  | noOperationsServers => "NoOperationsServersReceived"

/-- The status that says that every server of a role has failed. -/
def exhausted : ServerRole → FailoverStatus
  | .bootstrap => bootstrapServersExhausted
  | .operations => operationsServersExhausted

def exhaustedRole? : FailoverStatus → Option ServerRole
  | operationsServersExhausted => some .operations
  | bootstrapServersExhausted => some .bootstrap
  | _ => none

theorem exhaustedRole?_exhausted (role : ServerRole) :
    (exhausted role).exhaustedRole? = some role := by
  cases role <;> rfl

end FailoverStatus

inductive FailoverDecision
  | noop
  | retry (delay : Duration)
  /-- Give up for good. -/
  | stop
deriving DecidableEq, Repr

structure FailoverPolicy where
  retryDelay : Duration := .ofSeconds 5
  backoffMultiplier : UInt32 := 2
  maxRetryDelay : Duration := .ofSeconds 300
  /-- How many questions in a row are answered with a retry. -/
  maxConsecutiveFailures : Option UInt32 := none
  /-- Within this time repeated failures of one server are reported once. -/
  resolutionWindow : Duration := .ofSeconds 10
  retryOnNoConnectivity : Bool := true
deriving DecidableEq

namespace FailoverPolicy

def maxFactor : Nat := 4294967295

/-- `base ^ exponent` for a positive base, at most `maxFactor`. A base above one passes that at
exponent 32. -/
def cappedPow (base exponent : Nat) : Nat :=
  if base ≤ 1 then 1
  else if 32 ≤ exponent then maxFactor
  else min (base.pow exponent) maxFactor

/-- The delay before the retry that follows failure number `attempt`, the first being number one.
A multiplier of zero counts as one. -/
def delayFor (policy : FailoverPolicy) (attempt : Nat) : Duration :=
  let factor := cappedPow (max policy.backoffMultiplier.toNat 1) (attempt - 1)
  match policy.retryDelay.scale? factor with
  | some delay => delay.min policy.maxRetryDelay
  | none => policy.maxRetryDelay

end FailoverPolicy

end DeviceUplink
