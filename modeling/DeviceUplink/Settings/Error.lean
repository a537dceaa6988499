import DeviceUplink.Duration.Notation
import DeviceUplink.Text.Hex

/-!
# Errors in settings

What can be wrong with a setting. Most errors have a cause of their own behind them.
-/

namespace DeviceUplink

/-- The variables of the environment that replace settings, in the order in which they do. -/
inductive Variable
  | keepAlive
  | connectTimeout
  | connectivityProbe
  | retryDelay
  | maxConsecutiveFailures
  | operationsServers
  | bootstrapServers
deriving DecidableEq, Repr

namespace Variable

def all : List Variable :=
  [keepAlive, connectTimeout, connectivityProbe, retryDelay, maxConsecutiveFailures,
    operationsServers, bootstrapServers]

def name : Variable → String
  | keepAlive => "UPLINK_KEEP_ALIVE"
  | connectTimeout => "UPLINK_CONNECT_TIMEOUT"
  | connectivityProbe => "UPLINK_CONNECTIVITY_PROBE"
  | retryDelay => "UPLINK_RETRY_DELAY"
  | maxConsecutiveFailures => "UPLINK_MAX_CONSECUTIVE_FAILURES"
  | operationsServers => "UPLINK_OPERATIONS_SERVERS"
  | bootstrapServers => "UPLINK_BOOTSTRAP_SERVERS"

end Variable

inductive DurationField
  | connectTimeout
  | retryDelay
  | maxRetryDelay
  | resolutionTimeout
deriving DecidableEq, Repr

namespace DurationField

def name : DurationField → String
  | connectTimeout => "connect_timeout"
  | retryDelay => "failover.retry_delay"
  | maxRetryDelay => "failover.max_retry_delay"
  | resolutionTimeout => "failover.failure_resolution_timeout"

end DurationField

inductive SettingsError
  /-- The text has fewer than three parts. -/
  | malformedEntry (entry : String)
  | badPort (entry : String) (cause : Numeral.Error)
  | badKey (host : String) (port : UInt16) (cause : Hex.Error)
  | keyLength (host : String) (port : UInt16) (length : Nat)
  | badDuration (field : DurationField) (text : String) (cause : Duration.NotationError)
  | badVariable (name : Variable) (text : String) (cause : Numeral.Error)
deriving DecidableEq

namespace SettingsError

def message : SettingsError → String
  | malformedEntry entry => "expected host:port:public_key, got " ++ Text.quoted entry
  | badPort entry _ => "invalid port in " ++ Text.quoted entry
  | badKey host port _ => "invalid public key for " ++ host ++ ":" ++ toString port.toNat
  | keyLength host port length =>
    "public key for " ++ host ++ ":" ++ toString port.toNat ++ " must be 32 bytes, got "
      ++ toString length
  | badDuration field text _ => "invalid " ++ field.name ++ " " ++ Text.quoted text
  | badVariable name text _ => "invalid " ++ name.name ++ " " ++ Text.quoted text

def cause? : SettingsError → Option String
  | malformedEntry _ | keyLength _ _ _ => none
  | badPort _ cause | badVariable _ _ cause => some cause.message
  | badKey _ _ cause => some cause.message
  | badDuration _ _ cause => some cause.message

/-- The message and what is behind it. -/
def fullMessage (e : SettingsError) : String :=
  match e.cause? with
  | some cause => e.message ++ ": " ++ cause
  | none => e.message

end SettingsError

end DeviceUplink
