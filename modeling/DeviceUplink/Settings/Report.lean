import DeviceUplink.Json.Value
import DeviceUplink.Settings.Basic

/-!
# Settings as a document

The settings in JSON, under the names that they have in a file.
-/

namespace DeviceUplink

namespace Json.Value

def ofNat (n : Nat) : Value :=
  number (.whole n)

def orNull {α : Type} (toValue : α → Value) : Option α → Value
  | some x => toValue x
  | none => null

end Json.Value

open Json

def ServerEntry.document (e : ServerEntry) : Value :=
  .ofFields [
    ("host", .text e.host),
    ("port", .ofNat e.port.toNat),
    ("public_key", .text e.publicKey)]

def FailoverSettings.document (s : FailoverSettings) : Value :=
  .ofFields [
    ("retry_delay", .text s.retryDelay),
    ("backoff_multiplier", .ofNat s.backoffMultiplier.toNat),
    ("max_retry_delay", .text s.maxRetryDelay),
    ("max_consecutive_failures",
      .orNull (fun n => .ofNat n.toNat) s.maxConsecutiveFailures),
    ("failure_resolution_timeout", .text s.resolutionTimeout)]

def Settings.document (s : Settings) : Value :=
  .ofFields [
    ("keep_alive", .ofNat s.keepAlive.toNat),
    ("connect_timeout", .text s.connectTimeout),
    ("connectivity_probe", .orNull .text s.connectivityProbe),
    ("failover", s.failover.document),
    ("operations_servers", .list (s.operationsServers.map ServerEntry.document)),
    ("bootstrap_servers", .list (s.bootstrapServers.map ServerEntry.document))]

end DeviceUplink
