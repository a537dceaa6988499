import DeviceUplink.Channel.Basic
import DeviceUplink.Settings.ServerEntry

/-!
# Settings

The settings of a client. Durations are kept as they are written; settings are valid when all of
them can be put to use.
-/

namespace DeviceUplink

structure FailoverSettings where
  retryDelay : String := "5s"
  backoffMultiplier : UInt32 := 2
  maxRetryDelay : String := "5m"
  maxConsecutiveFailures : Option UInt32 := none
  resolutionTimeout : String := "10s"
deriving DecidableEq

structure Settings where
  keepAlive : UInt16 := 200
  connectTimeout : String := "10s"
  /-- The address whose reachability stands for that of the network. -/
  connectivityProbe : Option String := none
  failover : FailoverSettings := {}
  /-- In the order of preference. -/
  operationsServers : List ServerEntry := []
  /-- In the order of preference. -/
  bootstrapServers : List ServerEntry := []
deriving DecidableEq

namespace Settings

def duration (field : DurationField) (text : String) : Except SettingsError Duration :=
  match Duration.parse text with
  | .ok d => .ok d
  | .error cause => .error (.badDuration field text cause)

def channel (s : Settings) : Except SettingsError ChannelSettings :=
  match duration .connectTimeout s.connectTimeout with
  | .ok connectTimeout => .ok { keepAlive := s.keepAlive, connectTimeout }
  | .error e => .error e

def failoverPolicy (s : Settings) : Except SettingsError FailoverPolicy :=
  match duration .retryDelay s.failover.retryDelay,
    duration .maxRetryDelay s.failover.maxRetryDelay,
    duration .resolutionTimeout s.failover.resolutionTimeout with
  | .error e, _, _ | .ok _, .error e, _ | .ok _, .ok _, .error e => .error e
  | .ok retryDelay, .ok maxRetryDelay, .ok resolutionWindow =>
    .ok { retryDelay
          backoffMultiplier := s.failover.backoffMultiplier
          maxRetryDelay
          maxConsecutiveFailures := s.failover.maxConsecutiveFailures
          resolutionWindow }

def servers (s : Settings) : ServerRole → Except SettingsError (List Server)
  | .operations => ServerEntry.servers .operations s.operationsServers
  | .bootstrap => ServerEntry.servers .bootstrap s.bootstrapServers

structure Plan where
  channel : ChannelSettings
  policy : FailoverPolicy
  operations : List Server
  bootstrap : List Server

/-- Puts all settings to use, or says which is the first that cannot be. -/
def plan (s : Settings) : Except SettingsError Plan :=
  match s.channel, s.failoverPolicy, s.servers .operations, s.servers .bootstrap with
  | .error e, _, _, _ | .ok _, .error e, _, _ | .ok _, .ok _, .error e, _
  | .ok _, .ok _, .ok _, .error e => .error e
  | .ok channel, .ok policy, .ok operations, .ok bootstrap =>
    .ok { channel, policy, operations, bootstrap }

def validate (s : Settings) : Except SettingsError Unit :=
  s.plan.map fun _ => ()

end Settings

end DeviceUplink
