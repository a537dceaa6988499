import DeviceUplink.Settings.Document

/-!
# Arguments

What the command line can say, and how it changes settings. Arguments count more than the
environment, and the environment counts more than the file.
-/

namespace DeviceUplink

structure Arguments where
  /-- Where the file with the settings is. -/
  config : String := "uplink.yaml"
  logLevel : String := "info"
  keepAlive : Option UInt16 := none
  /-- Entries for the operations servers, not yet looked into. -/
  servers : List String := []
  connectivityProbe : Option String := none
  retryDelay : Option Duration := none
  /-- The private key of the device in hexadecimal. -/
  identitySeed : Option String := none

inductive SeedError
  | badText (cause : Hex.Error)
  | badLength
deriving DecidableEq

def SeedError.message : SeedError → String
  | badText cause => cause.message
  | badLength => "identity seed must be 32 bytes"

namespace Arguments

def withKeepAlive (a : Arguments) (s : Settings) : Settings :=
  match a.keepAlive with
  | some seconds => { s with keepAlive := seconds }
  | none => s

/-- Servers replace all operations servers of the settings. -/
def withServers (a : Arguments) (s : Settings) : Except SettingsError Settings :=
  match a.servers with
  | [] => .ok s
  | entries =>
    match ServerEntry.parseAll (entries.map String.toList) with
    | .ok parsed => .ok { s with operationsServers := parsed }
    | .error e => .error e

def withProbe (a : Arguments) (s : Settings) : Settings :=
  match a.connectivityProbe with
  | some address => { s with connectivityProbe := some address }
  | none => s

def withRetryDelay (a : Arguments) (s : Settings) : Settings :=
  match a.retryDelay with
  | some delay => { s with failover := { s.failover with retryDelay := delay.format } }
  | none => s

/-- The settings under the arguments, which have to be valid then. An entry that cannot be read
ends the change after the keep-alive. -/
def applyTo (a : Arguments) (s : Settings) : Settings × Except SettingsError Unit :=
  let first := a.withKeepAlive s
  match a.withServers first with
  | .error e => (first, .error e)
  | .ok second =>
    let final := a.withRetryDelay (a.withProbe second)
    (final, final.validate)

/-- The settings of a start with a file of this text, if there is one. -/
def settings (a : Arguments) (text? : Option String) (environment : Environment) :
    Except SettingsError Settings :=
  match Settings.load text? environment with
  | .error e => .error e
  | .ok loaded =>
    match a.applyTo loaded with
    | (_, .error e) => .error e
    | (final, .ok _) => .ok final

def seed? (a : Arguments) : Except SeedError (Option Bytes) :=
  match a.identitySeed with
  | none => .ok none
  | some text =>
    match Hex.decode text with
    | .error cause => .error (.badText cause)
    | .ok bytes => if bytes.length = 32 then .ok (some bytes) else .error .badLength

end Arguments

end DeviceUplink
