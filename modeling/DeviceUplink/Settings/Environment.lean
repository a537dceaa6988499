import DeviceUplink.Settings.Basic

/-!
# Settings from the environment

Each variable of the environment replaces one setting. The first value that cannot be read ends
the replacement and leaves what was replaced before it.
-/

namespace DeviceUplink

abbrev Environment := Variable → Option String

namespace Settings

/-- Takes over the value of one variable. An empty probe means none. -/
def replace (s : Settings) (name : Variable) (text : String) :
    Except SettingsError Settings :=
  match name with
  | .keepAlive =>
    match Numeral.parse Numeral.max16 text.toList with
    | .ok n => .ok { s with keepAlive := n.toUInt16 }
    | .error cause => .error (.badVariable .keepAlive text cause)
  | .connectTimeout => .ok { s with connectTimeout := text }
  | .connectivityProbe =>
    .ok { s with connectivityProbe := if text = "" then none else some text }
  | .retryDelay => .ok { s with failover := { s.failover with retryDelay := text } }
  | .maxConsecutiveFailures =>
    match Numeral.parse Numeral.max32 text.toList with
    | .ok n =>
      .ok { s with failover := { s.failover with maxConsecutiveFailures := some n.toUInt32 } }
    | .error cause => .error (.badVariable .maxConsecutiveFailures text cause)
  | .operationsServers =>
    match ServerEntry.parseList text with
    | .ok entries => .ok { s with operationsServers := entries }
    | .error e => .error e
  | .bootstrapServers =>
    match ServerEntry.parseList text with
    | .ok entries => .ok { s with bootstrapServers := entries }
    | .error e => .error e

/-- Takes over the variables that are set, one after the other. -/
def replaceFrom (environment : Environment) (s : Settings) :
    List Variable → Settings × Except SettingsError Unit
  | [] => (s, .ok ())
  | name :: rest =>
    match environment name with
    | none => replaceFrom environment s rest
    | some text =>
      match s.replace name text with
      | .ok next => replaceFrom environment next rest
      | .error e => (s, .error e)

def override (s : Settings) (environment : Environment) :
    Settings × Except SettingsError Unit :=
  s.replaceFrom environment Variable.all

/-- Settings of a file under an environment. They have to be valid then. -/
def underEnvironment (s : Settings) (environment : Environment) :
    Except SettingsError Settings :=
  match s.override environment with
  | (_, .error e) => .error e
  | (final, .ok _) => final.validate.map fun _ => final

end Settings

end DeviceUplink
