import DeviceUplink.Arguments.Reading
import DeviceUplink.Crypto.Suite
import DeviceUplink.Log.Line
import DeviceUplink.Settings.Report

/-!
# The start of a client

What a command line comes to in an environment: a notice on how to use the program, an error, or
the settings of the client with the events that its start logs.
-/

namespace DeviceUplink

def programVersion : String := "0.1.0"

def usageText : String :=
  "Usage: uplink [OPTIONS]\n\n"
    ++ String.join (OptionName.all.map fun o => "  --" ++ o.name ++ " <VALUE>\n")
    ++ "  -h, --help\n  -V, --version\n"

namespace UsageNotice

/-- What the user has asked for is no error. -/
def isError : UsageNotice → Bool
  | helpRequested | versionRequested => false
  | unknownWord | missingValue | badValue | unwantedValue | repeatedOption => true

def message : UsageNotice → String
  | helpRequested => usageText
  | versionRequested => "uplink " ++ programVersion ++ "\n"
  | unknownWord => "error: unexpected argument\n\n" ++ usageText
  | missingValue => "error: a value is required\n\n" ++ usageText
  | badValue => "error: invalid value\n\n" ++ usageText
  | unwantedValue => "error: unexpected value\n\n" ++ usageText
  | repeatedOption => "error: an option cannot be used more than once\n\n" ++ usageText

end UsageNotice

inductive StartError
  | usage (notice : UsageNotice)
  | badLogLevel
  | settings (cause : SettingsError)
  | seed (cause : SeedError)

namespace StartError

def message : StartError → String
  | usage notice => notice.message
  | badLogLevel => "Error: invalid filter directive\n"
  | settings cause => "Error: " ++ cause.fullMessage ++ "\n"
  | seed cause => "Error: " ++ cause.message ++ "\n"

def exitCode : StartError → UInt8
  | usage notice => if notice.isError then 2 else 0
  | badLogLevel | settings _ | seed _ => 1

end StartError

/-- What the start of a client needs from outside. -/
structure StartContext where
  /-- The text of the file with the settings, if there is one. -/
  settingsText : Option String
  environment : Environment
  terminal : Option String
  /-- The private key of a device that is not given one. -/
  randomSeed : Bytes

structure Startup where
  settings : Settings
  seed : Bytes
  filter : LogFilter
  style : LogStyle

namespace Startup

def ofArguments (a : Arguments) (context : StartContext) : Except StartError Startup :=
  match LogFilter.ofLevel? a.logLevel with
  | none => .error .badLogLevel
  | some filter =>
    match a.settings context.settingsText context.environment, a.seed? with
    | .error cause, _ => .error (.settings cause)
    | .ok _, .error cause => .error (.seed cause)
    | .ok settings, .ok seed =>
      .ok { settings
            seed := seed.getD context.randomSeed
            filter
            style := { hasColor := LogStyle.hasColorOf context.terminal } }

/-- An event of the part that looks after the others. -/
def supervision (severity : Severity) (message : String) : LogEvent :=
  { severity, component := some (.text "supervisor"), message }

def events (s : Startup) (suite : Suite) : List LogEvent :=
  let version := { severity := .info, message := "Starting uplink service v" ++ programVersion }
  let probe := s.settings.connectivityProbe.toList.map fun address =>
    supervision .info ("Probing connectivity through " ++ address)
  let key := Hex.encode (suite.signatureKey s.seed)
  let device := { severity := .info, message := "Device public key: " ++ key }
  let servers :=
    if s.settings.operationsServers.isEmpty then
      [supervision .warn "No operations servers configured, channel stays closed"]
    else []
  version :: probe ++ device :: servers

/-- The events that pass, as lines, and the settings as a document. -/
def report (s : Startup) (suite : Suite) : List String :=
  s.style.lines ((s.events suite).filter fun e => s.filter.passes "uplink" e.severity)
    ++ [s.settings.document.compact]

end Startup

end DeviceUplink
