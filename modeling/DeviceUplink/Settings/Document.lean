import DeviceUplink.Settings.Environment
import DeviceUplink.Yaml.Node

/-!
# Settings from a document

The settings stand in a YAML document, under the key `uplink`. Unknown keys are passed over, and a
missing key leaves the default. A document that cannot be read as a whole counts as if it were not
there.
-/

namespace DeviceUplink

open Yaml

/-- Goes through the entries of a mapping with keys that are scalars. A known key may stand there
once; `read` takes over its value and gives nothing if it is no known one. -/
def readFields {α : Type} (known : List String) (read : α → String → Node → Option α) :
    List String → List (Node × Node) → α → Option α
  | _, [], value => some value
  | seen, (key, node) :: rest, value => do
    let name ← key.text?
    if !known.contains name then readFields known read seen rest value
    else if seen.contains name then none
    else readFields known read (name :: seen) rest (← read value name node)

namespace ServerEntry

structure Draft where
  host : Option String := none
  port : Option UInt16 := none
  publicKey : Option String := none

/-- All three fields have to be there. -/
def ofNode? (node : Node) : Option ServerEntry := do
  let p ← readFields ["host", "port", "public_key"] (fun (p : Draft) name node =>
    match name with
    | "host" => node.text?.map fun t => { p with host := some t }
    | "port" => (node.nat? Numeral.max16).map fun n => { p with port := some n.toUInt16 }
    | _ => node.text?.map fun t => { p with publicKey := some t }) [] (← node.entries?) {}
  return { host := ← p.host, port := ← p.port, publicKey := ← p.publicKey }

def listOfNode? (node : Node) : Option (List ServerEntry) := do
  (← node.items?).mapM ofNode?

end ServerEntry

def FailoverSettings.ofNode? (node : Node) : Option FailoverSettings := do
  readFields
    ["retry_delay", "backoff_multiplier", "max_retry_delay", "max_consecutive_failures",
      "failure_resolution_timeout"]
    (fun (s : FailoverSettings) name node =>
      match name with
      | "retry_delay" => node.text?.map fun t => { s with retryDelay := t }
      | "backoff_multiplier" =>
        (node.nat? Numeral.max32).map fun n => { s with backoffMultiplier := n.toUInt32 }
      | "max_retry_delay" => node.text?.map fun t => { s with maxRetryDelay := t }
      | "max_consecutive_failures" => do
        if ← node.isNull? then return { s with maxConsecutiveFailures := none }
        let n ← node.nat? Numeral.max32
        return { s with maxConsecutiveFailures := some n.toUInt32 }
      | _ => node.text?.map fun t => { s with resolutionTimeout := t }) [] (← node.entries?) {}

namespace Settings

def ofNode? (node : Node) : Option Settings := do
  readFields
    ["keep_alive", "connect_timeout", "connectivity_probe", "failover", "operations_servers",
      "bootstrap_servers"]
    (fun (s : Settings) name node =>
      match name with
      | "keep_alive" =>
        (node.nat? Numeral.max16).map fun n => { s with keepAlive := n.toUInt16 }
      | "connect_timeout" => node.text?.map fun t => { s with connectTimeout := t }
      | "connectivity_probe" => do
        if ← node.isNull? then return { s with connectivityProbe := none }
        return { s with connectivityProbe := some (← node.text?) }
      | "failover" => (FailoverSettings.ofNode? node).map fun f => { s with failover := f }
      | "operations_servers" =>
        (ServerEntry.listOfNode? node).map fun es => { s with operationsServers := es }
      | _ => (ServerEntry.listOfNode? node).map fun es => { s with bootstrapServers := es })
    [] (← node.entries?) {}

/-- The settings in a document. Nothing under the key leaves the defaults. -/
def ofDocument? (text : String) : Option Settings := do
  let root ← document? text
  readFields ["uplink"] (fun (_ : Settings) _ node => do
    if ← node.isNull? then return {}
    ofNode? node) [] (← root.entries?) {}

/-- The settings of a file with this text, if there is one, under an environment. -/
def load (text? : Option String) (environment : Environment) : Except SettingsError Settings :=
  underEnvironment ((text?.bind ofDocument?).getD {}) environment

end Settings

end DeviceUplink
