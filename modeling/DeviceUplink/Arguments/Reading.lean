import DeviceUplink.Arguments.Basic

/-!
# Reading arguments

An option takes its value from behind an equals sign or from the next word, unless that starts like
an option. A value in a word of its own is looked into only when the next option or the end comes,
so a word that makes no sense wins over a bad value before it.
-/

namespace DeviceUplink

/-- The options, each of which takes a value. -/
inductive OptionName
  | config
  | logLevel
  | keepAlive
  | server
  | connectivityProbe
  | retryDelay
  | identitySeed
deriving DecidableEq, Repr

namespace OptionName

def all : List OptionName :=
  [config, logLevel, keepAlive, server, connectivityProbe, retryDelay, identitySeed]

def name : OptionName → String
  | config => "config"
  | logLevel => "log-level"
  | keepAlive => "keep-alive"
  | server => "server"
  | connectivityProbe => "connectivity-probe"
  | retryDelay => "retry-delay"
  | identitySeed => "identity-seed"

def ofName? (name : String) : Option OptionName :=
  all.find? fun o => o.name == name

/-- Every server is one more; the other options may be given once. -/
def isRepeatable (o : OptionName) : Bool :=
  o == server

end OptionName

inductive UsageNotice
  | helpRequested
  | versionRequested
  | unknownWord
  | missingValue
  | badValue
  /-- A word that takes no value has one. -/
  | unwantedValue
  | repeatedOption
deriving DecidableEq, Repr

namespace Arguments

inductive Word
  | option (name : OptionName) (value? : Option String)
  | help
  | version
  /-- `--help` or `--version` with a value. -/
  | overloaded
  | separator
  | plain (text : String)
  | unknown
deriving DecidableEq

namespace Word

/-- The name and the value of a word behind its two dashes. -/
def ofLong (chars : List Char) : Word :=
  let name := String.ofList (chars.takeWhile (· != '='))
  let value? := (chars.dropWhile (· != '=')).tail?.map String.ofList
  if name == "help" then (if value?.isSome then overloaded else help)
  else if name == "version" then (if value?.isSome then overloaded else version)
  else
    match OptionName.ofName? name with
    | some o => option o value?
    | none => unknown

def ofText (text : String) : Word :=
  match text.toList with
  | ['-', '-'] => separator
  | '-' :: '-' :: rest => ofLong rest
  | '-' :: 'h' :: _ => help
  | '-' :: 'V' :: _ => version
  | '-' :: _ :: _ => unknown
  | _ => plain text

end Word

def take (a : Arguments) (name : OptionName) (value : String) :
    Except UsageNotice Arguments :=
  match name with
  | .config => if value = "" then .error .missingValue else .ok { a with config := value }
  | .logLevel => .ok { a with logLevel := value }
  | .keepAlive =>
    match Numeral.parseSigned Numeral.max16 value.toList with
    | .ok n => .ok { a with keepAlive := some n.toUInt16 }
    | .error _ => .error .badValue
  | .server => .ok { a with servers := a.servers ++ [value] }
  | .connectivityProbe => .ok { a with connectivityProbe := some value }
  | .retryDelay =>
    match Duration.parse value with
    | .ok d => .ok { a with retryDelay := some d }
    | .error _ => .error .badValue
  | .identitySeed => .ok { a with identitySeed := some value }

structure Reading where
  arguments : Arguments := {}
  given : List OptionName := []
  /-- The last option, if it stands in a word of its own, with its value once that has come. -/
  pending : Option (OptionName × Option String) := none

namespace Reading

def accept (r : Reading) (name : OptionName) (value : String) : Except UsageNotice Reading :=
  if r.given.contains name && !name.isRepeatable then .error .repeatedOption
  else
    match r.arguments.take name value with
    | .ok arguments => .ok { arguments, given := name :: r.given }
    | .error e => .error e

def settle (r : Reading) : Except UsageNotice Reading :=
  match r.pending with
  | none => .ok r
  | some (_, none) => .error .missingValue
  | some (name, some value) => r.accept name value

/-- Settles what waits; `next` is the end of the reading unless that fails. -/
def settleThen (r : Reading) (next : UsageNotice) : UsageNotice :=
  match r.settle with
  | .ok _ => next
  | .error e => e

def read (r : Reading) : List String → Except UsageNotice Arguments
  | [] =>
    match r.settle with
    | .ok final => .ok final.arguments
    | .error e => .error e
  | text :: rest =>
    match Word.ofText text with
    | .option name none =>
      match r.settle with
      | .ok settled => read { settled with pending := some (name, none) } rest
      | .error e => .error e
    | .option name (some value) =>
      match r.settle with
      | .error e => .error e
      | .ok settled =>
        match settled.accept name value with
        | .ok next => read next rest
        | .error e => .error e
    | .help => .error (r.settleThen .helpRequested)
    | .version => .error (r.settleThen .versionRequested)
    | .overloaded => .error .unwantedValue
    | .unknown => .error .unknownWord
    | .separator =>
      match rest, r.settle with
      | _ :: _, _ => .error .unknownWord
      | [], .ok final => .ok final.arguments
      | [], .error e => .error e
    | .plain value =>
      match r.pending with
      | some (name, none) => read { r with pending := some (name, some value) } rest
      | _ => .error .unknownWord

end Reading

def ofWords (words : List String) : Except UsageNotice Arguments :=
  Reading.read {} words

end Arguments

end DeviceUplink
