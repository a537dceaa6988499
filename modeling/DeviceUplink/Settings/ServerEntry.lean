import DeviceUplink.Server
import DeviceUplink.Settings.Error
import DeviceUplink.Text.Fields

/-!
# Server entries

Servers as settings name them: host, port and the hexadecimal public key, with colons between
them. The host may hold colons of its own, because an entry is read from its end.
-/

namespace DeviceUplink

structure ServerEntry where
  host : String
  port : UInt16
  publicKey : String
deriving DecidableEq, Repr

namespace ServerEntry

/-- The host, the port and the key of an entry, not yet looked into. -/
def parts? (entry : List Char) : Option (List Char × List Char × List Char) :=
  match Text.splitLast ':' entry with
  | none => none
  | some (front, key) => (Text.splitLast ':' front).map fun (host, port) => (host, port, key)

def parseChars (entry : List Char) : Except SettingsError ServerEntry :=
  match parts? entry with
  | none => .error (.malformedEntry (String.ofList entry))
  | some (host, port, key) =>
    match Numeral.parse Numeral.max16 port with
    | .error cause => .error (.badPort (String.ofList entry) cause)
    | .ok n =>
      .ok { host := String.ofList host, port := n.toUInt16, publicKey := String.ofList key }

def parse (entry : String) : Except SettingsError ServerEntry :=
  parseChars entry.toList

/-- Parses entries up to the first that fails. -/
def parseAll : List (List Char) → Except SettingsError (List ServerEntry)
  | [] => .ok []
  | entry :: rest =>
    match parseChars entry with
    | .error e => .error e
    | .ok first =>
      match parseAll rest with
      | .error e => .error e
      | .ok others => .ok (first :: others)

/-- The segments of a list that are not blank, trimmed. -/
def segments (text : List Char) : List (List Char) :=
  ((Text.split ',' text).map Text.trim).filter fun segment => !segment.isEmpty

/-- Parses entries with commas between them; blank segments are left out. -/
def parseList (text : String) : Except SettingsError (List ServerEntry) :=
  parseAll (segments text.toList)

/-- The server of the entry, which has to have a key of 32 octets. -/
def server (e : ServerEntry) (role : ServerRole) : Except SettingsError Server :=
  match Hex.decode e.publicKey with
  | .error cause => .error (.badKey e.host e.port cause)
  | .ok publicKey =>
    if publicKey.length = 32 then
      .ok { host := e.host, port := e.port, protocol := .tcp, role, publicKey }
    else .error (.keyLength e.host e.port publicKey.length)

/-- The servers of entries up to the first that has none. -/
def servers (role : ServerRole) : List ServerEntry → Except SettingsError (List Server)
  | [] => .ok []
  | entry :: rest =>
    match entry.server role with
    | .error e => .error e
    | .ok first =>
      match servers role rest with
      | .error e => .error e
      | .ok others => .ok (first :: others)

end ServerEntry

end DeviceUplink
