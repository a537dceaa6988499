import DeviceUplink.Bytes
import DeviceUplink.Text.Quoted

/-!
# Servers

Where a channel connects to, and for what purpose.
-/

namespace DeviceUplink

inductive ServerRole
  /-- Discovery of operations servers. -/
  | bootstrap
  | operations
deriving DecidableEq, Repr

namespace ServerRole

def name : ServerRole → String
  | bootstrap => "bootstrap"
  | operations => "operations"

def ofName? (name : String) : Option ServerRole :=
  [bootstrap, operations].find? fun role => role.name == name

def title : ServerRole → String
  | bootstrap => "Bootstrap"
  | operations => "Operations"

theorem ofName?_name (role : ServerRole) : ofName? role.name = some role := by
  cases role <;> rfl

end ServerRole

structure Protocol where
  id : UInt32
  version : UInt32
deriving DecidableEq, Repr

namespace Protocol

/-- Binary frames over plain TCP. -/
def tcp : Protocol :=
  { id := 0xfb9a3cf0, version := 1 }

/-- The identifier with eight digits, then the version. -/
def text (p : Protocol) : String :=
  let digits := Text.hexDigits p.id.toNat
  "0x" ++ String.ofList (List.replicate (8 - digits.length) '0' ++ digits) ++ "/v"
    ++ toString p.version.toNat

end Protocol

structure Server where
  host : String
  port : UInt16
  protocol : Protocol
  role : ServerRole
  /-- The key for which session keys are wrapped. -/
  publicKey : Bytes
deriving DecidableEq, Repr

namespace Server

def operations (host : String) (port : UInt16) (publicKey : Bytes) : Server :=
  { host, port, protocol := .tcp, role := .operations, publicKey }

/-- The text that is dialed. -/
def address (s : Server) : String :=
  s.host ++ ":" ++ toString s.port.toNat

def sameEndpoint (a b : Server) : Bool :=
  a.host == b.host && a.port == b.port

theorem sameEndpoint_iff {a b : Server} :
    a.sameEndpoint b = true ↔ a.host = b.host ∧ a.port = b.port := by
  simp [sameEndpoint]

theorem sameEndpoint_refl (a : Server) : a.sameEndpoint a = true := by
  simp [sameEndpoint]

theorem sameEndpoint_symm {a b : Server} (h : a.sameEndpoint b = true) :
    b.sameEndpoint a = true := by
  obtain ⟨hHost, hPort⟩ := sameEndpoint_iff.mp h
  exact sameEndpoint_iff.mpr ⟨hHost.symm, hPort.symm⟩

theorem sameEndpoint_trans {a b c : Server} (hab : a.sameEndpoint b = true)
    (hbc : b.sameEndpoint c = true) : a.sameEndpoint c = true := by
  obtain ⟨hHost, hPort⟩ := sameEndpoint_iff.mp hab
  obtain ⟨hHost', hPort'⟩ := sameEndpoint_iff.mp hbc
  exact sameEndpoint_iff.mpr ⟨hHost.trans hHost', hPort.trans hPort'⟩

def text (s : Server) : String :=
  s.address ++ " (" ++ s.role.title ++ ", " ++ s.protocol.text ++ ")"

/-- Every field, of the key only its length. -/
def fieldsText (s : Server) : String :=
  "ServerDescriptor \x7b address: " ++ Text.quoted s.address
    ++ ", protocol: TransportProtocolId \x7b id: " ++ toString s.protocol.id.toNat ++ ", version: "
    ++ toString s.protocol.version.toNat ++ " \x7d, role: " ++ s.role.title
    ++ ", public_key_len: " ++ toString s.publicKey.length ++ " \x7d"

end Server

end DeviceUplink
