import DeviceUplink.Failover.Policy
import DeviceUplink.Transport

/-!
# Switchboards

A switchboard knows every channel of a client and, for each role and protocol, an ordered list of
servers of which one is current. It passes requests on to the channels that they concern and moves
a list to its next server when the current one fails. What it tells channels and timers is a list
of notices.

`Checker` is whatever channels ask about the network.
-/

namespace DeviceUplink

/-- A channel as the switchboard sees it. -/
structure Member where
  /-- Tells channels with the same name apart. -/
  serial : Nat
  id : String
  role : ServerRole
  protocol : Protocol
  supported : DirectionMap

/-- Servers of one role and protocol. The list is exhausted when its current place is behind the
last entry. -/
structure ServerList where
  servers : List Server
  place : Nat := 0

namespace ServerList

def current? (l : ServerList) : Option Server :=
  l.servers[l.place]?

def endpointPlace? (l : ServerList) (server : Server) : Option Nat :=
  l.servers.findIdx? fun s => s.sameEndpoint server

/-- Makes a server current. It takes the place of an entry with its endpoint or goes to the end. -/
def select (l : ServerList) (server : Server) : ServerList :=
  match l.endpointPlace? server with
  | some i => { servers := l.servers.set i server, place := i }
  | none => { servers := l.servers ++ [server], place := l.servers.length }

def isCurrent (l : ServerList) (server : Server) : Bool :=
  match l.current? with
  | some s => s.sameEndpoint server
  | none => false

end ServerList

structure Switchboard (Checker : Type) where
  /-- In the order of registration. -/
  members : List Member := []
  lists : ServerRole → Protocol → Option ServerList := fun _ _ => none
  checker : Option Checker := none
  isPaused : Bool := false
  isShutDown : Bool := false

inductive Order (Checker : Type)
  | setServer (server : Server)
  | setChecker (checker : Checker)
  | sync (transport : Transport)
  | syncAll
  | syncAck (transport : Transport)
  | pause
  | resume
  | shutdown
deriving DecidableEq

inductive Notice (Checker : Type)
  | order (serial : Nat) (order : Order Checker)
  | asked (status : FailoverStatus) (decision : FailoverDecision)
  /-- After the delay the list is to be tried from its first server again. -/
  | retryList (role : ServerRole) (protocol : Protocol) (delay : Duration)
  | fatal (status : FailoverStatus)
deriving DecidableEq

inductive Request (Checker : Type)
  | addChannel (member : Member)
  | removeChannel (id : String)
  | sync (transport : Transport)
  | syncAck (transport : Transport)
  | syncAll
  | syncRole (role : ServerRole)
  | pause
  | resume
  | shutdown
  | setChecker (checker : Checker)
  | setServers (role : ServerRole) (protocol : Protocol) (servers : List Server)
  /-- News of a server, which becomes current. -/
  | updateServer (server : Server)
  | serverFailed (server : Server)
  /-- The time to retry a list has come. -/
  | restartList (role : ServerRole) (protocol : Protocol)

/-- The name under which a switchboard reports that it gives up. -/
def switchboardId : String := "channel_manager"

end DeviceUplink
