import DeviceUplink.Switchboard.Basic

/-!
# Handling of requests

`Switchboard.handle` takes a switchboard through one request. After a shutdown no channel is added
and no list moves, but other requests still reach the channels that are there.
-/

namespace DeviceUplink.Switchboard

variable {Checker : Type}

def currentServer? (b : Switchboard Checker) (role : ServerRole) (protocol : Protocol) :
    Option Server :=
  (b.lists role protocol).bind ServerList.current?

def putList (b : Switchboard Checker) (role : ServerRole) (protocol : Protocol)
    (l : ServerList) : Switchboard Checker :=
  { b with lists := fun r p => if r = role ∧ p = protocol then some l else b.lists r p }

def tell (order : Order Checker) (members : List Member) : List (Notice Checker) :=
  members.map fun m => .order m.serial order

/-- Hands a server to the channels of its role and protocol. -/
def applyServer (b : Switchboard Checker) (server : Server) : List (Notice Checker) :=
  tell (.setServer server)
    (b.members.filter fun m => m.role = server.role ∧ m.protocol = server.protocol)

/-- Registers a channel in the place of one with its name or else at the end. -/
def enroll (members : List Member) (member : Member) : List Member :=
  match members.findIdx? fun m => m.id == member.id with
  | some i => members.set i member
  | none => members ++ [member]

/-- What a channel that joins has to hear. -/
def welcome (b : Switchboard Checker) (member : Member) : List (Notice Checker) :=
  let checker := b.checker.toList.map fun c => Notice.order member.serial (.setChecker c)
  let pause := if b.isPaused then [Notice.order member.serial .pause] else []
  let server := (b.currentServer? member.role member.protocol).toList.map fun s =>
    Notice.order member.serial (.setServer s)
  checker ++ pause ++ server

def addChannel (b : Switchboard Checker) (member : Member) :
    Switchboard Checker × List (Notice Checker) :=
  if b.isShutDown then (b, [])
  else ({ b with members := enroll b.members member }, b.welcome member)

def member? (b : Switchboard Checker) (id : String) : Option Member :=
  b.members.find? fun m => m.id == id

def removeChannel (b : Switchboard Checker) (id : String) :
    Switchboard Checker × List (Notice Checker) :=
  match b.member? id with
  | none => (b, [])
  | some member =>
    ({ b with members := b.members.eraseP fun m => m.id == id }, tell .shutdown [member])

/-- The role whose channels carry a transport. -/
def roleFor : Transport → ServerRole
  | .bootstrap => .bootstrap
  | _ => .operations

def carrier? (b : Switchboard Checker) (transport : Transport) : Option Member :=
  b.members.find? fun m => m.role = roleFor transport ∧ m.supported.carries transport

def tellCarrier (b : Switchboard Checker) (transport : Transport) (order : Order Checker) :
    List (Notice Checker) :=
  tell order (b.carrier? transport).toList

def pause (b : Switchboard Checker) : Switchboard Checker × List (Notice Checker) :=
  if b.isPaused then (b, []) else ({ b with isPaused := true }, tell .pause b.members)

def resume (b : Switchboard Checker) : Switchboard Checker × List (Notice Checker) :=
  if b.isPaused then ({ b with isPaused := false }, tell .resume b.members) else (b, [])

def shutdown (b : Switchboard Checker) : Switchboard Checker × List (Notice Checker) :=
  if b.isShutDown then (b, []) else ({ b with isShutDown := true }, tell .shutdown b.members)

def setChecker (b : Switchboard Checker) (checker : Checker) :
    Switchboard Checker × List (Notice Checker) :=
  ({ b with checker := some checker }, tell (.setChecker checker) b.members)

/-- Replaces a list. Its first server is current. -/
def setServers (b : Switchboard Checker) (role : ServerRole) (protocol : Protocol)
    (servers : List Server) : Switchboard Checker × List (Notice Checker) :=
  let next := b.putList role protocol { servers }
  match servers with
  | [] => (next, [])
  | first :: _ => (next, next.applyServer first)

def updateServer (b : Switchboard Checker) (server : Server) :
    Switchboard Checker × List (Notice Checker) :=
  let l := (b.lists server.role server.protocol).getD { servers := [] }
  let next := b.putList server.role server.protocol (l.select server)
  (next, next.applyServer server)

/-- The failover decides what becomes of a list whose servers have all failed. -/
def exhaust (decide : FailoverStatus → FailoverDecision) (role : ServerRole)
    (protocol : Protocol) : List (Notice Checker) :=
  let status := FailoverStatus.exhausted role
  let decision := decide status
  match decision with
  | .noop => [.asked status decision]
  | .retry delay => [.asked status decision, .retryList role protocol delay]
  | .stop => [.asked status decision, .fatal status]

/-- Moves on from a server, if it is the current one of its list. -/
def serverFailed (decide : FailoverStatus → FailoverDecision) (b : Switchboard Checker)
    (server : Server) : Switchboard Checker × List (Notice Checker) :=
  if b.isShutDown then (b, [])
  else
    match b.lists server.role server.protocol with
    | none => (b, [])
    | some l =>
      if l.isCurrent server then
        let moved := { l with place := l.place + 1 }
        let next := b.putList server.role server.protocol moved
        match moved.current? with
        | some successor => (next, next.applyServer successor)
        | none => (next, exhaust decide server.role server.protocol)
      else (b, [])

def restartList (b : Switchboard Checker) (role : ServerRole) (protocol : Protocol) :
    Switchboard Checker × List (Notice Checker) :=
  if b.isShutDown then (b, [])
  else
    match b.lists role protocol with
    | none => (b, [])
    | some l =>
      let next := b.putList role protocol { l with place := 0 }
      match l.servers with
      | [] => (next, [])
      | first :: _ => (next, next.applyServer first)

/-- Handles one request; `decide` answers for the failover. -/
def handle (decide : FailoverStatus → FailoverDecision) (b : Switchboard Checker) :
    Request Checker → Switchboard Checker × List (Notice Checker)
  | .addChannel member => b.addChannel member
  | .removeChannel id => b.removeChannel id
  | .sync transport => (b, b.tellCarrier transport (.sync transport))
  | .syncAck transport => (b, b.tellCarrier transport (.syncAck transport))
  | .syncAll => (b, tell .syncAll b.members)
  | .syncRole role => (b, tell .syncAll (b.members.filter fun m => m.role = role))
  | .pause => b.pause
  | .resume => b.resume
  | .shutdown => b.shutdown
  | .setChecker checker => b.setChecker checker
  | .setServers role protocol servers => b.setServers role protocol servers
  | .updateServer server => b.updateServer server
  | .serverFailed server => serverFailed decide b server
  | .restartList role protocol => b.restartList role protocol

end DeviceUplink.Switchboard
