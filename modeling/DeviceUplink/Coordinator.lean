import DeviceUplink.Failover.Adviser
import DeviceUplink.Switchboard.Handling

/-!
# Coordinators

A switchboard and the failover adviser that it asks. Failures go to the adviser, and its signals
wait in a queue until the switchboard takes them.
-/

namespace DeviceUplink

structure Coordinator (Checker : Type) where
  board : Switchboard Checker := {}
  adviser : FailoverAdviser
  /-- Servers to be rotated out, the oldest signal first. -/
  signals : List Server := []

namespace Coordinator

inductive Event (Checker : Type)
  | request (r : Request Checker)
  /-- A channel reports a server, at this instant. -/
  | serverFailed (now : Nat) (server : Server)
  | serverConnected (server : Server)
  | asked (status : FailoverStatus)
  | takeSignal

variable {Checker : Type}

def start (policy : FailoverPolicy) : Coordinator Checker :=
  { adviser := .ledger { policy } }

/-- The adviser remembers that it was asked. -/
def noteAsked (a : FailoverAdviser) : Notice Checker → FailoverAdviser
  | .asked status _ => a.asked status
  | _ => a

def request (c : Coordinator Checker) (r : Request Checker) :
    Coordinator Checker × List (Notice Checker) :=
  let (board, notices) := c.board.handle c.adviser.decision r
  ({ c with board, adviser := notices.foldl noteAsked c.adviser }, notices)

def signal (c : Coordinator Checker) (server : Server) : Coordinator Checker :=
  { c with signals := c.signals ++ [server] }

def serverFailed (c : Coordinator Checker) (now : Nat) (server : Server) :
    Coordinator Checker :=
  let (adviser, isSignalled) := c.adviser.serverFailed now server
  let next := { c with adviser }
  if isSignalled then next.signal server else next

def serverConnected (c : Coordinator Checker) (server : Server) : Coordinator Checker :=
  { c with adviser := c.adviser.serverConnected server }

def asked (c : Coordinator Checker) (status : FailoverStatus) : Coordinator Checker :=
  { c with adviser := c.adviser.asked status }

/-- The switchboard takes the oldest signal. -/
def takeSignal (c : Coordinator Checker) : Coordinator Checker × List (Notice Checker) :=
  match c.signals with
  | [] => (c, [])
  | server :: rest => { c with signals := rest }.request (.serverFailed server)

def handle (c : Coordinator Checker) : Event Checker → Coordinator Checker × List (Notice Checker)
  | .request r => c.request r
  | .serverFailed now server => (c.serverFailed now server, [])
  | .serverConnected server => (c.serverConnected server, [])
  | .asked status => (c.asked status, [])
  | .takeSignal => c.takeSignal

def run (c : Coordinator Checker) : List (Event Checker) →
    Coordinator Checker × List (Notice Checker)
  | [] => (c, [])
  | event :: rest =>
    let (next, notices) := c.handle event
    let (last, more) := next.run rest
    (last, notices ++ more)

end Coordinator

end DeviceUplink
