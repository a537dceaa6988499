import DeviceUplink.Failover.Ledger

/-!
# Advisers

Who answers the questions about failures: a fixed decision, or a ledger under its policy.
-/

namespace DeviceUplink

inductive FailoverAdviser
  | fixed (decision : FailoverDecision)
  | ledger (book : FailoverLedger)

namespace FailoverAdviser

def decision (a : FailoverAdviser) (status : FailoverStatus) : FailoverDecision :=
  match a with
  | fixed decision => decision
  | ledger book => (book.decide status).2

def asked (a : FailoverAdviser) (status : FailoverStatus) : FailoverAdviser :=
  match a with
  | fixed decision => fixed decision
  | ledger book => .ledger (book.decide status).1

def serverConnected (a : FailoverAdviser) (server : Server) : FailoverAdviser :=
  match a with
  | fixed decision => fixed decision
  | ledger book => .ledger (book.serverConnected server)

/-- Takes in a failure. The second part says whether the server is to be rotated out, which only
a ledger asks for. -/
def serverFailed (a : FailoverAdviser) (now : Nat) (server : Server) : FailoverAdviser × Bool :=
  match a with
  | fixed decision => (fixed decision, false)
  | ledger book =>
    let (next, signal) := book.serverFailed now server
    (.ledger next, signal)

end FailoverAdviser

end DeviceUplink
