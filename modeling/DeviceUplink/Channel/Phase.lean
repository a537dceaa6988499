import DeviceUplink.Frame.Basic
import DeviceUplink.Transport

/-!
# Phases of a channel

The phase of a channel, what can happen to it on a live connection, and what the channel then has
to do. `Phase.step` is the whole table.
-/

namespace DeviceUplink

inductive Phase
  | closed
  /-- CONNECT is sent and nothing has confirmed the session. -/
  | connecting
  | opened
  /-- Suspended until resumed. -/
  | paused
  | shutdown
deriving DecidableEq, Repr

namespace Phase

/-- A live connection belongs to this phase. -/
def isConnected : Phase → Bool
  | connecting | opened => true
  | closed | paused | shutdown => false

def all : List Phase :=
  [closed, connecting, opened, paused, shutdown]

def title : Phase → String
  | closed => "Closed"
  | connecting => "Connecting"
  | opened => "Opened"
  | paused => "Paused"
  | shutdown => "Shutdown"

inductive Input
  | connAck (code : ReturnCode)
  /-- A response, in the clear. -/
  | response (payload : Bytes)
  | pingResp
  | disconnect (reason : DisconnectReason)
  /-- The stream failed or ended, or a send failed. -/
  | connectionLost
  /-- The application has taken in these transports. -/
  | syncAck (transports : TransportSet)
deriving DecidableEq

inductive Effect
  | deliver (payload : Bytes)
  | notifyConnected
  | syncAll
  | sync (transports : TransportSet)
  | recordPong
  | cleanIdentity
  /-- Close the connection and tell nobody. -/
  | close
  /-- Close the connection and report the server. -/
  | serverFailed
deriving DecidableEq

/-- The next phase and the effects, in order. Without a connection no input means anything. -/
def step (phase : Phase) (input : Input) : Phase × List Effect :=
  if phase.isConnected then
    match input with
    | .connAck .accepted => (phase, [])
    | .connAck .refuseBadCredentials => (closed, [.cleanIdentity, .serverFailed])
    | .connAck _ => (closed, [.serverFailed])
    | .response payload =>
      if phase = connecting then (opened, [.deliver payload, .notifyConnected, .syncAll])
      else (opened, [.deliver payload])
    | .pingResp => (phase, [.recordPong])
    | .disconnect .graceful => (closed, [.close])
    | .disconnect _ => (closed, [.serverFailed])
    | .connectionLost => (closed, [.serverFailed])
    | .syncAck transports =>
      if phase = connecting then (opened, [.notifyConnected, .syncAll])
      else if transports.size = 1 then (opened, [.sync transports])
      else (opened, [.syncAll])
  else (phase, [])

def run (phase : Phase) : List Input → Phase × List Effect
  | [] => (phase, [])
  | input :: rest =>
    let (next, effects) := phase.step input
    let (last, more) := run next rest
    (last, effects ++ more)

end Phase

end DeviceUplink
