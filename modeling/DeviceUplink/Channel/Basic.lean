import DeviceUplink.Channel.Handshake
import DeviceUplink.Channel.Phase
import DeviceUplink.Failover.Policy
import DeviceUplink.Frame.Assembler
import DeviceUplink.Frame.Encoding
import DeviceUplink.KeepAlive

/-!
# Operation channels

A channel keeps one encrypted connection to a server. It is a state that takes in one command at a
time; what it does to the world is a list of occurrences, and what the world answers meanwhile
comes from a host. Connections, dial attempts and timers have identifiers that are never used
again, so what arrives late is told from what is expected.

Throughout a run somebody holds a handle of the channel, over which its timers, dial attempts and
connections can send it their commands. A channel whose last handle is given up starts none of
these any more; that case is left out.
-/

namespace DeviceUplink

structure ChannelSettings where
  id : String := "default_operation_tcp_channel"
  /-- Seconds, as told to the server; pings go out twice as often. -/
  keepAlive : UInt16 := 200
  connectTimeout : Duration := .ofSeconds 10
  readBufferSize : Nat := 1024
  /-- The largest frame body that is taken from the server. -/
  maxFrameSize : Nat := Assembler.defaultLimit
deriving DecidableEq

/-- Instants are those of the host's clock. -/
structure Statistics where
  bytesIn : Nat := 0
  /-- Octets of all frames but the farewells. -/
  bytesOut : Nat := 0
  framesReceived : Nat := 0
  framesSent : Nat := 0
  connections : Nat := 0
  lastFrameIn : Option Nat := none
  lastFrameOut : Option Nat := none
  lastRoundTrip : Option Duration := none
deriving DecidableEq

structure Channel where
  settings : ChannelSettings
  supported : DirectionMap
  phase : Phase := .closed
  server : Option Server := none
  session : Option CryptoSession := none
  hasMultiplexer : Bool := false
  hasDemultiplexer : Bool := false
  hasChecker : Bool := false
  connection : Option Nat := none
  /-- The dial attempt in flight. -/
  attempt : Option Nat := none
  /-- The timer that will start the next attempt. -/
  reconnect : Option Nat := none
  lastId : Nat := 0
  roundTrip : RoundTrip := {}
  statistics : Statistics := {}

inductive Command
  | setServer (server : Server)
  | bindMultiplexer
  | bindDemultiplexer
  | bindChecker
  | sync (transports : TransportSet)
  | syncAll
  /-- The application has taken in these transports. -/
  | syncAck (transports : TransportSet)
  | pause
  | resume
  | shutdown
  | timerFired (timer : Nat)
  /-- A dial attempt has ended, with an error or with a connection. -/
  | dialEnded (attempt : Nat) (error? : Option ChannelError)
  /-- One read of `size` octets completed these frames. -/
  | inbound (connection : Nat) (frames : List Frame) (size : Nat)
  | readFailed (connection : Nat) (error : ChannelError)
  | keepAliveTick (connection : Nat)

/-- What a channel does, and what it finds out about its attempt or connection. -/
inductive Occurrence
  | sessionMade (session : CryptoSession)
  | compiled (directions : DirectionMap)
  /-- A sync names a transport that the channel does not carry. -/
  | unsupported (transport : Transport)
  /-- There is no request to be sent for a sync. -/
  | syncDropped (error : ChannelError)
  | sent (connection : Nat) (frame : Frame)
  | sendFailed (connection : Nat) (frame : Frame)
  | scheduled (timer : Nat) (delay : Duration)
  | cancelled (timer : Nat)
  | dialed (attempt : Nat) (server : Server)
  | dialFailed (attempt : Nat) (error : ChannelError)
  /-- The dial succeeded, but no session could be started. -/
  | sessionFailed (attempt : Nat) (error : ChannelError)
  /-- Reading and keep-alive start on a connection. -/
  | started (connection : Nat)
  | readFailed (connection : Nat) (error : ChannelError)
  | pingFailed (connection : Nat) (error : ChannelError)
  | syncFailed (error : ChannelError)
  /-- The server does not accept the session. -/
  | refused (connection : Nat) (code : ReturnCode)
  /-- The server takes its leave. -/
  | disconnected (connection : Nat) (reason : DisconnectReason)
  /-- Reading, keep-alive and sending end on a connection. -/
  | closed (connection : Nat)
  | deliveryBegun
  | delivered (payload : Bytes)
  /-- The demultiplexer cannot process what it has been given; the causes, the outermost first. -/
  | deliveryFailed (causes : List String)
  | deliveryEnded
  | identityCleaned
  | serverConnected (server : Server)
  | serverFailed (server : Server)
  | asked (status : FailoverStatus) (decision : FailoverDecision)
  | fatal (status : FailoverStatus)

structure Identity where
  privateKey : Bytes
  publicKey : Bytes

/-- The world while a channel handles one command. An answer may depend on what has happened in
that command so far. -/
structure Host where
  suite : Suite
  now : Nat
  identity : List Occurrence → Identity
  draw : List Occurrence → Fresh
  compile : List Occurrence → DirectionMap → Compiled
  /-- Processes a payload, or says why the demultiplexer fails. -/
  digest : List Occurrence → Bytes → Except (List String) Unit
  /-- Writes a frame, or says why the socket fails. -/
  write : List Occurrence → Frame → Except String Unit
  isOnline : List Occurrence → Bool
  decide : List Occurrence → FailoverStatus → FailoverDecision

end DeviceUplink
