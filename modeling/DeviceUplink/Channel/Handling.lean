import DeviceUplink.Channel.Turn

/-!
# Handling of commands

`Channel.handle` takes a channel through one command and `Channel.run` through many. A command for
a connection, an attempt or a timer that is not the present one changes nothing. A dial attempt and
a connection can always be started, as the channel is held by somebody while it handles commands.
-/

namespace DeviceUplink

namespace Turn

/-- Goes over to another server. A connection, attempt or timer for the same endpoint goes on, and
new keys count from the next session. -/
def setServer (host : Host) (t : Turn) (server : Server) : Turn :=
  let c := t.channel
  let isSame := c.server.any fun old => old.sameEndpoint server
  let isPending := c.connection.isSome || c.attempt.isSome || c.reconnect.isSome
  if isSame && isPending then t.update fun c => { c with server := some server }
  else
    let keyed := (t.makeSession host server).update fun c => { c with server := some server }
    if c.phase = .paused then keyed
    else (keyed.teardown host).scheduleOpen .zero

def pause (host : Host) (t : Turn) : Turn :=
  if t.channel.phase = .paused then t else (t.setPhase .paused).teardown host

def resume (t : Turn) : Turn :=
  if t.channel.phase = .paused then (t.setPhase .closed).scheduleOpen .zero else t

def shutdown (host : Host) (t : Turn) : Turn :=
  (t.setPhase .shutdown).teardown host

/-- Dials the server, unless that is not wanted now. -/
def dial (t : Turn) : Turn :=
  let c := t.channel
  if c.phase = .paused || c.connection.isSome || c.attempt.isSome then t
  else
    match c.server with
    | none => t
    | some server =>
      let (t, attempt) := t.takeId
      (t.update fun c => { c with attempt := some attempt }).note (.dialed attempt server)

def timerFired (t : Turn) (timer : Nat) : Turn :=
  if t.channel.reconnect = some timer then
    (t.update fun c => { c with reconnect := none }).dial
  else t

/-- Opens a connection with CONNECT. -/
def greet (host : Host) (t : Turn) (connection : Nat) (connect : Connect) :
    Turn × Except ChannelError Unit :=
  let live := t.update fun c => { c with connection := some connection }
  match live.send host (.connect connect) with
  | (sent, .error error) => (sent, .error error)
  | (sent, .ok ()) =>
    let begun := sent.update fun c => { c with
      phase := .connecting
      statistics := { c.statistics with connections := c.statistics.connections + 1 } }
    (begun.note (.started connection), .ok ())

def establish (host : Host) (t : Turn) : Turn × Except ChannelError Unit :=
  match t.channel.server with
  | none => (t, .error (.notBound .server))
  | some server =>
    if t.channel.hasMultiplexer then
      let keyed := t.makeSession host server
      match keyed.channel.session with
      | none => (keyed, .error (.notBound .cryptoSession))
      | some session =>
        let asked := keyed.note (.compiled keyed.channel.supported)
        let compiled := host.compile keyed.log keyed.channel.supported
        let fresh := host.draw asked.log
        match Connect.ofCompiled host.suite session t.channel.settings.keepAlive fresh compiled with
        | .error error => (asked, .error error)
        | .ok connect =>
          let (numbered, connection) := asked.takeId
          numbered.greet host connection connect
    else (t, .error (.notBound .multiplexer))

def dialEnded (host : Host) (t : Turn) (attempt : Nat) (error? : Option ChannelError) : Turn :=
  if t.channel.attempt = some attempt then
    let ended := t.update fun c => { c with attempt := none }
    match error? with
    | some error => (ended.note (.dialFailed attempt error)).failServer host
    | none =>
      match ended.establish host with
      | (begun, .ok ()) => begun
      | (stuck, .error error) => (stuck.note (.sessionFailed attempt error)).failServer host
  else t

def countBytes (t : Turn) (size : Nat) : Turn :=
  t.update fun c => { c with statistics := { c.statistics with
    bytesIn := c.statistics.bytesIn + size } }

def inbound (host : Host) (t : Turn) (connection : Nat) (frames : List Frame) (size : Nat) :
    Turn :=
  if t.channel.connection = some connection then
    (t.countBytes size).receiveAll host connection frames
  else t

def readFailed (host : Host) (t : Turn) (connection : Nat) (error : ChannelError) : Turn :=
  if t.channel.connection = some connection then
    (t.note (.readFailed connection error)).input host .connectionLost
  else t

/-- Sends a ping. One that cannot be sent ends the connection. -/
def ping (host : Host) (t : Turn) (connection : Nat) : Turn :=
  if t.channel.connection = some connection then
    match t.send host .pingReq with
    | (sent, .ok ()) =>
      sent.update fun c => { c with roundTrip := c.roundTrip.recordPing host.now }
    | (sent, .error error) =>
      (sent.note (.pingFailed connection error)).input host .connectionLost
  else t

def obey (host : Host) (t : Turn) : Command → Turn
  | .setServer server => t.setServer host server
  | .bindMultiplexer => t.update fun c => { c with hasMultiplexer := true }
  | .bindDemultiplexer => t.update fun c => { c with hasDemultiplexer := true }
  | .bindChecker => t.update fun c => { c with hasChecker := true }
  | .sync transports => t.sync host transports
  | .syncAll => t.syncAll host
  | .syncAck transports => t.input host (.syncAck transports)
  | .pause => t.pause host
  | .resume => t.resume
  | .shutdown => t.shutdown host
  | .timerFired timer => t.timerFired timer
  | .dialEnded attempt error? => t.dialEnded host attempt error?
  | .inbound connection frames size => t.inbound host connection frames size
  | .readFailed connection error => t.readFailed host connection error
  | .keepAliveTick connection => t.ping host connection

end Turn

namespace Channel

def start (settings : ChannelSettings) (supported : DirectionMap) : Channel :=
  { settings, supported }

/-- Handles one command. A channel that is shut down takes in nothing any more. -/
def handle (host : Host) (c : Channel) (command : Command) : Channel × List Occurrence :=
  if c.phase = .shutdown then (c, [])
  else
    let last := Turn.obey host { channel := c } command
    (last.channel, last.log)

def run (c : Channel) : List (Host × Command) → Channel × List Occurrence
  | [] => (c, [])
  | (host, command) :: rest =>
    let (next, occurrences) := c.handle host command
    let (last, more) := next.run rest
    (last, occurrences ++ more)

end Channel

end DeviceUplink
