import DeviceUplink.Channel.Basic

/-!
# Turns

A turn is the handling of one command: the channel as it is so far and what has occurred. The
operations here are the steps that handling is made of.
-/

namespace DeviceUplink

structure Turn where
  channel : Channel
  /-- What has occurred in this turn, the oldest first. -/
  log : List Occurrence := []

namespace Turn

def note (t : Turn) (occurrence : Occurrence) : Turn :=
  { t with log := t.log ++ [occurrence] }

def update (t : Turn) (f : Channel → Channel) : Turn :=
  { t with channel := f t.channel }

def setPhase (t : Turn) (phase : Phase) : Turn :=
  t.update fun c => { c with phase }

def takeId (t : Turn) : Turn × Nat :=
  (t.update fun c => { c with lastId := c.lastId + 1 }, t.channel.lastId + 1)

def countSent (t : Turn) (now size : Nat) : Turn :=
  t.update fun c => { c with statistics := { c.statistics with
    framesSent := c.statistics.framesSent + 1
    bytesOut := c.statistics.bytesOut + size
    lastFrameOut := some now } }

/-- Writes a frame on the live connection. A frame that has no encoding fails like one that the
socket does not take. -/
def send (host : Host) (t : Turn) (frame : Frame) : Turn × Except ChannelError Unit :=
  match t.channel.connection with
  | none => (t, .error .notConnected)
  | some connection =>
    match frame.encode with
    | .error error => (t.note (.sendFailed connection frame), .error (.frame error))
    | .ok bytes =>
      match host.write t.log frame with
      | .ok () => ((t.countSent host.now bytes.length).note (.sent connection frame), .ok ())
      | .error reason => (t.note (.sendFailed connection frame), .error (.socket reason))

/-- Starts the timer for the next attempt, unless an attempt is already on its way. The channel is
held, so the timer has somebody to tell. -/
def scheduleOpen (t : Turn) (delay : Duration) : Turn :=
  if t.channel.reconnect.isSome || t.channel.attempt.isSome then t
  else
    let (t, timer) := t.takeId
    (t.update fun c => { c with reconnect := some timer }).note (.scheduled timer delay)

def cancelReconnect (t : Turn) : Turn :=
  match t.channel.reconnect with
  | none => t
  | some timer => (t.update fun c => { c with reconnect := none }).note (.cancelled timer)

def farewell : Frame :=
  .disconnect .graceful

/-- Ends the live connection with a farewell, which counts as a frame but not as octets. -/
def closeConnection (host : Host) (t : Turn) : Turn :=
  match t.channel.connection with
  | none => t
  | some connection =>
    let closing := t.update fun c => { c with connection := none }
    let parted :=
      match host.write closing.log farewell with
      | .ok () =>
        (closing.update fun c => { c with statistics := { c.statistics with
          framesSent := c.statistics.framesSent + 1 } }).note (.sent connection farewell)
      | .error _ => closing.note (.sendFailed connection farewell)
    parted.note (.closed connection)

/-- Gives up everything that is under way. -/
def teardown (host : Host) (t : Turn) : Turn :=
  let t := t.cancelReconnect.update fun c =>
    { c with attempt := none, roundTrip := c.roundTrip.reset }
  let t := t.closeConnection host
  if t.channel.phase.isConnected then t.setPhase .closed else t

/-- The network is gone: what happens next is up to the failover. -/
def failNetwork (host : Host) (t : Turn) : Turn :=
  let decision := host.decide t.log .noConnectivity
  let t := t.note (.asked .noConnectivity decision)
  match decision with
  | .noop => t
  | .retry delay => t.scheduleOpen delay
  | .stop => t.note (.fatal .noConnectivity)

/-- Ends what is under way and reports the network or else the server. -/
def failServer (host : Host) (t : Turn) : Turn :=
  let down := t.teardown host
  if down.channel.hasChecker && !host.isOnline down.log then down.failNetwork host
  else
    match down.channel.server with
    | some server => down.note (.serverFailed server)
    | none => down

/-- A session with a fresh key. Without one if the keys do not fit. -/
def makeSession (host : Host) (t : Turn) (server : Server) : Turn :=
  let identity := host.identity t.log
  let key := (host.draw t.log).sessionKey
  match CryptoSession.new host.suite server.publicKey identity.privateKey identity.publicKey
      key with
  | .ok session =>
    (t.update fun c => { c with session := some session }).note (.sessionMade session)
  | .error _ => t.update fun c => { c with session := none }

def canSync (c : Channel) : Bool :=
  c.phase = .opened && c.hasMultiplexer && c.hasDemultiplexer && c.server.isSome
    && c.connection.isSome

/-- Has a request compiled and seals it. -/
def buildSync (host : Host) (t : Turn) (directions : DirectionMap) :
    Turn × Except ChannelError SyncBody :=
  if t.channel.hasMultiplexer then
    match t.channel.session with
    | none => (t, .error (.notBound .cryptoSession))
    | some session =>
      let asked := t.note (.compiled directions)
      match host.compile t.log directions with
      | .error causes => (asked, .error (.multiplexer causes))
      | .ok request =>
        let nonce := (host.draw asked.log).payloadNonce
        (asked, .ok (.encrypted (session.encrypt host.suite nonce request)))
  else (t, .error (.notBound .multiplexer))

/-- Sends a request. One that cannot be sent fails the server; one that cannot be built does not. -/
def sendSync (host : Host) (t : Turn) (directions : DirectionMap) : Turn :=
  match t.buildSync host directions with
  | (built, .error error) => built.note (.syncDropped error)
  | (built, .ok body) =>
    match built.send host (.syncRequest body) with
    | (sent, .ok ()) => sent
    | (sent, .error error) => (sent.note (.syncFailed error)).failServer host

/-- Syncs the transports that are requested. Those not carried are named and left out. -/
def sync (host : Host) (t : Turn) (requested : TransportSet) : Turn :=
  if canSync t.channel then
    let supported := t.channel.supported
    let named := (supported.missing requested).foldl (fun t u => t.note (.unsupported u)) t
    named.sendSync host (supported.restrictTo requested)
  else t

def syncAll (host : Host) (t : Turn) : Turn :=
  if canSync t.channel then t.sendSync host t.channel.supported else t

/-- Hands a payload to the demultiplexer. Without one it is lost. One that cannot be processed is
noted, and the connection goes on. -/
def deliver (host : Host) (t : Turn) (payload : Bytes) : Turn :=
  if t.channel.hasDemultiplexer then
    let given := (t.note .deliveryBegun).note (.delivered payload)
    let digested :=
      match host.digest given.log payload with
      | .ok () => given
      | .error causes => given.note (.deliveryFailed causes)
    digested.note .deliveryEnded
  else t

def recordPong (host : Host) (t : Turn) : Turn :=
  t.update fun c =>
    let (roundTrip, _) := c.roundTrip.processPong host.now
    { c with roundTrip, statistics := { c.statistics with lastRoundTrip := roundTrip.last } }

def perform (host : Host) (t : Turn) : Phase.Effect → Turn
  | .deliver payload => t.deliver host payload
  | .notifyConnected =>
    match t.channel.server with
    | some server => t.note (.serverConnected server)
    | none => t
  | .syncAll => t.syncAll host
  | .sync transports => t.sync host transports
  | .recordPong => t.recordPong host
  | .cleanIdentity => t.note .identityCleaned
  | .close => t.teardown host
  | .serverFailed => t.failServer host

/-- Goes to the next phase and then performs the effects. -/
def input (host : Host) (t : Turn) (i : Phase.Input) : Turn :=
  let (phase, effects) := t.channel.phase.step i
  effects.foldl (perform host) (t.setPhase phase)

/-- The payload of a response in the clear. -/
def openPayload (suite : Suite) (session : Option CryptoSession) (body : SyncBody) :
    Option Bytes :=
  if body.isEncrypted then
    match session with
    | none => none
    | some session => (session.decrypt suite body.payload).toOption
  else some body.payload

/-- What a frame from the server means, if it means anything. -/
def inputOfFrame (suite : Suite) (c : Channel) : Frame → Option Phase.Input
  | .connAck code => some (.connAck code)
  | .syncResponse body => (openPayload suite c.session body).map .response
  | .pingResp => some .pingResp
  | .disconnect reason => some (.disconnect reason)
  | .connect _ | .syncRequest _ | .pingReq => none

def countReceived (t : Turn) (now : Nat) : Turn :=
  t.update fun c => { c with statistics := { c.statistics with
    framesReceived := c.statistics.framesReceived + 1
    lastFrameIn := some now } }

/-- What a server says that ends the connection. -/
def notePart (t : Turn) (connection : Nat) : Phase.Input → Turn
  | .connAck code => if code = .accepted then t else t.note (.refused connection code)
  | .disconnect reason => t.note (.disconnected connection reason)
  | _ => t

def receive (host : Host) (connection : Nat) (t : Turn) (frame : Frame) : Turn :=
  let t := t.countReceived host.now
  match inputOfFrame host.suite t.channel frame with
  | some i => (t.notePart connection i).input host i
  | none => t

/-- Takes in the frames of one read, as long as the connection lives. -/
def receiveAll (host : Host) (connection : Nat) (t : Turn) (frames : List Frame) : Turn :=
  frames.foldl
    (fun t frame =>
      if t.channel.connection = some connection then t.receive host connection frame else t) t

end Turn

end DeviceUplink
