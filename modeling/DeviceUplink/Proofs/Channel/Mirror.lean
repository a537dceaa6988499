import DeviceUplink.Proofs.Channel.Course

/-!
# A channel does not read its books

A channel counts what it sends and receives, notes when, and measures round trips, and it reads
none of this. So one with other books does the same, if its host answers the same. A mirror shows a
turn with other books, and with what was told before.
-/

namespace DeviceUplink

structure Mirror where
  told : List Occurrence := []
  roundTrip : RoundTrip → RoundTrip
  statistics : Statistics → Statistics

namespace Mirror

def channel (m : Mirror) (c : Channel) : Channel :=
  { c with roundTrip := m.roundTrip c.roundTrip, statistics := m.statistics c.statistics }

def turn (m : Mirror) (t : Turn) : Turn :=
  { channel := m.channel t.channel, log := m.told ++ t.log }

/-- The host behind the mirror answers as the one before it, and what is entered into the books
before the mirror is entered behind it. -/
structure Reflects (m : Mirror) (host host' : Host) : Prop where
  suite : host'.suite = host.suite
  identity : ∀ log, host'.identity (m.told ++ log) = host.identity log
  draw : ∀ log, host'.draw (m.told ++ log) = host.draw log
  compile : ∀ log, host'.compile (m.told ++ log) = host.compile log
  digest : ∀ log, host'.digest (m.told ++ log) = host.digest log
  write : ∀ log, host'.write (m.told ++ log) = host.write log
  isOnline : ∀ log, host'.isOnline (m.told ++ log) = host.isOnline log
  decide : ∀ log, host'.decide (m.told ++ log) = host.decide log
  sent : ∀ (s : Statistics) size,
    m.statistics { s with
      framesSent := s.framesSent + 1
      bytesOut := s.bytesOut + size
      lastFrameOut := some host.now } =
    { m.statistics s with
      framesSent := (m.statistics s).framesSent + 1
      bytesOut := (m.statistics s).bytesOut + size
      lastFrameOut := some host'.now }
  parted : ∀ s : Statistics, m.statistics { s with framesSent := s.framesSent + 1 } =
    { m.statistics s with framesSent := (m.statistics s).framesSent + 1 }
  connected : ∀ s : Statistics, m.statistics { s with connections := s.connections + 1 } =
    { m.statistics s with connections := (m.statistics s).connections + 1 }
  shown : ∀ (r : RoundTrip) (s : Statistics), m.statistics { s with lastRoundTrip := r.last } =
    { m.statistics s with lastRoundTrip := (m.roundTrip r).last }
  reset : ∀ r : RoundTrip, m.roundTrip r.reset = (m.roundTrip r).reset
  pinged : ∀ r : RoundTrip,
    m.roundTrip (r.recordPing host.now) = (m.roundTrip r).recordPing host'.now
  ponged : ∀ r : RoundTrip,
    m.roundTrip (r.processPong host.now).1 = ((m.roundTrip r).processPong host'.now).1

section Plain

variable (m : Mirror) (t : Turn)

theorem note (o : Occurrence) : m.turn (t.note o) = (m.turn t).note o := by
  simp [turn, Turn.note]

theorem update {f g : Channel → Channel} (h : ∀ c : Channel, m.channel (f c) = g (m.channel c)) :
    m.turn (t.update f) = (m.turn t).update g := by
  simp [turn, Turn.update, h]

theorem setPhase (phase : Phase) : m.turn (t.setPhase phase) = (m.turn t).setPhase phase := rfl

theorem takeId : (m.turn t).takeId = (m.turn t.takeId.1, t.takeId.2) := rfl

theorem scheduleOpen (delay : Duration) :
    m.turn (t.scheduleOpen delay) = (m.turn t).scheduleOpen delay := by
  have hReconnect : (m.turn t).channel.reconnect = t.channel.reconnect := rfl
  have hAttempt : (m.turn t).channel.attempt = t.channel.attempt := rfl
  simp only [Turn.scheduleOpen, hReconnect, hAttempt]
  split
  · rfl
  · simp only [note]
    rfl

theorem cancelReconnect : m.turn t.cancelReconnect = (m.turn t).cancelReconnect := by
  have hReconnect : (m.turn t).channel.reconnect = t.channel.reconnect := rfl
  simp only [Turn.cancelReconnect, hReconnect]
  cases t.channel.reconnect with
  | none => rfl
  | some timer =>
    simp only [note]
    rfl

theorem canSync : Turn.canSync (m.turn t).channel = Turn.canSync t.channel := rfl

theorem notePart (connection : Nat) (i : Phase.Input) :
    m.turn (t.notePart connection i) = (m.turn t).notePart connection i := by
  cases i with
  | connAck code =>
    simp only [Turn.notePart]
    split
    · rfl
    · exact note m t _
  | disconnect reason => exact note m t _
  | _ => rfl

theorem resume : m.turn t.resume = (m.turn t).resume := by
  have hPhase : (m.turn t).channel.phase = t.channel.phase := rfl
  simp only [Turn.resume, hPhase]
  split
  · rw [scheduleOpen, setPhase]
  · rfl

theorem dial : m.turn t.dial = (m.turn t).dial := by
  have hPhase : (m.turn t).channel.phase = t.channel.phase := rfl
  have hConnection : (m.turn t).channel.connection = t.channel.connection := rfl
  have hAttempt : (m.turn t).channel.attempt = t.channel.attempt := rfl
  have hServer : (m.turn t).channel.server = t.channel.server := rfl
  simp only [Turn.dial, hPhase, hConnection, hAttempt, hServer]
  split
  · rfl
  · cases t.channel.server with
    | none => rfl
    | some server =>
      simp only [note]
      rfl

theorem timerFired (timer : Nat) : m.turn (t.timerFired timer) = (m.turn t).timerFired timer := by
  have hReconnect : (m.turn t).channel.reconnect = t.channel.reconnect := rfl
  simp only [Turn.timerFired, hReconnect]
  split
  · rw [dial]
    rfl
  · rfl

end Plain

namespace Reflects

variable {m : Mirror} {host host' : Host} (h : m.Reflects host host') (t : Turn)

include h

theorem countSent (size : Nat) :
    m.turn (t.countSent host.now size) = (m.turn t).countSent host'.now size := by
  apply m.update t
  intro c
  simp only [channel, h.sent]

theorem send (frame : Frame) :
    (m.turn t).send host' frame = (m.turn (t.send host frame).1, (t.send host frame).2) := by
  have hConnection : (m.turn t).channel.connection = t.channel.connection := rfl
  have hWrite : host'.write (m.turn t).log frame = host.write t.log frame :=
    congrFun (h.write t.log) frame
  simp only [Turn.send, hConnection, hWrite]
  cases t.channel.connection with
  | none => rfl
  | some connection =>
    cases frame.encode with
    | error error => simp only [note]
    | ok bytes =>
      cases host.write t.log frame with
      | ok _ => simp only [note, h.countSent]
      | error reason => simp only [note]

theorem closeConnection : m.turn (t.closeConnection host) = (m.turn t).closeConnection host' := by
  have hConnection : (m.turn t).channel.connection = t.channel.connection := rfl
  have hWrite : host'.write (m.turn t).log Turn.farewell = host.write t.log Turn.farewell :=
    congrFun (h.write t.log) Turn.farewell
  have hParted : ∀ u : Turn,
      m.turn (u.update fun c => { c with statistics := { c.statistics with
        framesSent := c.statistics.framesSent + 1 } }) =
      (m.turn u).update fun c => { c with statistics := { c.statistics with
        framesSent := c.statistics.framesSent + 1 } } := by
    intro u
    apply m.update u
    intro c
    simp only [channel, h.parted]
  simp only [Turn.closeConnection, hConnection, Turn.log_update, hWrite]
  cases t.channel.connection with
  | none => rfl
  | some connection =>
    cases host.write t.log Turn.farewell with
    | ok _ =>
      simp only [note, hParted]
      rfl
    | error reason =>
      simp only [note]
      rfl

theorem teardown : m.turn (t.teardown host) = (m.turn t).teardown host' := by
  have hReset : ∀ c : Channel,
      m.channel { c with attempt := none, roundTrip := c.roundTrip.reset } =
        { m.channel c with attempt := none, roundTrip := (m.channel c).roundTrip.reset } := by
    intro c
    simp only [channel, h.reset]
  simp only [Turn.teardown]
  rw [← m.cancelReconnect, ← m.update _ hReset, ← h.closeConnection]
  generalize Turn.closeConnection _ _ = closed
  have hPhase : (m.turn closed).channel.phase = closed.channel.phase := rfl
  rw [hPhase]
  split
  · rfl
  · rfl

theorem failNetwork : m.turn (t.failNetwork host) = (m.turn t).failNetwork host' := by
  have hDecide : host'.decide (m.turn t).log .noConnectivity = host.decide t.log .noConnectivity :=
    congrFun (h.decide t.log) _
  simp only [Turn.failNetwork, hDecide]
  cases host.decide t.log .noConnectivity with
  | noop => simp only [note]
  | retry delay => simp only [scheduleOpen, note]
  | stop => simp only [note]

theorem failServer : m.turn (t.failServer host) = (m.turn t).failServer host' := by
  simp only [Turn.failServer]
  rw [← h.teardown]
  generalize t.teardown _ = down
  have hChecker : (m.turn down).channel.hasChecker = down.channel.hasChecker := rfl
  have hServer : (m.turn down).channel.server = down.channel.server := rfl
  have hOnline : host'.isOnline (m.turn down).log = host.isOnline down.log := h.isOnline down.log
  simp only [hChecker, hServer, hOnline]
  split
  · exact h.failNetwork down
  · cases down.channel.server with
    | none => rfl
    | some server => exact note m down _

theorem makeSession (server : Server) :
    m.turn (t.makeSession host server) = (m.turn t).makeSession host' server := by
  have hIdentity : host'.identity (m.turn t).log = host.identity t.log := h.identity t.log
  have hDraw : host'.draw (m.turn t).log = host.draw t.log := h.draw t.log
  simp only [Turn.makeSession, hIdentity, hDraw, h.suite]
  split
  · exact note m _ _
  · rfl

theorem buildSync (directions : DirectionMap) :
    (m.turn t).buildSync host' directions =
      (m.turn (t.buildSync host directions).1, (t.buildSync host directions).2) := by
  have hMultiplexer : (m.turn t).channel.hasMultiplexer = t.channel.hasMultiplexer := rfl
  have hSession : (m.turn t).channel.session = t.channel.session := rfl
  have hCompile : host'.compile (m.turn t).log directions = host.compile t.log directions :=
    congrFun (h.compile t.log) directions
  have hDraw : host'.draw ((m.turn t).note (.compiled directions)).log =
      host.draw (t.note (.compiled directions)).log := by
    rw [← note]
    exact h.draw _
  simp only [Turn.buildSync, hMultiplexer, hSession, hCompile, hDraw, h.suite]
  split
  · cases t.channel.session with
    | none => rfl
    | some session =>
      cases host.compile t.log directions with
      | error causes => simp only [note]
      | ok request => simp only [note]
  · rfl

theorem sendSync (directions : DirectionMap) :
    m.turn (t.sendSync host directions) = (m.turn t).sendSync host' directions := by
  simp only [Turn.sendSync]
  rw [h.buildSync]
  rcases t.buildSync host directions with ⟨built, result⟩
  cases result with
  | error error => exact note m built _
  | ok body =>
    simp only
    rw [h.send]
    rcases built.send host (.syncRequest body) with ⟨sent, result⟩
    cases result with
    | ok _ => rfl
    | error error =>
      simp only
      rw [h.failServer, note]

theorem sync (requested : TransportSet) :
    m.turn (t.sync host requested) = (m.turn t).sync host' requested := by
  have hSupported : (m.turn t).channel.supported = t.channel.supported := rfl
  have hNamed : ∀ transports : List Transport,
      m.turn (transports.foldl (fun t u => t.note (.unsupported u)) t) =
        transports.foldl (fun t u => t.note (.unsupported u)) (m.turn t) := by
    intro transports
    induction transports generalizing t with
    | nil => rfl
    | cons transport rest ih =>
      simp only [List.foldl_cons]
      rw [ih (t.note (.unsupported transport)) rfl, note]
  simp only [Turn.sync, canSync, hSupported]
  split
  · rw [h.sendSync, hNamed]
  · rfl

theorem syncAll : m.turn (t.syncAll host) = (m.turn t).syncAll host' := by
  have hSupported : (m.turn t).channel.supported = t.channel.supported := rfl
  simp only [Turn.syncAll, canSync, hSupported]
  split
  · exact h.sendSync t _
  · rfl

theorem deliver (payload : Bytes) :
    m.turn (t.deliver host payload) = (m.turn t).deliver host' payload := by
  have hDemultiplexer : (m.turn t).channel.hasDemultiplexer = t.channel.hasDemultiplexer := rfl
  have hDigest : ∀ u : Turn, host'.digest (m.turn u).log payload = host.digest u.log payload :=
    fun u => congrFun (h.digest u.log) payload
  simp only [Turn.deliver, hDemultiplexer, ← note, hDigest]
  split
  · cases host.digest ((t.note .deliveryBegun).note (.delivered payload)).log payload with
    | ok _ => simp only [note]
    | error causes => simp only [note]
  · rfl

theorem recordPong : m.turn (t.recordPong host) = (m.turn t).recordPong host' := by
  apply m.update t
  intro c
  simp only [channel, h.shown, h.ponged]

theorem perform (effect : Phase.Effect) :
    m.turn (t.perform host effect) = (m.turn t).perform host' effect := by
  cases effect with
  | deliver payload => exact h.deliver t payload
  | notifyConnected =>
    have hServer : (m.turn t).channel.server = t.channel.server := rfl
    simp only [Turn.perform, hServer]
    cases t.channel.server with
    | none => rfl
    | some server => exact note m t _
  | syncAll => exact h.syncAll t
  | sync transports => exact h.sync t transports
  | recordPong => exact h.recordPong t
  | cleanIdentity => exact note m t _
  | close => exact h.teardown t
  | serverFailed => exact h.failServer t

theorem input (i : Phase.Input) : m.turn (t.input host i) = (m.turn t).input host' i := by
  have hPhase : (m.turn t).channel.phase = t.channel.phase := rfl
  simp only [Turn.input, hPhase, ← setPhase]
  rcases t.channel.phase.step i with ⟨phase, effects⟩
  simp only
  generalize t.setPhase phase = t
  induction effects generalizing t with
  | nil => rfl
  | cons effect rest ih =>
    simp only [List.foldl_cons]
    rw [ih, h.perform]

/-- The counting of the frame itself is left to the mirror. -/
theorem receive {u : Turn}
    (hCounted : u.countReceived host'.now = m.turn (t.countReceived host.now))
    (connection : Nat) (frame : Frame) :
    m.turn (t.receive host connection frame) = u.receive host' connection frame := by
  have hInput : ∀ c : Channel,
      Turn.inputOfFrame host'.suite (m.channel c) frame = Turn.inputOfFrame host.suite c frame := by
    intro c
    rw [h.suite]
    cases frame <;> rfl
  simp only [Turn.receive, hCounted]
  generalize t.countReceived host.now = counted
  have hShown : (m.turn counted).channel = m.channel counted.channel := rfl
  rw [hShown, hInput]
  cases Turn.inputOfFrame host.suite counted.channel frame with
  | none => rfl
  | some i =>
    simp only
    rw [h.input, notePart]

theorem readFailed (connection : Nat) (error : ChannelError) :
    m.turn (t.readFailed host connection error) =
      (m.turn t).readFailed host' connection error := by
  have hConnection : (m.turn t).channel.connection = t.channel.connection := rfl
  simp only [Turn.readFailed, hConnection]
  split
  · rw [h.input, note]
  · rfl

theorem ping (connection : Nat) :
    m.turn (t.ping host connection) = (m.turn t).ping host' connection := by
  have hConnection : (m.turn t).channel.connection = t.channel.connection := rfl
  simp only [Turn.ping, hConnection, h.send]
  split
  · rcases t.send host .pingReq with ⟨sent, result⟩
    cases result with
    | ok _ =>
      simp only
      apply m.update sent
      intro c
      simp only [channel, h.pinged]
    | error error =>
      simp only
      rw [h.input, note]
  · rfl

theorem setServer (server : Server) :
    m.turn (t.setServer host server) = (m.turn t).setServer host' server := by
  have hServer : (m.turn t).channel.server = t.channel.server := rfl
  have hPending : (m.turn t).channel.connection = t.channel.connection ∧
      (m.turn t).channel.attempt = t.channel.attempt ∧
      (m.turn t).channel.reconnect = t.channel.reconnect := ⟨rfl, rfl, rfl⟩
  have hPhase : (m.turn t).channel.phase = t.channel.phase := rfl
  have hKeyed : m.turn ((t.makeSession host server).update fun c => { c with server := server }) =
      ((m.turn t).makeSession host' server).update fun c => { c with server := server } := by
    rw [← h.makeSession]
    rfl
  simp only [Turn.setServer, hServer, hPending, hPhase, ← hKeyed]
  split
  · rfl
  · split
    · rfl
    · rw [scheduleOpen, h.teardown]

theorem pause : m.turn (t.pause host) = (m.turn t).pause host' := by
  have hPhase : (m.turn t).channel.phase = t.channel.phase := rfl
  simp only [Turn.pause, hPhase]
  split
  · rfl
  · rw [h.teardown, setPhase]

theorem shutdown : m.turn (t.shutdown host) = (m.turn t).shutdown host' := by
  rw [Turn.shutdown, h.teardown, setPhase]
  rfl

theorem greet (connection : Nat) (connect : Connect) :
    (m.turn t).greet host' connection connect =
      (m.turn (t.greet host connection connect).1, (t.greet host connection connect).2) := by
  have hLive : (m.turn t).update (fun c => { c with connection := some connection }) =
      m.turn (t.update fun c => { c with connection := some connection }) := rfl
  simp only [Turn.greet, hLive, h.send]
  rcases Turn.send host _ (.connect connect) with ⟨sent, result⟩
  cases result with
  | error error => rfl
  | ok _ =>
    simp only [note]
    congr 2
    symm
    apply m.update sent
    intro c
    simp only [channel, h.connected]

theorem establish :
    (m.turn t).establish host' = (m.turn (t.establish host).1, (t.establish host).2) := by
  have hServer : (m.turn t).channel.server = t.channel.server := rfl
  have hMultiplexer : (m.turn t).channel.hasMultiplexer = t.channel.hasMultiplexer := rfl
  have hSettings : (m.turn t).channel.settings = t.channel.settings := rfl
  simp only [Turn.establish, hServer, hMultiplexer, ← h.makeSession]
  cases t.channel.server with
  | none => rfl
  | some server =>
    simp only
    split
    · generalize t.makeSession host server = keyed
      have hSession : (m.turn keyed).channel.session = keyed.channel.session := rfl
      have hSupported : (m.turn keyed).channel.supported = keyed.channel.supported := rfl
      simp only [hSession, hSupported]
      cases keyed.channel.session with
      | none => rfl
      | some session =>
        have hCompile : host'.compile (m.turn keyed).log keyed.channel.supported =
            host.compile keyed.log keyed.channel.supported :=
          congrFun (h.compile keyed.log) _
        have hDraw : ∀ asked : Turn, host'.draw (m.turn asked).log = host.draw asked.log :=
          fun asked => h.draw asked.log
        simp only [hCompile, ← note, hDraw, h.suite, hSettings]
        split
        · rfl
        · simp only [takeId, h.greet]
    · rfl

theorem dialEnded (attempt : Nat) (error? : Option ChannelError) :
    m.turn (t.dialEnded host attempt error?) =
      (m.turn t).dialEnded host' attempt error? := by
  have hAttempt : (m.turn t).channel.attempt = t.channel.attempt := rfl
  have hEnded : (m.turn t).update (fun c => { c with attempt := none }) =
      m.turn (t.update fun c => { c with attempt := none }) := rfl
  simp only [Turn.dialEnded, hAttempt, hEnded]
  split
  · generalize t.update _ = ended
    cases error? with
    | some error =>
      simp only
      rw [h.failServer, note]
    | none =>
      simp only [h.establish]
      rcases ended.establish host with ⟨begun, result⟩
      cases result with
      | ok _ => rfl
      | error error =>
        simp only
        rw [h.failServer, note]
  · rfl

/-- Reads are left out, because they count what they read. -/
theorem obey {command : Command}
    (hRead : ∀ connection frames size, command ≠ .inbound connection frames size) :
    m.turn (t.obey host command) = (m.turn t).obey host' command := by
  cases command with
  | setServer server => exact h.setServer t server
  | bindMultiplexer | bindDemultiplexer | bindChecker => rfl
  | sync transports => exact h.sync t transports
  | syncAll => exact h.syncAll t
  | syncAck transports => exact h.input t _
  | pause => exact h.pause t
  | resume => exact m.resume t
  | shutdown => exact h.shutdown t
  | timerFired timer => exact m.timerFired t timer
  | dialEnded attempt error? => exact h.dialEnded t attempt error?
  | inbound connection frames size => exact absurd rfl (hRead connection frames size)
  | readFailed connection error => exact h.readFailed t connection error
  | keepAliveTick connection => exact h.ping t connection

end Reflects

end Mirror

end DeviceUplink
