import DeviceUplink.Proofs.Channel.Passage

/-!
# The start of a session

A dial that succeeds leads to a live connection or, at one of several points, to none. `Begun`
tells the two apart and says what either leaves of the channel and in the log.
-/

namespace DeviceUplink

def Occurrence.isPrelude : Occurrence → Bool
  | sessionMade _ | compiled _ => true
  | _ => false

theorem Orderly.of_prelude {log : List Occurrence} (h : ∀ o ∈ log, o.isPrelude = true) :
    Orderly log := by
  intro o ho
  have hPrelude := h o ho
  cases o with
  | sessionMade session => rfl
  | compiled directions => rfl
  | _ => cases hPrelude

namespace Turn

def newSession (host : Host) (t : Turn) (server : Server) : Except CryptoError CryptoSession :=
  CryptoSession.new host.suite server.publicKey (host.identity t.log).privateKey
    (host.identity t.log).publicKey (host.draw t.log).sessionKey

theorem makeSession_ok {host : Host} {t : Turn} {server : Server} {session : CryptoSession}
    (h : t.newSession host server = .ok session) :
    t.makeSession host server =
      { channel := { t.channel with session := some session }
        log := t.log ++ [.sessionMade session] } := by
  unfold newSession at h
  simp only [makeSession, h]
  rfl

theorem makeSession_error {host : Host} {t : Turn} {server : Server} {error : CryptoError}
    (h : t.newSession host server = .error error) :
    t.makeSession host server =
      { channel := { t.channel with session := none }, log := t.log } := by
  unfold newSession at h
  simp only [makeSession, h]
  rfl

theorem makeSession_eq (host : Host) (t : Turn) (server : Server) :
    ∃ session more, t.makeSession host server =
      { channel := { t.channel with session }, log := t.log ++ more } ∧
      ∀ o ∈ more, o.isPrelude = true := by
  cases hNew : t.newSession host server with
  | ok session =>
    rw [makeSession_ok hNew]
    exact ⟨_, [.sessionMade session], rfl, by simp [Occurrence.isPrelude]⟩
  | error error =>
    rw [makeSession_error hNew]
    exact ⟨none, [], by simp, by simp⟩

end Turn

/-- What is drawn and compiled for the CONNECT of a new connection, from a session that is made for
it alone. -/
structure Greeting (host : Host) (t : Turn) (session : CryptoSession) (connect : Connect) :
    Prop where
  bound : t.channel.hasMultiplexer = true
  made : ∃ server, t.channel.server = some server ∧ t.newSession host server = .ok session
  compiled : ∃ request,
    host.compile (t.log ++ [.sessionMade session]) t.channel.supported = .ok request ∧
      connect = Connect.ofSession host.suite session t.channel.settings.keepAlive
        (host.draw (t.log ++ [.sessionMade session, .compiled t.channel.supported])) request

namespace Turn

def greeted (host : Host) (t : Turn) (session : CryptoSession) (connect : Connect) (size : Nat) :
    Turn :=
  { channel := { t.channel with
      session := some session
      lastId := t.channel.lastId + 1
      connection := some (t.channel.lastId + 1)
      phase := .connecting
      statistics := { t.channel.statistics with
        framesSent := t.channel.statistics.framesSent + 1
        bytesOut := t.channel.statistics.bytesOut + size
        lastFrameOut := some host.now
        connections := t.channel.statistics.connections + 1 } }
    log := t.log ++ [.sessionMade session, .compiled t.channel.supported,
      .sent (t.channel.lastId + 1) (.connect connect), .started (t.channel.lastId + 1)] }

def ungreeted (t : Turn) (session : CryptoSession) : Turn :=
  { channel := { t.channel with
      session := some session
      lastId := t.channel.lastId + 1
      connection := some (t.channel.lastId + 1) }
    log := t.log ++ [.sessionMade session, .compiled t.channel.supported] }

end Turn

/-- A session is started on a new connection, or there is none. What has been made of the channel
by then is torn down with it. -/
inductive Begun (host : Host) (t : Turn) : Turn × Except ChannelError Unit → Prop
  | live {session : CryptoSession} {connect : Connect} {bytes : Bytes}
      (hGreeting : Greeting host t session connect)
      (hBytes : (Frame.connect connect).encode = .ok bytes) :
      Begun host t (t.greeted host session connect bytes.length, .ok ())
  | unready {before : Turn} {session : Option CryptoSession} {more : List Occurrence}
      (error : ChannelError) (hBefore : before =
        { channel := { t.channel with session := session }, log := t.log ++ more })
      (hMore : ∀ o ∈ more, o.isPrelude = true) : Begun host t (before, .error error)
  | unsent (session : CryptoSession) (connect : Connect) (error : ChannelError) :
      Begun host t ((t.ungreeted session).noteAll
        [.sendFailed (t.channel.lastId + 1) (.connect connect)], .error error)

namespace Turn

theorem begun_greet (host : Host) {t : Turn} {session : CryptoSession} {connect : Connect}
    (hGreeting : Greeting host t session connect) :
    Begun host t
      (greet host
        { channel := { t.channel with
            session := some session
            lastId := t.channel.lastId + 1 }
          log := t.log ++ [.sessionMade session, .compiled t.channel.supported] }
        (t.channel.lastId + 1) connect) := by
  have hSend := send_cases (t := t.ungreeted session) host rfl (.connect connect)
  unfold greet
  rcases hSend with ⟨bytes, hBytes, hSend⟩ | ⟨error, hSend, _⟩
  · have hLive := Begun.live hGreeting hBytes
    simp only [ungreeted] at hSend
    simp only [update, hSend]
    simpa [greeted, countSent, update, note] using hLive
  · simp only [ungreeted] at hSend
    simp only [update, hSend]
    exact .unsent session connect error

theorem begun_establish (host : Host) (t : Turn) : Begun host t (t.establish host) := by
  have hUnready : ∀ session error, Begun host t
      ({ channel := { t.channel with session }, log := t.log }, .error error) :=
    fun session error => .unready error (by rw [List.append_nil t.log]) (List.forall_mem_nil _)
  unfold establish
  cases hServer : t.channel.server with
  | none => exact hUnready t.channel.session _
  | some server =>
    by_cases hMultiplexer : t.channel.hasMultiplexer = true
    · simp only
      rw [if_pos hMultiplexer]
      cases hNew : t.newSession host server with
      | error error =>
        rw [makeSession_error hNew]
        exact hUnready none _
      | ok session =>
        rw [makeSession_ok hNew]
        simp only [note, List.append_assoc, List.cons_append, List.nil_append]
        cases hCompile : host.compile (t.log ++ [.sessionMade session]) t.channel.supported with
        | error causes => exact .unready _ rfl (by simp [Occurrence.isPrelude])
        | ok request =>
          exact begun_greet host ⟨hMultiplexer, ⟨server, hServer, hNew⟩, request, hCompile, rfl⟩
    · simp only
      rw [if_neg hMultiplexer]
      exact hUnready t.channel.session _

end Turn

end DeviceUplink
