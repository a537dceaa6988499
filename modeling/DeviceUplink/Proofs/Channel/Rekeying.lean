import DeviceUplink.Proofs.Channel.Invariant

/-!
# Sessions that are never used

A connection makes its own session. So one that was made while there was none is only ever replaced,
and two channels that differ in nothing but such a session do the same, whatever comes.
-/

namespace DeviceUplink

/-- The same but for the session, and with a connection the same altogether. -/
structure Channel.SameButKey (c d : Channel) : Prop where
  rest : d = { c with session := d.session }
  live : c.connection.isSome = true → d = c

namespace Channel.SameButKey

theorem refl (c : Channel) : c.SameButKey c :=
  ⟨rfl, fun _ => rfl⟩

theorem of_unconnected {c d : Channel} (hRest : d = { c with session := d.session })
    (hConnection : c.connection = none) : c.SameButKey d := by
  refine ⟨hRest, fun hLive => ?_⟩
  rw [hConnection] at hLive
  cases hLive

end Channel.SameButKey

structure Turn.SameButKey (t u : Turn) : Prop where
  channel : t.channel.SameButKey u.channel
  log : u.log = t.log

namespace Turn

def rekey (session : Option CryptoSession) (t : Turn) : Turn :=
  t.update fun c => { c with session }

theorem SameButKey.refl (t : Turn) : t.SameButKey t :=
  ⟨.refl t.channel, rfl⟩

theorem sameButKey_rekey {t : Turn} (h : t.channel.connection = none)
    (session : Option CryptoSession) : t.SameButKey (t.rekey session) :=
  ⟨.of_unconnected rfl h, rfl⟩

variable (host : Host) (session : Option CryptoSession) (t : Turn)

theorem note_rekey (o : Occurrence) : (t.rekey session).note o = (t.note o).rekey session := rfl

theorem teardown_rekey : (t.rekey session).teardown host = (t.teardown host).rekey session := by
  simp only [teardown_eq]
  rfl

theorem scheduleOpen_rekey (delay : Duration) :
    (t.rekey session).scheduleOpen delay = (t.scheduleOpen delay).rekey session := by
  have hReconnect : (t.rekey session).channel.reconnect = t.channel.reconnect := rfl
  have hAttempt : (t.rekey session).channel.attempt = t.channel.attempt := rfl
  simp only [scheduleOpen, hReconnect, hAttempt]
  split
  · rfl
  · rfl

theorem failNetwork_rekey :
    (t.rekey session).failNetwork host = (t.failNetwork host).rekey session := by
  have hLog : (t.rekey session).log = t.log := rfl
  simp only [failNetwork, hLog, note_rekey]
  cases host.decide t.log .noConnectivity with
  | noop => rfl
  | retry delay => exact scheduleOpen_rekey session _ delay
  | stop => rfl

theorem failServer_rekey :
    (t.rekey session).failServer host = (t.failServer host).rekey session := by
  simp only [failServer, teardown_rekey]
  generalize t.teardown host = down
  have hChecker : (down.rekey session).channel.hasChecker = down.channel.hasChecker := rfl
  have hServer : (down.rekey session).channel.server = down.channel.server := rfl
  have hLog : (down.rekey session).log = down.log := rfl
  simp only [hChecker, hServer, hLog]
  split
  · exact failNetwork_rekey host session down
  · cases down.channel.server with
    | none => rfl
    | some server => rfl

/-- The session that was there does not count for the one that is made. -/
theorem makeSession_rekey (server : Server) :
    (t.rekey session).makeSession host server = t.makeSession host server := by
  cases hNew : t.newSession host server with
  | ok made =>
    have hNew' : (t.rekey session).newSession host server = .ok made := hNew
    rw [makeSession_ok hNew, makeSession_ok hNew']
    rfl
  | error error =>
    have hNew' : (t.rekey session).newSession host server = .error error := hNew
    rw [makeSession_error hNew, makeSession_error hNew']
    rfl

/-- An attempt that does not come to a session leaves the one that was there. -/
theorem establish_rekey :
    (t.rekey session).establish host = t.establish host ∨
      ∃ error, t.establish host = (t, .error error) ∧
        (t.rekey session).establish host = (t.rekey session, .error error) := by
  have hServer : (t.rekey session).channel.server = t.channel.server := rfl
  have hMultiplexer : (t.rekey session).channel.hasMultiplexer = t.channel.hasMultiplexer := rfl
  have hSettings : (t.rekey session).channel.settings = t.channel.settings := rfl
  simp only [establish, hServer, hMultiplexer, hSettings, makeSession_rekey]
  cases t.channel.server with
  | none => exact .inr ⟨_, rfl, rfl⟩
  | some server =>
    cases t.channel.hasMultiplexer with
    | false => exact .inr ⟨_, rfl, rfl⟩
    | true => exact .inl rfl

variable {host t} (hConnection : t.channel.connection = none)

include hConnection

theorem sameButKey_setServer (server : Server) :
    (t.setServer host server).SameButKey ((t.rekey session).setServer host server) := by
  have hServer : (t.rekey session).channel.server = t.channel.server := rfl
  have hPending : (t.rekey session).channel.connection = t.channel.connection ∧
      (t.rekey session).channel.attempt = t.channel.attempt ∧
      (t.rekey session).channel.reconnect = t.channel.reconnect := ⟨rfl, rfl, rfl⟩
  have hPhase : (t.rekey session).channel.phase = t.channel.phase := rfl
  simp only [setServer, hServer, hPending, hPhase, makeSession_rekey]
  split
  · exact sameButKey_rekey (t := t.update fun c => { c with server := some server }) hConnection
      session
  · exact .refl _

theorem sameButKey_dialEnded (attempt : Nat) (error? : Option ChannelError) :
    (t.dialEnded host attempt error?).SameButKey
      ((t.rekey session).dialEnded host attempt error?) := by
  have hAttempt : (t.rekey session).channel.attempt = t.channel.attempt := rfl
  have hEnded : (t.rekey session).update (fun c => { c with attempt := none }) =
      (t.update fun c => { c with attempt := none }).rekey session := rfl
  have hFailed : ∀ failed : Turn,
      (failed.failServer host).SameButKey ((failed.rekey session).failServer host) := by
    intro failed
    rw [failServer_rekey]
    exact sameButKey_rekey (unlinked_failServer host failed).1 session
  simp only [dialEnded, hAttempt, hEnded]
  split
  · generalize t.update _ = ended
    cases error? with
    | some error => exact hFailed (ended.note _)
    | none =>
      rcases establish_rekey host session ended with hSame | ⟨error, hStuck, hStuck'⟩
      · rw [hSame]
        exact .refl _
      · rw [hStuck, hStuck']
        exact hFailed (ended.note _)
  · exact sameButKey_rekey hConnection session

end Turn

namespace Channel

variable {host : Host} {c d : Channel}

/-- What is for a live connection does nothing without one. -/
theorem Settled.obey_talk (h : c.Settled) (hConnection : c.connection = none) {command : Command}
    (hTalk : command.isTalk = true) (hRunning : c.phase ≠ .shutdown) :
    Turn.obey host { channel := c } command = { channel := c } := by
  have hDeed : Deed host c command _ := h.deed_obey hRunning command
  generalize Turn.obey host { channel := c } command = after at hDeed
  cases hDeed with
  | nothing => rfl
  | live _ hLive =>
    rw [hConnection] at hLive
    cases hLive
  | _ => cases hTalk

theorem SameButKey.settled (h : c.SameButKey d) (hc : c.Settled) : d.Settled := by
  cases hConnection : c.connection with
  | some connection =>
    rw [h.live (Option.isSome_of_eq_some hConnection)]
    exact hc
  | none =>
    rw [h.rest]
    exact { hc with equipped := by simp [hConnection] }

theorem Settled.sameButKey_obey (h : c.Settled) (hConnection : c.connection = none)
    (hRunning : c.phase ≠ .shutdown) (host : Host) (session : Option CryptoSession)
    (command : Command) :
    (Turn.obey host { channel := c } command).SameButKey
      (Turn.obey host { channel := { c with session } } command) := by
  have hRekey : ∀ t : Turn, t.channel.connection = none → t.SameButKey (t.rekey session) :=
    fun t hNone => Turn.sameButKey_rekey hNone session
  have hSame : c.SameButKey { c with session } := .of_unconnected rfl hConnection
  have hRekeyed : Settled { c with session } := hSame.settled h
  have hLeave : ∀ phase, ((Turn.setPhase { channel := c } phase).teardown host).SameButKey
      ((Turn.setPhase { channel := { c with session } } phase).teardown host) := by
    intro phase
    have hTeardown := Turn.teardown_rekey host session (Turn.setPhase { channel := c } phase)
    exact hTeardown ▸ hRekey _ (Turn.connection_teardown host _)
  have hDial : ∀ server? : Option Server,
      (server?.elim { channel := { c with reconnect := none } } (Turn.dialing c)).SameButKey
        (server?.elim { channel := { c with session, reconnect := none } }
          (Turn.dialing { c with session })) := by
    intro server?
    cases server? with
    | none => exact hRekey { channel := { c with reconnect := none } } hConnection
    | some server => exact hRekey (Turn.dialing c server) hConnection
  cases command with
  | setServer server =>
    exact Turn.sameButKey_setServer (t := { channel := c }) session hConnection server
  | bindMultiplexer => exact hRekey { channel := { c with hasMultiplexer := true } } hConnection
  | bindDemultiplexer => exact hRekey { channel := { c with hasDemultiplexer := true } } hConnection
  | bindChecker => exact hRekey { channel := { c with hasChecker := true } } hConnection
  | timerFired timer =>
    by_cases hTimer : c.reconnect = some timer
    · simp only [Turn.obey, h.timerFired_eq hTimer, hRekeyed.timerFired_eq hTimer]
      exact hDial c.server
    · simp only [Turn.obey, Turn.timerFired, hTimer, if_false]
      exact ⟨hSame, rfl⟩
  | dialEnded attempt error? =>
    exact Turn.sameButKey_dialEnded (t := { channel := c }) session hConnection attempt error?
  | pause =>
    simp only [Turn.obey, Turn.pause]
    split
    · exact ⟨hSame, rfl⟩
    · exact hLeave .paused
  | shutdown => exact hLeave .shutdown
  | resume =>
    simp only [Turn.obey, Turn.resume]
    split
    · next hPaused =>
      obtain ⟨_, hAttempt, hReconnect⟩ := h.nothing_under_way (.inl hPaused)
      rw [Turn.scheduleOpen_eq _ (by exact hReconnect) (by exact hAttempt),
        Turn.scheduleOpen_eq _ (by exact hReconnect) (by exact hAttempt)]
      exact hRekey ((Turn.setPhase { channel := c } .closed).withTimer .zero) hConnection
    · exact ⟨hSame, rfl⟩
  | sync | syncAll | syncAck | inbound | readFailed | keepAliveTick =>
    rw [h.obey_talk hConnection rfl hRunning, hRekeyed.obey_talk hConnection rfl hRunning]
    exact ⟨hSame, rfl⟩

/-- Channels that are the same but for the session do the same and stay so. -/
theorem SameButKey.handle (h : c.SameButKey d) (hc : c.Settled) (host : Host) (command : Command) :
    (c.handle host command).1.SameButKey (d.handle host command).1 ∧
      (d.handle host command).2 = (c.handle host command).2 := by
  cases hConnection : c.connection with
  | some connection =>
    obtain rfl := h.live (Option.isSome_of_eq_some hConnection)
    exact ⟨.refl _, rfl⟩
  | none =>
    have hRest := h.rest
    generalize d.session = session at hRest
    subst hRest
    by_cases hPhase : c.phase = .shutdown
    · rw [handle_of_shutdown hPhase, handle_of_shutdown (by exact hPhase)]
      exact ⟨h, rfl⟩
    · rw [handle_eq hPhase, handle_eq (by exact hPhase)]
      obtain ⟨hChannel, hLog⟩ := hc.sameButKey_obey hConnection hPhase host session command
      exact ⟨hChannel, hLog⟩

theorem SameButKey.run (h : c.SameButKey d) (hc : c.Settled) (commands : List (Host × Command)) :
    (c.run commands).1.SameButKey (d.run commands).1 ∧ (d.run commands).2 = (c.run commands).2 := by
  induction commands generalizing c d with
  | nil => exact ⟨h, rfl⟩
  | cons command rest ih =>
    obtain ⟨hNext, hLog⟩ := h.handle hc command.1 command.2
    obtain ⟨hLast, hMore⟩ := ih hNext (settled_handle command.1 hc command.2)
    rw [run_cons, run_cons, hLog, hMore]
    exact ⟨hLast, rfl⟩

end Channel

end DeviceUplink
