import DeviceUplink.Proofs.Channel.Establishing
import DeviceUplink.Proofs.Channel.Settled

/-!
# What a command does

`Deed` goes through all that a command can do to a settled channel, case by case and with nothing
left out: the channel and the log are given in full, up to the course that a live connection takes.
Every property of runs comes from these cases.
-/

namespace DeviceUplink

def Command.isDeparture (c : Channel) : Command → Bool
  | .pause | .shutdown => true
  | .setServer server => !c.server.any fun old => old.sameEndpoint server
  | _ => false

def Command.isTalk : Command → Bool
  | .sync _ | .syncAll | .syncAck _ | .inbound _ _ _ | .readFailed _ _ | .keepAliveTick _ => true
  | _ => false

namespace Turn

def keyed (host : Host) (c : Channel) (server : Server) : Turn :=
  (makeSession host { channel := c } server).update fun c => { c with server := some server }

def dialing (c : Channel) (server : Server) : Turn :=
  { channel := { c with
      reconnect := none
      lastId := c.lastId + 1
      attempt := some (c.lastId + 1) }
    log := [.dialed (c.lastId + 1) server] }

theorem keyed_eq (host : Host) (c : Channel) (server : Server) :
    ∃ session more,
      keyed host c server =
        { channel := { c with session := session, server := some server }, log := more } ∧
      ∀ o ∈ more, o.isPrelude = true := by
  obtain ⟨session, more, hMade, hMore⟩ := makeSession_eq host { channel := c } server
  refine ⟨session, more, ?_, hMore⟩
  rw [keyed, hMade]
  rfl

end Turn

inductive Deed (host : Host) (c : Channel) : Command → Turn → Prop
  | nothing (command : Command) : Deed host c command { channel := c }
  | boundMultiplexer : Deed host c .bindMultiplexer { channel := { c with hasMultiplexer := true } }
  | boundDemultiplexer :
      Deed host c .bindDemultiplexer { channel := { c with hasDemultiplexer := true } }
  | boundChecker : Deed host c .bindChecker { channel := { c with hasChecker := true } }
  /-- The same endpoint again, with something under way to it. -/
  | redescribed {old server : Server} (hServer : c.server = some old)
      (hSame : old.sameEndpoint server = true) :
      Deed host c (.setServer server) { channel := { c with server := some server } }
  | rekeyed {server : Server} (hPhase : c.phase = .paused) :
      Deed host c (.setServer server) (Turn.keyed host c server)
  | retargeted {server : Server} (hPhase : c.phase.isConnected = true ∨ c.phase = .closed)
      (hDeparture : c.isLinked = true → Command.isDeparture c (.setServer server) = true) :
      Deed host c (.setServer server)
        (((Turn.keyed host c server).teardown host).withTimer .zero)
  | suspended (hPhase : c.phase ≠ .paused) :
      Deed host c .pause ((Turn.setPhase { channel := c } .paused).teardown host)
  | stopped : Deed host c .shutdown ((Turn.setPhase { channel := c } .shutdown).teardown host)
  | resumed (hPhase : c.phase = .paused) :
      Deed host c .resume ((Turn.setPhase { channel := c } .closed).withTimer .zero)
  | unaimed {timer : Nat} (hTimer : c.reconnect = some timer) (hServer : c.server = none) :
      Deed host c (.timerFired timer) { channel := { c with reconnect := none } }
  | dialed {timer : Nat} {server : Server} (hTimer : c.reconnect = some timer)
      (hServer : c.server = some server) :
      Deed host c (.timerFired timer) (Turn.dialing c server)
  | unreached {attempt : Nat} (error : ChannelError) (hAttempt : c.attempt = some attempt) :
      Deed host c (.dialEnded attempt (some error))
        (Turn.failFor host { channel := { c with attempt := none } } []
          (.dialFailed attempt error))
  | begun {attempt : Nat} {after : Turn} (hAttempt : c.attempt = some attempt)
      (h : Begun host { channel := { c with attempt := none } } (after, .ok ())) :
      Deed host c (.dialEnded attempt none) after
  | stuck {attempt : Nat} {before : Turn} {error : ChannelError}
      (hAttempt : c.attempt = some attempt)
      (h : Begun host { channel := { c with attempt := none } } (before, .error error)) :
      Deed host c (.dialEnded attempt none)
        (before.failFor host [] (.sessionFailed attempt error))
  | live {command : Command} {connection : Nat} {after : Turn} (hTalk : command.isTalk = true)
      (hConnection : c.connection = some connection)
      (h : Course host connection { channel := c } after) : Deed host c command after

theorem Command.isDeparture_of_isTalk {c : Channel} {command : Command}
    (h : command.isTalk = true) : command.isDeparture c = false := by
  cases command <;> first | rfl | cases h

namespace Channel.Settled

variable {c : Channel} {host : Host} (h : c.Settled)

include h

/-- A command that is for a live connection does nothing without one. -/
theorem deed_talk {command : Command} {after : Turn} (hTalk : command.isTalk = true)
    (hNone : c.connection = none → after = { channel := c })
    (hCourse : ∀ connection, c.connection = some connection → c.Equipped →
      Course host connection { channel := c } after) : Deed host c command after := by
  cases hConnection : c.connection with
  | none =>
    rw [hNone hConnection]
    exact .nothing command
  | some connection =>
    have hEquipped := h.equipped (Option.isSome_of_eq_some hConnection)
    exact .live hTalk hConnection (hCourse connection hConnection hEquipped)

/-- An event of one connection does nothing to another. -/
theorem deed_event {command : Command} {after : Turn} {connection : Nat}
    (hTalk : command.isTalk = true)
    (hStale : c.connection ≠ some connection → after = { channel := c })
    (hCourse : c.connection = some connection → c.Equipped →
      Course host connection { channel := c } after) : Deed host c command after := by
  by_cases hConnection : c.connection = some connection
  · have hEquipped := h.equipped (Option.isSome_of_eq_some hConnection)
    exact .live hTalk hConnection (hCourse hConnection hEquipped)
  · rw [hStale hConnection]
    exact .nothing command

omit h in
theorem deed_setServer (server : Server) (hRunning : c.phase ≠ .shutdown) :
    Deed host c (.setServer server) (Turn.setServer host { channel := c } server) := by
  simp only [Turn.setServer]
  split
  · next hSame =>
    obtain ⟨hEndpoint, _⟩ := Bool.and_eq_true_iff.mp hSame
    obtain ⟨old, hServer, hEndpoint⟩ := (Option.any_eq_true _ _).mp hEndpoint
    exact .redescribed hServer hEndpoint
  · next hOther =>
    split
    · next hPaused => exact .rekeyed hPaused
    · next hPaused =>
      rw [Turn.scheduleOpen_teardown]
      refine .retargeted ?_ ?_
      · cases hIs : c.phase <;> simp_all [Phase.isConnected]
      · intro hLinked
        have hPending : (c.connection.isSome || c.attempt.isSome || c.reconnect.isSome) = true := by
          simp_all [isLinked, or_comm]
        simpa [hPending, Command.isDeparture] using hOther

theorem deed_resume : Deed host c .resume (Turn.resume { channel := c }) := by
  simp only [Turn.resume]
  split
  · next hPhase =>
    obtain ⟨_, hAttempt, hReconnect⟩ :=
      h.at_rest (by rw [hPhase]; rfl) (by rw [hPhase]; exact Phase.noConfusion)
    rw [Turn.scheduleOpen_eq _ (by exact hReconnect) (by exact hAttempt)]
    exact .resumed hPhase
  · exact .nothing _

theorem timerFired_eq {timer : Nat} (hTimer : c.reconnect = some timer) :
    Turn.timerFired { channel := c } timer =
      c.server.elim { channel := { c with reconnect := none } } (Turn.dialing c) := by
  obtain ⟨hClosed, hConnection, hAttempt⟩ := h.at_timer (Option.isSome_of_eq_some hTimer)
  cases hServer : c.server <;>
    simp [Turn.timerFired, Turn.dial, hTimer, hServer, hClosed, hConnection, hAttempt,
      Turn.update, Turn.takeId, Turn.note, Turn.dialing]

theorem deed_timerFired (timer : Nat) :
    Deed host c (.timerFired timer) (Turn.timerFired { channel := c } timer) := by
  by_cases hTimer : c.reconnect = some timer
  · rw [h.timerFired_eq hTimer]
    cases hServer : c.server with
    | none => simpa only [hServer, Option.elim_none] using Deed.unaimed hTimer hServer
    | some server => exact .dialed hTimer hServer
  · simp only [Turn.timerFired, hTimer, if_false]
    exact .nothing _

omit h in
theorem deed_dialEnded (attempt : Nat) (error? : Option ChannelError) :
    Deed host c (.dialEnded attempt error?)
      (Turn.dialEnded host { channel := c } attempt error?) := by
  by_cases hAttempt : c.attempt = some attempt
  · simp only [Turn.dialEnded, hAttempt, if_true]
    cases error? with
    | some error =>
      simp only
      rw [Turn.failServer_note host _ rfl]
      exact .unreached error hAttempt
    | none =>
      have hBegun := Turn.begun_establish host { channel := { c with attempt := none } }
      simp only [Turn.update]
      generalize Turn.establish host _ = result at hBegun ⊢
      obtain ⟨after, result⟩ := result
      cases result with
      | ok => exact .begun hAttempt hBegun
      | error error =>
        simp only
        rw [Turn.failServer_note host _ rfl]
        exact .stuck hAttempt hBegun
  · simp only [Turn.dialEnded, hAttempt, if_false]
    exact .nothing _

/-- Every command on a settled channel that is not shut down. -/
theorem deed_obey (hRunning : c.phase ≠ .shutdown) (command : Command) :
    Deed host c command (Turn.obey host { channel := c } command) := by
  cases command with
  | setServer server => exact deed_setServer server hRunning
  | bindMultiplexer => exact .boundMultiplexer
  | bindDemultiplexer => exact .boundDemultiplexer
  | bindChecker => exact .boundChecker
  | sync transports =>
    refine h.deed_talk rfl ?_ fun connection hConnection hEquipped =>
      Turn.course_sync host hEquipped hConnection transports
    intro hNone
    simp [Turn.obey, Turn.sync, Turn.canSync, hNone]
  | syncAll =>
    refine h.deed_talk rfl ?_ fun connection hConnection hEquipped =>
      Turn.course_syncAll host hEquipped hConnection
    intro hNone
    simp [Turn.obey, Turn.syncAll, Turn.canSync, hNone]
  | syncAck transports =>
    refine h.deed_talk rfl ?_ fun connection hConnection hEquipped =>
      Turn.course_syncAck host hEquipped hConnection transports
    intro hNone
    have hPhase : c.phase.isConnected = false := by rw [← h.connected, hNone]; rfl
    simp only [Turn.obey, Turn.input, Phase.step, hPhase]
    rfl
  | pause =>
    simp only [Turn.obey, Turn.pause]
    split
    · exact .nothing _
    · next hPhase => exact .suspended hPhase
  | resume => exact h.deed_resume
  | shutdown => exact .stopped
  | timerFired timer => exact h.deed_timerFired timer
  | dialEnded attempt error? => exact deed_dialEnded attempt error?
  | inbound connection frames size =>
    refine h.deed_event rfl ?_ fun hConnection hEquipped =>
      Turn.course_inbound host hEquipped hConnection frames size
    intro hStale
    simp [Turn.obey, Turn.inbound, hStale]
  | readFailed connection error =>
    refine h.deed_event rfl ?_ fun hConnection hEquipped =>
      Turn.course_readFailed host hEquipped hConnection error
    intro hStale
    simp [Turn.obey, Turn.readFailed, hStale]
  | keepAliveTick connection =>
    refine h.deed_event rfl ?_ fun hConnection hEquipped =>
      Turn.course_ping host hEquipped hConnection
    intro hStale
    simp [Turn.obey, Turn.ping, hStale]

end Channel.Settled

end DeviceUplink
