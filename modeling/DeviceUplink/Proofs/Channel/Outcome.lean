import DeviceUplink.Proofs.Channel.Deed

/-!
# The outcome of a command

On a settled channel a command does nothing out of order, or dials, or lets the server take its
leave, or reports one failure of what was under way. `outcome_obey` says this of every command;
what holds of runs follows from it.
-/

namespace DeviceUplink

namespace Channel

/-- The attempt or connection of a channel comes from that of an earlier one, and is for the same
endpoint. -/
structure Follows (c next : Channel) : Prop where
  linked : c.isLinked = true
  attempt : ∀ attempt, next.attempt = some attempt → c.attempt = some attempt
  server : ∀ server, c.server = some server →
    ∃ current, next.server = some current ∧ server.sameEndpoint current = true

end Channel

inductive Outcome (host : Host) (c : Channel) (command : Command) : Turn → Prop
  | orderly {after : Turn} (hLog : Orderly after.log) (hSettled : after.channel.Settled)
      (hFollows : after.channel.isLinked = true → c.Follows after.channel)
      (hStays : c.isLinked = true → after.channel.isLinked = true ∨ command.isDeparture c = true) :
      Outcome host c command after
  | dialed {after : Turn} {attempt : Nat} {server : Server}
      (hLog : after.log = [.dialed attempt server]) (hSettled : after.channel.Settled)
      (hAttempt : after.channel.attempt = some attempt)
      (hServer : after.channel.server = some server) (hUnlinked : c.isLinked = false) :
      Outcome host c command after
  | left {before : Turn} {connection : Nat} (hLog : Orderly before.log)
      (hDeparture : command.isDeparture c = false) :
      Outcome host c command ((before.note (.disconnected connection .graceful)).teardown host)
  | failed {before : Turn} {symptoms : List Occurrence} {cause : Occurrence}
      (hLog : Orderly before.log) (hSymptoms : Symptoms cause symptoms)
      (hFailure : cause.isFailure = true) (hEquipped : cause.isUnequipped = false)
      (hDeparture : command.isDeparture c = false) (hLinked : c.isLinked = true)
      (hServer : before.channel.server = c.server)
      (hChecker : before.channel.hasChecker = c.hasChecker)
      (hConnection : ∀ connection, c.connection = some connection →
        before.channel.connection = some connection)
      (hPhase : before.channel.phase.isConnected = true ∨ before.channel.phase = .closed) :
      Outcome host c command (before.failFor host symptoms cause)

theorem Orderly.of_teardown (host : Host) {t : Turn} (h : Orderly t.log) :
    Orderly (t.teardown host).log := by
  obtain ⟨parting, hLog, hParting⟩ := teardown host t
  rw [hLog]
  exact h.append hParting

theorem Turn.isLinked_teardown (host : Host) (t : Turn) :
    (t.teardown host).channel.isLinked = false := by
  obtain ⟨farewells, h⟩ := t.channel_teardown host
  rw [h]
  rfl

/-- Nothing is left of the connection or attempt that there was. -/
theorem Outcome.of_unlinked {c : Channel} {host : Host} {command : Command} {after : Turn}
    (hLog : Orderly after.log)
    (hSettled : after.channel.Settled) (hAfter : after.channel.isLinked = false)
    (hDeparture : c.isLinked = true → command.isDeparture c = true) :
    Outcome host c command after := by
  refine .orderly hLog hSettled ?_ fun hLinked => .inr (hDeparture hLinked)
  intro hLinked
  rw [hAfter] at hLinked
  cases hLinked

namespace Channel

variable {c : Channel} {host : Host}

theorem isLinked_eq_false (hAttempt : c.attempt = none) (hConnection : c.connection = none) :
    c.isLinked = false := by
  simp [isLinked, hAttempt, hConnection]

theorem Follows.refl (h : c.isLinked = true) : c.Follows c where
  linked := h
  attempt _ hAttempt := hAttempt
  server server hServer := ⟨server, hServer, server.sameEndpoint_refl⟩

namespace Settled

theorem unchanged (h : c.Settled) (command : Command) : Outcome host c command { channel := c } :=
  .orderly .nil h .refl .inl

variable (h : c.Settled)

include h

/-- Another piece of equipment is bound. -/
theorem outcome_bind (command : Command) {m d k : Bool}
    (hKeeps : c.hasMultiplexer = true → m = true) :
    Outcome host c command
      { channel := { c with hasMultiplexer := m, hasDemultiplexer := d, hasChecker := k } } := by
  refine .orderly .nil ?_ ?_ .inl
  · exact ⟨h.connected, h.waiting, h.exclusive, h.aimed, fun hConnection =>
      { h.equipped hConnection with multiplexer := hKeeps (h.equipped hConnection).multiplexer }⟩
  · intro hLinked
    have hFollows := Follows.refl (c := c) hLinked
    exact ⟨hFollows.linked, hFollows.attempt, hFollows.server⟩

/-- An operation on the live connection of a settled channel. -/
theorem outcome_of_passage (hConnection : c.connection.isSome = true) {command : Command}
    (hDeparture : command.isDeparture c = false) {after : Turn}
    (hPassage : Passage host { channel := c } after) : Outcome host c command after := by
  have hLinked : c.isLinked = true := by simp [isLinked, hConnection]
  have hKeptLog : ∀ {u : Turn}, Kept { channel := c } u → Orderly u.log := by
    intro u hKept
    obtain ⟨more, hu, hMore⟩ := hKept.log
    rw [hu]
    exact hMore
  cases hPassage with
  | kept hKept =>
    obtain ⟨_, _, _, _, hAfter⟩ := hKept.channel
    refine .orderly (hKeptLog hKept) (hKept.settled h hConnection) ?_ ?_
    · intro _
      have hFollows := Follows.refl hLinked
      rw [hAfter]
      exact ⟨hFollows.linked, hFollows.attempt, hFollows.server⟩
    · intro _
      exact .inl (by rw [hAfter]; exact hLinked)
  | failed hKept hSymptoms hFailure hEquipped =>
    refine .failed (hKeptLog hKept) hSymptoms hFailure hEquipped hDeparture hLinked
      hKept.server_eq hKept.hasChecker_eq ?_ (.inl hKept.isConnected)
    intro connection hSome
    exact hKept.connection_eq.trans hSome
  | left hKept => exact .left (hKeptLog hKept) hDeparture

theorem outcome_live {command : Command} {connection : Nat} {after : Turn}
    (hTalk : command.isTalk = true) (hConnection : c.connection = some connection)
    (hCourse : Course host connection { channel := c } after) : Outcome host c command after := by
  have hSome : c.connection.isSome = true := Option.isSome_of_eq_some hConnection
  exact h.outcome_of_passage hSome (Command.isDeparture_of_isTalk hTalk)
    (hCourse.passage (h.equipped hSome).connected)

/-- Another descriptor of the endpoint that is dialed or connected does not disturb anything. -/
theorem outcome_redescribed {old : Server} (server : Server) (hServer : c.server = some old)
    (hSame : old.sameEndpoint server = true) :
    Outcome host c (.setServer server) { channel := { c with server := some server } } := by
  refine .orderly .nil ?_ ?_ .inl
  · exact ⟨h.connected, h.waiting, h.exclusive, fun _ => rfl, fun hConnection =>
      { h.equipped hConnection with server := rfl }⟩
  · intro hLinked
    refine ⟨hLinked, fun _ hAttempt => hAttempt, ?_⟩
    intro dialed hDialed
    rw [hServer] at hDialed
    cases hDialed
    exact ⟨server, rfl, hSame⟩

theorem outcome_rekeyed (server : Server) (hPhase : c.phase = .paused) :
    Outcome host c (.setServer server) (Turn.keyed host c server) := by
  obtain ⟨session, more, hKeyed, hMore⟩ := Turn.keyed_eq host c server
  obtain ⟨hConnection, hAttempt, hReconnect⟩ :=
    h.at_rest (by rw [hPhase]; rfl) (by rw [hPhase]; exact Phase.noConfusion)
  have hUnlinked := isLinked_eq_false hAttempt hConnection
  rw [hKeyed]
  refine .of_unlinked (.of_prelude hMore) ?_ hUnlinked (by simp [hUnlinked])
  exact .of_unconnected (by simp [hPhase, Phase.isConnected]) hConnection hAttempt
    (by simp [hReconnect])

omit h in
theorem outcome_retargeted {server : Server}
    (hPhase : c.phase.isConnected = true ∨ c.phase = .closed)
    (hDeparture : c.isLinked = true → Command.isDeparture c (.setServer server) = true) :
    Outcome host c (.setServer server)
      (((Turn.keyed host c server).teardown host).withTimer .zero) := by
  obtain ⟨session, more, hKeyed, hMore⟩ := Turn.keyed_eq host c server
  have hOrderly : Orderly (Turn.keyed host c server).log := by
    rw [hKeyed]
    exact .of_prelude hMore
  have hSamePhase : (Turn.keyed host c server).channel.phase = c.phase := by rw [hKeyed]
  obtain ⟨farewells, hIdle⟩ := (Turn.keyed host c server).channel_teardown host
  refine .of_unlinked ?_ (Turn.settled_withTimer ?_ ?_ ?_ _) (Turn.isLinked_teardown host _)
    hDeparture
  · exact (Orderly.of_teardown host hOrderly).append (.singleton rfl)
  · rw [hIdle]
    exact phase_idle farewells (hSamePhase ▸ hPhase)
  · rw [hIdle]
    rfl
  · rw [hIdle]
    rfl

theorem outcome_resumed (hPhase : c.phase = .paused) :
    Outcome host c .resume ((Turn.setPhase { channel := c } .closed).withTimer .zero) := by
  obtain ⟨hConnection, hAttempt, _⟩ :=
    h.at_rest (by rw [hPhase]; rfl) (by rw [hPhase]; exact Phase.noConfusion)
  have hUnlinked := isLinked_eq_false hAttempt hConnection
  exact .of_unlinked (.singleton rfl) (Turn.settled_withTimer rfl hConnection hAttempt _)
    hUnlinked (by simp [hUnlinked])

/-- A timer goes off for nothing. -/
theorem outcome_unaimed {timer : Nat} (hTimer : c.reconnect = some timer) :
    Outcome host c (.timerFired timer) { channel := { c with reconnect := none } } := by
  obtain ⟨hClosed, hConnection, hAttempt⟩ := h.at_timer (Option.isSome_of_eq_some hTimer)
  have hUnlinked := isLinked_eq_false hAttempt hConnection
  refine .of_unlinked .nil ?_ hUnlinked (by simp [hUnlinked])
  exact .of_unconnected (by simp [hClosed, Phase.isConnected]) hConnection hAttempt fun _ => hClosed

theorem outcome_dialed {timer : Nat} {server : Server} (hTimer : c.reconnect = some timer)
    (hServer : c.server = some server) :
    Outcome host c (.timerFired timer) (Turn.dialing c server) := by
  obtain ⟨hClosed, hConnection, hAttempt⟩ := h.at_timer (Option.isSome_of_eq_some hTimer)
  refine .dialed rfl ?_ rfl hServer (isLinked_eq_false hAttempt hConnection)
  exact ⟨by simp [Turn.dialing, hConnection, hClosed, Phase.isConnected], fun _ => hClosed,
    fun _ => rfl, fun _ => by simp [Turn.dialing, hServer],
    by simp [Turn.dialing, hConnection]⟩

/-- There is no connection yet that the end of a dial could end. -/
theorem outcome_dialEnded {attempt : Nat} (hAttempt : c.attempt = some attempt)
    (error? : Option ChannelError) {before : Turn} {symptoms : List Occurrence} {cause : Occurrence}
    (hLog : Orderly before.log) (hSymptoms : Symptoms cause symptoms)
    (hFailure : cause.isFailure = true) (hEquipped : cause.isUnequipped = false)
    (hPhase : before.channel.phase = c.phase) (hServer : before.channel.server = c.server)
    (hChecker : before.channel.hasChecker = c.hasChecker) :
    Outcome host c (.dialEnded attempt error?) (before.failFor host symptoms cause) := by
  have hClosed := h.waiting (.inl (Option.isSome_of_eq_some hAttempt))
  have hConnection := h.connection_eq_none (by rw [hClosed]; rfl)
  refine .failed hLog hSymptoms hFailure hEquipped rfl (isLinked_of_attempt hAttempt) hServer
    hChecker ?_ (.inr (hPhase.trans hClosed))
  intro connection hOther
  rw [hConnection] at hOther
  cases hOther

theorem outcome_begun {attempt : Nat} {after : Turn} (hAttempt : c.attempt = some attempt)
    (hBegun : Begun host { channel := { c with attempt := none } } (after, .ok ())) :
    Outcome host c (.dialEnded attempt none) after := by
  have hLinked := isLinked_of_attempt hAttempt
  have hReconnect := h.exclusive (Option.isSome_of_eq_some hAttempt)
  cases hBegun with
  | @live session connect bytes hGreeting =>
    obtain ⟨server, hServer, _⟩ := hGreeting.made
    refine .orderly (.append .nil ?_) (.of_equipped ?_ rfl hReconnect) ?_ fun _ => .inl rfl
    · intro o ho
      simp only [List.mem_cons, List.not_mem_nil, or_false] at ho
      rcases ho with rfl | rfl | rfl | rfl <;> rfl
    · exact ⟨rfl, rfl, Option.isSome_of_eq_some hServer, rfl, hGreeting.bound⟩
    · intro _
      have hFollows := Follows.refl hLinked
      exact ⟨hLinked, (by intro other hOther; cases hOther), hFollows.server⟩

theorem outcome_stuck {attempt : Nat} {before : Turn} {error : ChannelError}
    (hAttempt : c.attempt = some attempt)
    (hBegun : Begun host { channel := { c with attempt := none } } (before, .error error)) :
    Outcome host c (.dialEnded attempt none)
      (before.failFor host [] (.sessionFailed attempt error)) := by
  cases hBegun with
  | unready _ hBefore hMore =>
    subst hBefore
    exact h.outcome_dialEnded hAttempt none (.append .nil (.of_prelude hMore)) (.none _) rfl rfl
      rfl rfl rfl
  | unsent session connect =>
    have hPrelude : Orderly [.sessionMade session, .compiled c.supported] :=
      .of_prelude (by simp [Occurrence.isPrelude])
    rw [Turn.failFor_noteAll]
    exact h.outcome_dialEnded hAttempt none (.append .nil hPrelude)
      (.connect (c.lastId + 1) attempt connect error) rfl rfl rfl rfl rfl

theorem outcome_of_deed {command : Command} {after : Turn} (hDeed : Deed host c command after) :
    Outcome host c command after := by
  cases hDeed with
  | nothing => exact h.unchanged command
  | boundMultiplexer => exact h.outcome_bind _ fun _ => rfl
  | boundDemultiplexer => exact h.outcome_bind _ id
  | boundChecker => exact h.outcome_bind _ id
  | redescribed hServer hSame => exact h.outcome_redescribed _ hServer hSame
  | rekeyed hPhase => exact h.outcome_rekeyed _ hPhase
  | retargeted hPhase hDeparture => exact outcome_retargeted hPhase hDeparture
  | suspended =>
    exact .of_unlinked (.of_teardown host .nil) (Turn.settled_teardown host _)
      (Turn.isLinked_teardown host _) fun _ => rfl
  | stopped =>
    exact .of_unlinked (.of_teardown host .nil) (Turn.settled_teardown host _)
      (Turn.isLinked_teardown host _) fun _ => rfl
  | resumed hPhase => exact h.outcome_resumed hPhase
  | unaimed hTimer => exact h.outcome_unaimed hTimer
  | dialed hTimer hServer => exact h.outcome_dialed hTimer hServer
  | unreached error hAttempt =>
    exact h.outcome_dialEnded hAttempt _ .nil (.none _) rfl rfl rfl rfl rfl
  | begun hAttempt hBegun => exact h.outcome_begun hAttempt hBegun
  | stuck hAttempt hBegun => exact h.outcome_stuck hAttempt hBegun
  | live hTalk hConnection hCourse => exact h.outcome_live hTalk hConnection hCourse

/-- Every command on a settled channel that is not shut down. -/
theorem outcome_obey (hRunning : c.phase ≠ .shutdown) (command : Command) :
    Outcome host c command (Turn.obey host { channel := c } command) :=
  h.outcome_of_deed (h.deed_obey hRunning command)

end Settled

end Channel

end DeviceUplink
