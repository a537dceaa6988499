import DeviceUplink.Proofs.Channel.Passage

/-!
# Settled channels

Between two commands a channel is settled: of a connection, an attempt and a timer it has at most
one, and its phase and its equipment go with that. Handlers leave this state on their way, some of
them by a send that fails, and come back to it by a teardown. `Outcome` says how a command ends.
-/

namespace DeviceUplink

namespace Channel

def isLinked (c : Channel) : Bool :=
  c.attempt.isSome || c.connection.isSome

theorem isLinked_of_attempt {c : Channel} {attempt : Nat} (h : c.attempt = some attempt) :
    c.isLinked = true := by
  rw [isLinked, h]
  rfl

theorem isLinked_of_connection {c : Channel} {connection : Nat}
    (h : c.connection = some connection) : c.isLinked = true := by
  rw [isLinked, h, Option.isSome_some, Bool.or_true]

structure Settled (c : Channel) : Prop where
  connected : c.connection.isSome = c.phase.isConnected
  waiting : c.attempt.isSome = true ∨ c.reconnect.isSome = true → c.phase = .closed
  exclusive : c.attempt.isSome = true → c.reconnect = none
  aimed : c.attempt.isSome = true → c.server.isSome = true
  equipped : c.connection.isSome = true → c.Equipped

namespace Settled

variable {c : Channel}

theorem start (settings : ChannelSettings) (supported : DirectionMap) :
    (Channel.start settings supported).Settled where
  connected := rfl
  waiting := by simp [Channel.start]
  exclusive := by simp [Channel.start]
  aimed := by simp [Channel.start]
  equipped := by simp [Channel.start]

theorem of_equipped (h : c.Equipped) (hAttempt : c.attempt = none)
    (hReconnect : c.reconnect = none) : c.Settled where
  connected := by rw [h.connection, h.connected]
  waiting := by simp [hAttempt, hReconnect]
  exclusive := by simp [hAttempt]
  aimed := by simp [hAttempt]
  equipped _ := h

/-- Nothing is under way but perhaps a timer. -/
theorem of_unconnected (hPhase : c.phase.isConnected = false) (hConnection : c.connection = none)
    (hAttempt : c.attempt = none) (hTimer : c.reconnect.isSome = true → c.phase = .closed) :
    c.Settled where
  connected := by rw [hConnection, hPhase]; rfl
  waiting := by simpa [hAttempt] using hTimer
  exclusive := by simp [hAttempt]
  aimed := by simp [hAttempt]
  equipped := by simp [hConnection]

theorem isConnected_idle (c : Channel) (farewells : Nat) :
    (c.idle farewells).phase.isConnected = false := by
  unfold idle
  cases c.phase <;> rfl

theorem idle (c : Channel) (farewells : Nat) : (c.idle farewells).Settled :=
  .of_unconnected (isConnected_idle c farewells) rfl rfl (by simp [Channel.idle])

/-- A connection leaves no room for an attempt or a timer. -/
theorem alone (h : c.Settled) (hConnection : c.connection.isSome = true) :
    c.attempt = none ∧ c.reconnect = none := by
  have hPhase : c.phase ≠ .closed := by
    intro hClosed
    rw [h.connected, hClosed] at hConnection
    cases hConnection
  constructor
  · exact Option.not_isSome_iff_eq_none.mp fun hSome => hPhase (h.waiting (.inl hSome))
  · exact Option.not_isSome_iff_eq_none.mp fun hSome => hPhase (h.waiting (.inr hSome))

theorem server_isSome (h : c.Settled) (hLinked : c.isLinked = true) :
    ∃ server, c.server = some server := by
  refine Option.isSome_iff_exists.mp ?_
  rcases Bool.or_eq_true_iff.mp hLinked with hAttempt | hConnection
  · exact h.aimed hAttempt
  · exact (h.equipped hConnection).server

theorem connection_eq_none (h : c.Settled) (hPhase : c.phase.isConnected = false) :
    c.connection = none :=
  Option.not_isSome_iff_eq_none.mp (by rw [h.connected, hPhase]; exact Bool.false_ne_true)

/-- While a timer runs there is nothing else. -/
theorem at_timer (h : c.Settled) (hTimer : c.reconnect.isSome = true) :
    c.phase = .closed ∧ c.connection = none ∧ c.attempt = none := by
  have hClosed := h.waiting (.inr hTimer)
  refine ⟨hClosed, h.connection_eq_none (by rw [hClosed]; rfl), ?_⟩
  refine Option.not_isSome_iff_eq_none.mp fun hAttempt => ?_
  rw [h.exclusive hAttempt] at hTimer
  cases hTimer

/-- Outside these phases nothing is under way. -/
theorem at_rest (h : c.Settled) (hConnected : c.phase.isConnected = false)
    (hClosed : c.phase ≠ .closed) :
    c.connection = none ∧ c.attempt = none ∧ c.reconnect = none := by
  refine ⟨h.connection_eq_none hConnected, ?_, ?_⟩
  · exact Option.not_isSome_iff_eq_none.mp fun hSome => hClosed (h.waiting (.inl hSome))
  · exact Option.not_isSome_iff_eq_none.mp fun hSome => hClosed (h.waiting (.inr hSome))

end Settled

end Channel

theorem Kept.settled {t u : Turn} (h : Kept t u) (ht : t.channel.Settled)
    (hConnection : t.channel.connection.isSome = true) : u.channel.Settled := by
  obtain ⟨hAttempt, hReconnect⟩ := ht.alone hConnection
  have hEquipped := h.equipped (ht.equipped hConnection)
  obtain ⟨_, _, _, _, hu⟩ := h.channel
  exact .of_equipped hEquipped (by rw [hu]; exact hAttempt) (by rw [hu]; exact hReconnect)

theorem Channel.phase_idle {c : Channel} (farewells : Nat)
    (h : c.phase.isConnected = true ∨ c.phase = .closed) : (c.idle farewells).phase = .closed := by
  rcases h with h | h
  · simp [idle, h]
  · simp [idle, h, Phase.isConnected]

namespace Turn

theorem settled_teardown (host : Host) (t : Turn) : (t.teardown host).channel.Settled := by
  obtain ⟨farewells, h⟩ := t.channel_teardown host
  exact h ▸ .idle t.channel farewells

theorem scheduleOpen_teardown (host : Host) (t : Turn) (delay : Duration) :
    (t.teardown host).scheduleOpen delay = (t.teardown host).withTimer delay := by
  obtain ⟨farewells, h⟩ := t.channel_teardown host
  exact scheduleOpen_eq delay (by rw [h]; rfl) (by rw [h]; rfl)

theorem settled_withTimer {t : Turn} (hPhase : t.channel.phase = .closed)
    (hConnection : t.channel.connection = none) (hAttempt : t.channel.attempt = none)
    (delay : Duration) : (t.withTimer delay).channel.Settled :=
  .of_unconnected (by simp [withTimer, hPhase, Phase.isConnected]) hConnection hAttempt
    fun _ => hPhase

end Turn

/-- Whatever has been decided, the channel is settled when a failure has been reported. -/
theorem Reported.settled {host : Host} {down after : Turn} (h : Reported host down after)
    {c : Channel} {farewells : Nat} (hDown : down.channel = c.idle farewells)
    (hPhase : c.phase.isConnected = true ∨ c.phase = .closed) : after.channel.Settled := by
  have hClosed : down.channel.phase = .closed := by rw [hDown, Channel.phase_idle farewells hPhase]
  have hIdle : down.channel.Settled := hDown ▸ .idle c farewells
  cases h with
  | @retry delay =>
    refine Turn.settled_withTimer hClosed ?_ ?_ delay
    · rw [hDown]
      rfl
    · rw [hDown]
      rfl
  | _ => exact hIdle

theorem Turn.settled_failFor (host : Host) (t : Turn) (symptoms : List Occurrence)
    (cause : Occurrence)
    (hPhase : t.channel.phase.isConnected = true ∨ t.channel.phase = .closed) :
    (t.failFor host symptoms cause).channel.Settled := by
  obtain ⟨_, hDown⟩ := (t.noteAll (symptoms ++ cause :: cause.cleaning)).channel_teardown host
  exact (reported_failServer host _).settled hDown hPhase

end DeviceUplink
