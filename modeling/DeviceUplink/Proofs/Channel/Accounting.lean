import DeviceUplink.Proofs.Channel.Lateness
import DeviceUplink.Proofs.Channel.Verdict

/-!
# Which failures there are

`Accounted` goes through the ways in which an attempt or a connection can fail. Each of them is
found in the command in which it happens, and what is late for its connection is not.
-/

namespace DeviceUplink

def Command.isStale (c : Channel) : Command → Bool
  | .dialEnded attempt _ => c.attempt ≠ some attempt
  | .inbound connection _ _ | .readFailed connection _ | .keepAliveTick connection =>
    c.connection ≠ some connection
  | _ => false

theorem Command.isLate_of_isStale {c : Channel} {command : Command}
    (h : command.isStale c = true) : command.isLate c = true := by
  cases command <;> simp_all [isStale, isLate, origin?]

/-- Every failure shows in the log of the command that brings it. -/
structure Accounted (host : Host) (c : Channel) (command : Command) (next : Channel)
    (log : List Occurrence) : Prop where
  dial : ∀ attempt error, command = .dialEnded attempt (some error) → c.attempt = some attempt →
    .dialFailed attempt error ∈ log
  session : ∀ attempt, command = .dialEnded attempt none → c.attempt = some attempt →
    next.connection.isSome = true ∨ ∃ error, .sessionFailed attempt error ∈ log
  read : ∀ connection error, command = .readFailed connection error →
    c.connection = some connection → .readFailed connection error ∈ log
  ping : ∀ connection, command = .keepAliveTick connection → c.connection = some connection →
    .sent connection .pingReq ∈ log ∨ ∃ error, .pingFailed connection error ∈ log
  /-- As long as the frames before it leave the connection alone. -/
  refused : ∀ connection first code rest size,
    command = .inbound connection (first ++ .connAck code :: rest) size → code ≠ .accepted →
    (c.handle host (.inbound connection first size)).1.connection = some connection →
    .refused connection code ∈ log
  disconnected : ∀ connection first reason rest size,
    command = .inbound connection (first ++ .disconnect reason :: rest) size →
    (c.handle host (.inbound connection first size)).1.connection = some connection →
    .disconnected connection reason ∈ log
  unsent : ∀ connection frame, .sendFailed connection frame ∈ log → frame ≠ Turn.farewell →
    ∃ o ∈ log, o.isFailure = true
  stale : command.isStale c = true → next = c ∧ log = []

namespace Verdict

variable {host : Host} {c next : Channel} {command : Command} {log : List Occurrence}

theorem exists_isFailure (h : Verdict host c command next log) {connection : Nat} {frame : Frame}
    (hUnsent : .sendFailed connection frame ∈ log) (hFrame : frame ≠ Turn.farewell) :
    ∃ o ∈ log, o.isFailure = true := by
  cases h with
  | quiet _ hSent =>
    have hNone := hSent _ hUnsent
    simp [Occurrence.isUnsent, hFrame] at hNone
  | failed _ hCause _ _ _ _ hDealt =>
    refine ⟨_, ?_, hCause⟩
    cases hDealt
    simp

end Verdict

namespace Turn

theorem cause_mem_failFor (host : Host) (t : Turn) (symptoms : List Occurrence)
    (cause : Occurrence) (hServer : t.channel.server.isSome = true) :
    cause ∈ (t.failFor host symptoms cause).log := by
  obtain ⟨server, hSome⟩ := Option.isSome_iff_exists.mp hServer
  have hDealt := t.dealt_failFor host symptoms cause hSome
  generalize (t.failFor host symptoms cause).log = log at hDealt ⊢
  cases hDealt
  simp

variable {host : Host} {t : Turn} {connection : Nat}

theorem receive_refused (h : t.channel.Equipped) {code : ReturnCode} (hCode : code ≠ .accepted) :
    (t.receive host connection (.connAck code)).channel.connection = none ∧
      .refused connection code ∈ (t.receive host connection (.connAck code)).log := by
  have hCounted := equipped_countReceived h host.now
  simp only [receive, inputOfFrame, notePart, hCode, if_false]
  rw [input_refused host hCounted.connected hCode]
  exact ⟨(unlinked_failServer host _).1, cause_mem_failFor host _ _ _ hCounted.server⟩

theorem receive_disconnected (h : t.channel.Equipped) (reason : DisconnectReason) :
    (t.receive host connection (.disconnect reason)).channel.connection = none ∧
      .disconnected connection reason ∈ (t.receive host connection (.disconnect reason)).log := by
  have hCounted := equipped_countReceived h host.now
  simp only [receive, inputOfFrame, notePart]
  by_cases hReason : reason = .graceful
  · subst hReason
    rw [input_graceful host (by exact hCounted.connected)]
    obtain ⟨parting, hLog, _⟩ :=
      Orderly.teardown host ((t.countReceived host.now).note (.disconnected connection .graceful))
    refine ⟨connection_teardown host _, ?_⟩
    rw [hLog]
    simp
  · rw [input_disconnect host (by exact hCounted.connected) hReason, failServer_note host _ rfl]
    exact ⟨(unlinked_failServer host _).1, cause_mem_failFor host _ _ _ hCounted.server⟩

end Turn

namespace Channel

variable {host : Host} {c : Channel}

theorem handle_of_isStale {command : Command} (hStale : command.isStale c = true) :
    c.handle host command = (c, []) :=
  handle_of_isLate (Command.isLate_of_isStale hStale) host

theorem connection_of_inbound {connection : Nat} {frames : List Frame} {size : Nat}
    (hLive : (c.handle host (.inbound connection frames size)).1.connection = some connection) :
    c.connection = some connection := by
  by_cases hConnection : c.connection = some connection
  · exact hConnection
  · rwa [handle_of_isStale (by simpa [Command.isStale] using hConnection)] at hLive

namespace Settled

variable (h : c.Settled)

include h

/-- The frames behind those that leave the connection alone. -/
theorem handle_inbound {connection : Nat} {first : List Frame} {size : Nat}
    (hLive : (c.handle host (.inbound connection first size)).1.connection = some connection)
    (frame : Frame) (rest : List Frame) :
    ∃ t : Turn, t.channel.Equipped ∧
      c.handle host (.inbound connection (first ++ frame :: rest) size) =
        (((t.receive host connection frame).receiveAll host connection rest).channel,
          ((t.receive host connection frame).receiveAll host connection rest).log) := by
  have hConnection := connection_of_inbound hLive
  have hRunning := h.phase_ne_shutdown (isLinked_of_connection hConnection)
  have hEquipped := h.equipped (Option.isSome_of_eq_some hConnection)
  let counted := Turn.countBytes { channel := c } size
  have hCounted : counted.channel.Equipped := { hEquipped with }
  simp only [handle_eq hRunning, Turn.obey, Turn.inbound, hConnection, if_true] at hLive ⊢
  refine ⟨counted.receiveAll host connection first, ?_, ?_⟩
  · exact Turn.equipped_receiveAll host hCounted hConnection first (Option.isSome_of_eq_some hLive)
  · rw [Turn.receiveAll_append, Turn.receiveAll_cons host hLive]

/-- Nothing that comes behind is taken in once the connection is gone. -/
theorem mem_handle_inbound {connection : Nat} {first : List Frame} {size : Nat}
    (hLive : (c.handle host (.inbound connection first size)).1.connection = some connection)
    {frame : Frame} (rest : List Frame) {o : Occurrence}
    (hEnd : ∀ t : Turn, t.channel.Equipped →
      (t.receive host connection frame).channel.connection = none ∧
        o ∈ (t.receive host connection frame).log) :
    o ∈ (c.handle host (.inbound connection (first ++ frame :: rest) size)).2 := by
  obtain ⟨t, hEquipped, hHandle⟩ := h.handle_inbound hLive frame rest
  obtain ⟨hNone, hMem⟩ := hEnd t hEquipped
  rw [hHandle, Turn.receiveAll_of_ne host (by simp [hNone])]
  exact hMem

theorem accounted (host : Host) (command : Command) :
    Accounted host c command (c.handle host command).1 (c.handle host command).2 where
  dial := by
    rintro attempt error rfl hAttempt
    have hServer := h.aimed (Option.isSome_of_eq_some hAttempt)
    rw [h.handle_of_isLinked host (isLinked_of_attempt hAttempt)]
    simp only [Turn.obey, Turn.dialEnded, hAttempt, if_true]
    rw [Turn.failServer_note host _ rfl]
    exact Turn.cause_mem_failFor host _ _ _ hServer
  session := by
    rintro attempt rfl hAttempt
    have hServer := h.aimed (Option.isSome_of_eq_some hAttempt)
    rw [h.handle_of_isLinked host (isLinked_of_attempt hAttempt)]
    simp only [Turn.obey, Turn.dialEnded, hAttempt, if_true]
    have hBegun := Turn.begun_establish host
      (Turn.update { channel := c } fun c => { c with attempt := none })
    generalize Turn.establish host _ = begun at hBegun ⊢
    cases hBegun with
    | live => exact .inl rfl
    | unready error hBefore =>
      subst hBefore
      refine .inr ⟨error, ?_⟩
      simp only
      rw [Turn.failServer_note host _ rfl]
      exact Turn.cause_mem_failFor host _ _ _ hServer
    | unsent session connect error =>
      refine .inr ⟨error, ?_⟩
      simp only
      rw [Turn.failServer_note host _ rfl]
      exact Turn.cause_mem_failFor host _ _ _ hServer
  read := by
    rintro connection error rfl hConnection
    have hEquipped := h.equipped (Option.isSome_of_eq_some hConnection)
    rw [h.handle_of_isLinked host (isLinked_of_connection hConnection)]
    simp only [Turn.obey, Turn.readFailed, hConnection, if_true]
    rw [Turn.input_connectionLost host (by exact hEquipped.connected),
      Turn.failServer_note host _ rfl]
    exact Turn.cause_mem_failFor host _ _ _ hEquipped.server
  ping := by
    rintro connection rfl hConnection
    have hEquipped := h.equipped (Option.isSome_of_eq_some hConnection)
    rw [h.handle_of_isLinked host (isLinked_of_connection hConnection)]
    simp only [Turn.obey, Turn.ping, hConnection, if_true]
    rcases Turn.send_cases (t := { channel := c }) host hConnection .pingReq with
      ⟨size, hSend⟩ | ⟨error, hSend, _⟩
    · simp only [hSend]
      exact .inl (by simp)
    · simp only [hSend]
      rw [Turn.input_connectionLost host (by exact hEquipped.connected),
        Turn.failServer_note_note host _ _ rfl]
      exact .inr ⟨error, Turn.cause_mem_failFor host _ _ _ hEquipped.server⟩
  refused := by
    rintro connection first code rest size rfl hCode hLive
    exact h.mem_handle_inbound hLive rest fun t ht => Turn.receive_refused ht hCode
  disconnected := by
    rintro connection first reason rest size rfl hLive
    exact h.mem_handle_inbound hLive rest fun t ht => Turn.receive_disconnected ht reason
  unsent := by
    intro connection frame hUnsent hFrame
    exact (h.verdict host command).exists_isFailure hUnsent hFrame
  stale := by
    intro hStale
    rw [handle_of_isStale hStale]
    exact ⟨rfl, rfl⟩

end Settled

end Channel

end DeviceUplink
