import DeviceUplink.Proofs.Channel.Lateness

/-!
# Silence

A channel that is paused or shut down has nothing under way. So there is nothing that an event could
be of, and no command but the one that resumes it makes a paused channel do more than remember a
server. Once it is resumed it dials the last server that it was told of, once.
-/

namespace DeviceUplink

def Command.server? : Command → Option Server
  | .setServer server => some server
  | _ => none

def lastServer? (commands : List (Host × Command)) : Option Server :=
  commands.reverse.findSome? fun command => command.2.server?

theorem lastServer?_cons (command : Host × Command) (rest : List (Host × Command)) :
    lastServer? (command :: rest) = (lastServer? rest).or command.2.server? := by
  cases h : command.2.server? <;> simp [lastServer?, h]

namespace Turn

variable {host : Host} {c : Channel} {after : Turn}

theorem server_teardown (host : Host) (t : Turn) :
    (t.teardown host).channel.server = t.channel.server := by
  obtain ⟨_, h⟩ := t.channel_teardown host
  rw [h, Channel.idle]

theorem server_failFor (host : Host) (t : Turn) (symptoms : List Occurrence) (cause : Occurrence) :
    (t.failFor host symptoms cause).channel.server = t.channel.server := by
  obtain ⟨_, _, _, _, h⟩ :=
    (t.noteAll (symptoms ++ cause :: cause.cleaning)).channel_failServer host
  rw [failFor, h]
  rfl

theorem server_setServer (host : Host) (c : Channel) (server : Server) :
    (setServer host { channel := c } server).channel.server = some server := by
  unfold setServer
  simp only
  split
  · rfl
  · split
    · rfl
    · rw [scheduleOpen_teardown]
      exact server_teardown host _

theorem server_course {connection : Nat} (h : Course host connection { channel := c } after)
    (hConnected : c.phase.isConnected = true) : after.channel.server = c.server := by
  cases h with
  | kept hMoves => exact (Kept.of_moves hConnected hMoves).server_eq
  | failed hMoves hBroken =>
    have hKept := Kept.of_moves hConnected hMoves
    rw [server_failFor]
    exact (hKept.trans (hBroken.kept hKept.isConnected)).server_eq
  | left hMoves =>
    rw [server_teardown]
    exact (Kept.of_moves hConnected hMoves).server_eq

theorem server_begun {t : Turn} {result : Except ChannelError Unit}
    (h : Begun host t (after, result)) : after.channel.server = t.channel.server := by
  cases h with
  | live => rfl
  | unready error hBefore => rw [hBefore]
  | unsent => rfl

theorem server_of_deed {command : Command} (h : Deed host c command after) (hSettled : c.Settled)
    (hCommand : command.server? = none) : after.channel.server = c.server := by
  cases h with
  | redescribed | rekeyed | retargeted => cases hCommand
  | suspended | stopped => exact server_teardown host _
  | unreached => exact server_failFor host _ _ _
  | begun _ hBegun => exact server_begun hBegun
  | stuck _ hBegun =>
    rw [server_failFor]
    exact server_begun hBegun
  | live _ hConnection hCourse =>
    exact server_course hCourse (hSettled.equipped (Option.isSome_of_eq_some hConnection)).connected
  | _ => rfl

end Turn

namespace Channel

variable {host : Host} {c : Channel}

theorem run_of_shutdown (h : c.phase = .shutdown) (commands : List (Host × Command)) :
    c.run commands = (c, []) := by
  induction commands with
  | nil => rfl
  | cons command rest ih => rw [run_cons, handle_of_shutdown h, ih, List.append_nil]

theorem Settled.server_handle (h : c.Settled) (hRunning : c.phase ≠ .shutdown) (host : Host)
    (command : Command) :
    (c.handle host command).1.server = command.server?.or c.server := by
  rw [handle_eq hRunning]
  cases hCommand : command.server? with
  | none => exact Turn.server_of_deed (h.deed_obey hRunning command) h hCommand
  | some server =>
    cases command with
    | setServer other =>
      cases hCommand
      exact Turn.server_setServer host c server
    | _ => cases hCommand

/-- As long as it runs, a channel is set to the last server that it was told of. -/
theorem Settled.server_run (h : c.Settled) {commands : List (Host × Command)}
    (hRunning : (c.run commands).1.phase ≠ .shutdown) :
    (c.run commands).1.server = (lastServer? commands).or c.server := by
  induction commands generalizing c with
  | nil => rfl
  | cons command rest ih =>
    have hPhase : c.phase ≠ .shutdown := by
      intro hDown
      rw [run_of_shutdown hDown] at hRunning
      exact hRunning hDown
    rw [run_cons, ih (settled_handle command.1 h command.2) hRunning,
      h.server_handle hPhase, lastServer?_cons, Option.or_assoc]

/-- What a channel says when it gives up all that is under way: its timer is cancelled, and its
connection ends with a farewell, as far as that can be written. -/
def lastWords (host : Host) (c : Channel) : List Occurrence :=
  Occurrence.cancelling c.reconnect
    ++ Occurrence.parting host (Occurrence.cancelling c.reconnect) c.connection

theorem lastWords_eq_nil (hConnection : c.connection = none) (hReconnect : c.reconnect = none) :
    c.lastWords host = [] := by
  simp only [lastWords, hConnection, hReconnect]
  rfl

theorem log_teardown_setPhase (host : Host) (c : Channel) (phase : Phase) :
    ((Turn.setPhase { channel := c } phase).teardown host).log = c.lastWords host := by
  rw [Turn.teardown_eq]
  rfl

theorem phase_teardown_setPhase (host : Host) (c : Channel) {phase : Phase}
    (h : phase.isConnected = false) :
    ((Turn.setPhase { channel := c } phase).teardown host).channel.phase = phase := by
  obtain ⟨_, hIdle⟩ := (Turn.setPhase { channel := c } phase).channel_teardown host
  simp [hIdle, idle, h]

theorem Settled.handle_pause (h : c.Settled) (hRunning : c.phase ≠ .shutdown) (host : Host) :
    (c.handle host .pause).1.phase = .paused ∧ (c.handle host .pause).2 = c.lastWords host := by
  rw [handle_eq hRunning]
  simp only [Turn.obey, Turn.pause]
  split
  · next hPaused =>
    obtain ⟨hConnection, _, hReconnect⟩ := h.nothing_under_way (.inl hPaused)
    exact ⟨hPaused, (lastWords_eq_nil hConnection hReconnect).symm⟩
  · exact ⟨phase_teardown_setPhase host c rfl, log_teardown_setPhase host c .paused⟩

theorem Settled.handle_shutdown (h : c.Settled) (host : Host) :
    (c.handle host .shutdown).1.phase = .shutdown ∧
      (c.handle host .shutdown).2 = c.lastWords host := by
  by_cases hPhase : c.phase = .shutdown
  · obtain ⟨hConnection, _, hReconnect⟩ := h.nothing_under_way (.inr hPhase)
    rw [handle_of_shutdown hPhase]
    exact ⟨hPhase, (lastWords_eq_nil hConnection hReconnect).symm⟩
  · rw [handle_eq hPhase]
    exact ⟨phase_teardown_setPhase host c rfl, log_teardown_setPhase host c .shutdown⟩

theorem handle_pause_again (h : c.phase = .paused ∨ c.phase = .shutdown) (host : Host) :
    c.handle host .pause = (c, []) := by
  rcases h with h | h
  · simp [handle, h, Turn.obey, Turn.pause]
  · exact handle_of_shutdown h .pause

theorem log_keyed (host : Host) (c : Channel) (server : Server) :
    ∀ o ∈ (Turn.keyed host c server).log, ∃ session, o = .sessionMade session := by
  unfold Turn.keyed
  cases hNew : Turn.newSession host { channel := c } server with
  | ok session => simp [Turn.makeSession_ok hNew]
  | error error => simp [Turn.makeSession_error hNew]

/-- A paused channel does nothing but make a session for a server that it is set to. -/
theorem Settled.handle_while_paused (h : c.Settled) (hPaused : c.phase = .paused)
    {command : Command} (hCommand : command ≠ .resume) (host : Host) :
    (∀ o ∈ (c.handle host command).2, ∃ session, o = .sessionMade session) ∧
      (command ≠ .shutdown → (c.handle host command).1.phase = .paused) := by
  obtain ⟨hConnection, hAttempt, hReconnect⟩ := h.nothing_under_way (.inl hPaused)
  have hRunning : c.phase ≠ .shutdown := by simp [hPaused]
  have hDeed : Deed host c command (Turn.obey host { channel := c } command) :=
    h.deed_obey hRunning command
  rw [handle_eq hRunning]
  generalize Turn.obey host { channel := c } command = after at hDeed ⊢
  cases hDeed with
  | nothing | boundMultiplexer | boundDemultiplexer | boundChecker | redescribed =>
    exact ⟨by simp, fun _ => hPaused⟩
  | @rekeyed server =>
    obtain ⟨_, _, hKeyed, _⟩ := Turn.keyed_eq host c server
    refine ⟨log_keyed host c server, fun _ => ?_⟩
    rw [hKeyed]
    exact hPaused
  | stopped =>
    refine ⟨?_, fun hOther => absurd rfl hOther⟩
    rw [log_teardown_setPhase, lastWords_eq_nil hConnection hReconnect]
    exact List.forall_mem_nil _
  | retargeted hPhase =>
    rw [hPaused] at hPhase
    rcases hPhase with hPhase | hPhase <;> cases hPhase
  | suspended hPhase => exact absurd hPaused hPhase
  | resumed => exact absurd rfl hCommand
  | unaimed hTimer | dialed hTimer =>
    rw [hReconnect] at hTimer
    cases hTimer
  | unreached _ hLinked | begun hLinked | stuck hLinked =>
    rw [hAttempt] at hLinked
    cases hLinked
  | live _ hLinked =>
    rw [hConnection] at hLinked
    cases hLinked

theorem Settled.run_while_paused (h : c.Settled) (hPaused : c.phase = .paused)
    {commands : List (Host × Command)} (hCommands : ∀ command ∈ commands, command.2 ≠ .resume) :
    (∀ o ∈ (c.run commands).2, ∃ session, o = .sessionMade session) ∧
      ((c.run commands).1.phase = .paused ∨
        (c.run commands).1.phase = .shutdown ∧ ∃ command ∈ commands, command.2 = .shutdown) := by
  induction commands generalizing c with
  | nil => exact ⟨List.forall_mem_nil _, .inl hPaused⟩
  | cons command rest ih =>
    obtain ⟨hCommand, hRest⟩ := List.forall_mem_cons.mp hCommands
    obtain ⟨hLog, hPhase⟩ := h.handle_while_paused hPaused hCommand command.1
    have hNext := settled_handle command.1 h command.2
    rw [run_cons]
    by_cases hDown : command.2 = .shutdown
    · have hEnd : (c.handle command.1 command.2).1.phase = .shutdown := by
        rw [hDown]
        exact (h.handle_shutdown command.1).1
      rw [run_of_shutdown hEnd, List.append_nil]
      exact ⟨hLog, .inr ⟨hEnd, command, List.mem_cons_self, hDown⟩⟩
    · obtain ⟨hMore, hAfter⟩ := ih hNext (hPhase hDown) hRest
      constructor
      · exact fun o ho => (List.mem_append.mp ho).elim (hLog o) (hMore o)
      · refine hAfter.imp_right fun hEnd => ⟨hEnd.1, ?_⟩
        exact hEnd.2.imp fun other hOther => hOther.imp_left (List.mem_cons_of_mem command)

end Channel

def OthersThan (origin : Origin) (commands : List (Host × Command)) : Prop :=
  ∀ command ∈ commands, ∃ other, command.2.origin? = some other ∧ other ≠ origin

namespace Channel

variable {host : Host} {c : Channel}

theorem run_of_others {origin : Origin} (hOnly : ∀ present ∈ c.origins, present = origin)
    {commands : List (Host × Command)} (h : OthersThan origin commands) :
    c.run commands = (c, []) := by
  induction commands with
  | nil => rfl
  | cons command rest ih =>
    obtain ⟨⟨other, hOther, hNot⟩, hRest⟩ := List.forall_mem_cons.mp h
    have hLate : command.2.isLate c = true :=
      Command.isLate_iff.mpr ⟨other, hOther, mt (hOnly other) hNot⟩
    rw [run_cons, handle_of_isLate hLate, ih hRest]
    rfl

def resumed (c : Channel) : Channel :=
  { c with phase := .closed, lastId := c.lastId + 1, reconnect := some (c.lastId + 1) }

theorem Settled.handle_resume (h : c.Settled) (hPaused : c.phase = .paused) (host : Host) :
    c.handle host .resume = (c.resumed, [.scheduled (c.lastId + 1) .zero]) := by
  obtain ⟨_, hAttempt, hReconnect⟩ := h.nothing_under_way (.inl hPaused)
  have hRunning : c.phase ≠ .shutdown := by simp [hPaused]
  rw [handle_eq hRunning]
  simp only [Turn.obey, Turn.resume, hPaused, if_true]
  rw [Turn.scheduleOpen_eq _ (by exact hReconnect) (by exact hAttempt)]
  rfl

theorem Settled.handle_timer (h : c.Settled) {timer : Nat} (hTimer : c.reconnect = some timer)
    (host : Host) :
    ∃ next, c.handle host (.timerFired timer)
        = (next, c.server.toList.map (.dialed (c.lastId + 1))) ∧
      next.phase = .closed ∧ next.connection = none ∧ next.reconnect = none ∧
      next.attempt = c.server.map fun _ => c.lastId + 1 := by
  obtain ⟨hClosed, hConnection, hAttempt⟩ := h.at_timer (Option.isSome_of_eq_some hTimer)
  have hRunning : c.phase ≠ .shutdown := by simp [hClosed]
  rw [handle_eq hRunning]
  simp only [Turn.obey, h.timerFired_eq hTimer]
  cases c.server with
  | none => exact ⟨_, rfl, hClosed, hConnection, rfl, hAttempt⟩
  | some server => exact ⟨_, rfl, hClosed, hConnection, rfl, rfl⟩

/-- A resumed channel waits for one timer without a delay, and when that fires it dials this server
once. No event of anything else makes a difference. -/
def DialsOnResume (c : Channel) (server? : Option Server) : Prop :=
  ∀ (host host' : Host) (early late : List (Host × Command)),
    OthersThan (.timer (c.lastId + 1)) early → OthersThan (.attempt (c.lastId + 2)) late →
    let last := c.run ((host, .resume) :: early ++ (host', .timerFired (c.lastId + 1)) :: late)
    last.2 = .scheduled (c.lastId + 1) .zero :: server?.toList.map (.dialed (c.lastId + 2)) ∧
      last.1.phase = .closed ∧ last.1.connection = none ∧ last.1.reconnect = none ∧
      last.1.attempt = server?.map fun _ => c.lastId + 2

theorem Settled.dialsOnResume (h : c.Settled) (hPaused : c.phase = .paused) :
    c.DialsOnResume c.server := by
  intro host host' early late hEarly hLate
  obtain ⟨hConnection, hAttempt, _⟩ := h.nothing_under_way (.inl hPaused)
  -- Nothing is present but the timer until it fires, and nothing but the attempt from then on.
  have hResumed : c.resumed.Settled := by
    have hNext := settled_handle host h .resume
    rwa [h.handle_resume hPaused] at hNext
  have hWaiting : ∀ present ∈ c.resumed.origins, present = .timer (c.lastId + 1) := by
    simp [origins, resumed, hConnection, hAttempt]
  have hTimer : c.resumed.reconnect = some (c.lastId + 1) := rfl
  obtain ⟨next, hFired, hClosed, hApart, hFree, hDialing⟩ := hResumed.handle_timer hTimer host'
  have hTrying : ∀ present ∈ next.origins, present = .attempt (c.lastId + 2) := by
    rintro (n | n | n)
    · simp [hApart]
    · simp only [attempt_mem_origins, hDialing, Option.map_eq_some_iff]
      rintro ⟨_, _, rfl⟩
      rfl
    · simp [hFree]
  rw [List.cons_append, run_cons, h.handle_resume hPaused, run_append,
    run_of_others hWaiting hEarly, run_cons, hFired, run_of_others hTrying hLate]
  exact ⟨by simp [resumed], hClosed, hApart, hFree, hDialing⟩

/-- A channel that is paused ends what is under way and is then silent until it is resumed: whatever
comes, it stays paused if it is not shut down, and the most that it does is to make a session for a
server that it is set to. Pausing again changes nothing. When it is resumed it dials once, namely
the last server that it was told of at all. A channel that is shut down ends what is under way, and
nothing moves it any more. -/
theorem suspended_channel_is_silent (settings : ChannelSettings) (supported : DirectionMap)
    (before : List (Host × Command)) :
    let start := Channel.start settings supported
    let c := (start.run before).1
    (∀ (host : Host) (during : List (Host × Command)), c.phase ≠ .shutdown →
      (∀ command ∈ during, command.2 ≠ .resume) →
      let paused := c.handle host .pause
      let meanwhile := paused.1.run during
      let last := meanwhile.1
      paused.1.phase = .paused ∧ paused.2 = c.lastWords host ∧
        (∀ o ∈ meanwhile.2, ∃ session, o = .sessionMade session) ∧
        (last.phase = .paused ∨
          last.phase = .shutdown ∧ ∃ command ∈ during, command.2 = .shutdown) ∧
        (∀ host, last.handle host .pause = (last, [])) ∧
        (last.phase = .paused →
          last.DialsOnResume (lastServer? (before ++ (host, .pause) :: during)))) ∧
      ∀ (host : Host) (after : List (Host × Command)),
        let down := c.handle host .shutdown
        down.1.phase = .shutdown ∧ down.2 = c.lastWords host ∧ down.1.run after = (down.1, []) := by
  intro start c
  have hStart : start.Settled := .start settings supported
  have hSettled : c.Settled := settled_run hStart before
  constructor
  · intro host during hRunning hDuring paused meanwhile last
    obtain ⟨hPaused, hWords⟩ := hSettled.handle_pause hRunning host
    have hNext : paused.1.Settled := settled_handle host hSettled .pause
    obtain ⟨hQuiet, hLast⟩ := hNext.run_while_paused hPaused hDuring
    refine ⟨hPaused, hWords, hQuiet, hLast, handle_pause_again (hLast.imp_right And.left), ?_⟩
    intro hStill
    -- The pause does not stand out in the history of servers, so it is one run from the start.
    have hWhole : (start.run (before ++ (host, .pause) :: during)).1 = last := by
      rw [run_append, run_cons]
    have hServer : last.server = lastServer? (before ++ (host, .pause) :: during) := by
      rw [← hWhole, hStart.server_run (by simp [hWhole, hStill])]
      exact Option.or_none
    rw [← hServer]
    exact (settled_run hNext during).dialsOnResume hStill
  · intro host after down
    obtain ⟨hDown, hWords⟩ := hSettled.handle_shutdown host
    exact ⟨hDown, hWords, run_of_shutdown hDown after⟩

end Channel

end DeviceUplink
