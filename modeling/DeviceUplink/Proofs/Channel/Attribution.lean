import DeviceUplink.Proofs.Channel.Accounting

/-!
# Whom a failure is put down to

The attempt or connection of a channel goes back to the last dial of its run, and the server that
the channel is set to is still at the endpoint that was dialed. So a report names the right server,
however often the descriptor has been replaced meanwhile.
-/

namespace DeviceUplink

def LastDial (log : List Occurrence) (attempt : Nat) (server : Server) : Prop :=
  ∃ before after, log = before ++ .dialed attempt server :: after ∧ ∀ o ∈ after, o.isDial = false

theorem LastDial.append {log more : List Occurrence} {attempt : Nat} {server : Server}
    (h : LastDial log attempt server) (hMore : ∀ o ∈ more, o.isDial = false) :
    LastDial (log ++ more) attempt server := by
  obtain ⟨before, after, hLog, hAfter⟩ := h
  refine ⟨before, after ++ more, by rw [hLog, List.append_assoc, List.cons_append], ?_⟩
  intro o ho
  rcases List.mem_append.mp ho with ho | ho
  · exact hAfter o ho
  · exact hMore o ho

namespace Channel

/-- A channel after what its run has `told`. -/
structure Aimed (told : List Occurrence) (c : Channel) : Prop where
  settled : c.Settled
  dialed : c.isLinked = true → ∃ attempt dialed server, LastDial told attempt dialed ∧
    c.server = some server ∧ server.host = dialed.host ∧ server.port = dialed.port ∧
    ∀ other, c.attempt = some other → other = attempt

namespace Aimed

variable {told : List Occurrence} {c : Channel}

theorem of_unlinked (hSettled : c.Settled) (hUnlinked : c.isLinked = false) : Aimed told c where
  settled := hSettled
  dialed := by
    intro hLinked
    rw [hUnlinked] at hLinked
    cases hLinked

theorem of_follows (h : Aimed told c) {next : Channel} (hSettled : next.Settled)
    (hFollows : next.isLinked = true → c.Follows next) {log : List Occurrence}
    (hLog : ∀ o ∈ log, o.isDial = false) : Aimed (told ++ log) next where
  settled := hSettled
  dialed := by
    intro hLinked
    have hFollows := hFollows hLinked
    obtain ⟨attempt, dialed, server, hLast, hServer, hHost, hPort, hAttempt⟩ :=
      h.dialed hFollows.linked
    obtain ⟨current, hCurrent, hSame⟩ := hFollows.server server hServer
    obtain ⟨hSameHost, hSamePort⟩ := Server.sameEndpoint_iff.mp hSame
    refine ⟨attempt, dialed, current, hLast.append hLog, hCurrent, hSameHost.symm.trans hHost,
      hSamePort.symm.trans hPort, ?_⟩
    intro other hOther
    exact hAttempt other (hFollows.attempt other hOther)

theorem obey (h : Aimed told c) {host : Host} {command : Command} {after : Turn}
    (hOutcome : Outcome host c command after) : Aimed (told ++ after.log) after.channel := by
  have hSettled := hOutcome.settled
  cases hOutcome with
  | orderly hLog _ hFollows => exact h.of_follows hSettled hFollows fun o => hLog.isDial_eq_false
  | @dialed after attempt server hLog _ hAttempt hServer =>
    refine ⟨hSettled, fun _ => ⟨attempt, server, server, ?_, hServer, rfl, rfl, ?_⟩⟩
    · rw [hLog]
      exact ⟨told, [], rfl, by simp⟩
    · intro other hOther
      rw [hAttempt] at hOther
      exact (Option.some.inj hOther).symm
  | left => exact .of_unlinked hSettled (Turn.isLinked_teardown host _)
  | failed =>
    obtain ⟨hConnection, hAttempt⟩ := Turn.unlinked_failServer host (Turn.noteAll _ _)
    exact .of_unlinked hSettled (isLinked_eq_false hAttempt hConnection)

theorem handle (h : Aimed told c) (host : Host) (command : Command) :
    Aimed (told ++ (c.handle host command).2) (c.handle host command).1 := by
  by_cases hPhase : c.phase = .shutdown
  · rw [handle_of_shutdown hPhase, List.append_nil]
    exact h
  · rw [handle_eq hPhase]
    exact h.obey (h.settled.outcome_obey hPhase command)

theorem run (h : Aimed told c) (commands : List (Host × Command)) :
    Aimed (told ++ (c.run commands).2) (c.run commands).1 := by
  induction commands generalizing told c with
  | nil => simpa [Channel.run] using h
  | cons command rest ih =>
    have hRest := ih (h.handle command.1 command.2)
    rwa [List.append_assoc] at hRest

theorem start (settings : ChannelSettings) (supported : DirectionMap) :
    Aimed [] (Channel.start settings supported) :=
  .of_unlinked (.start settings supported) rfl

end Aimed

/-- In every command of every run, each failure is found and brings exactly one call of the
failover, which is for the server that the attempt or connection was dialed at; what is ended on
purpose brings none. -/
theorem one_report_per_failure (settings : ChannelSettings) (supported : DirectionMap)
    (commands : List (Host × Command)) (host : Host) (command : Command) :
    let told := ((Channel.start settings supported).run commands).2
    let c := ((Channel.start settings supported).run commands).1
    let next := (c.handle host command).1
    let log := (c.handle host command).2
    Accounted host c command next log ∧ Verdict host c command next log ∧
      log.countP Occurrence.isReport = log.countP Occurrence.isFailure ∧
      log.countP Occurrence.isFailure ≤ 1 ∧
      log.countP Occurrence.isCleaning = log.countP Occurrence.isBadCredentials ∧
      (command.isDeparture c = true ∨ (∃ connection, .disconnected connection .graceful ∈ log) →
        Quiet log) ∧
      (c.isLinked = true → ∃ attempt dialed server, LastDial told attempt dialed ∧
        c.server = some server ∧ server.host = dialed.host ∧ server.port = dialed.port ∧
        ∀ other, c.attempt = some other → other = attempt) := by
  intro told c next log
  have hAimed : Aimed told c := by simpa using (Aimed.start settings supported).run commands
  have hVerdict : Verdict host c command next log := hAimed.settled.verdict host command
  obtain ⟨hReports, hOnce⟩ := hVerdict.countP_isReport
  exact ⟨hAimed.settled.accounted host command, hVerdict, hReports, hOnce,
    hVerdict.countP_isCleaning, hVerdict.quiet_of_end, hAimed.dialed⟩

end Channel

end DeviceUplink
