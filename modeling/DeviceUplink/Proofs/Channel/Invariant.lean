import DeviceUplink.Proofs.Channel.Outcome
import DeviceUplink.Proofs.Channel.Report

/-!
# What holds between commands

Every command finds the channel settled and leaves it settled, so that a run never has more than
one of a connection, an attempt and a timer, and a sync always has what it takes.
-/

namespace DeviceUplink

namespace Orderly

variable {log : List Occurrence}

theorem isUnequipped_eq_false (h : Orderly log) {o : Occurrence} (ho : o ∈ log) :
    o.isUnequipped = false := by
  obtain ⟨_, _, hEquipped, _⟩ := Occurrence.isOrderly_iff.mp (h o ho)
  exact hEquipped

end Orderly

theorem Symptoms.isUnequipped_eq_false {cause : Occurrence} {symptoms : List Occurrence}
    (h : Symptoms cause symptoms) {o : Occurrence} (ho : o ∈ symptoms) :
    o.isUnequipped = false := by
  cases h with
  | none => cases ho
  | _ => rw [List.mem_singleton.mp ho]; rfl

theorem Occurrence.isUnequipped_cleaning {cause o : Occurrence} (ho : o ∈ cause.cleaning) :
    o.isUnequipped = false := by
  unfold cleaning at ho
  split at ho
  · rw [List.mem_singleton.mp ho]
    rfl
  · cases ho

theorem Report.isUnequipped_eq_false {isOffline : Bool} {decision : FailoverDecision}
    {server : Server} {timer : Option Nat} {report : List Occurrence}
    (h : Report isOffline decision server timer report) {o : Occurrence} (ho : o ∈ report) :
    o.isUnequipped = false := by
  cases h <;> simp only [List.mem_cons, List.not_mem_nil, or_false] at ho
  all_goals rcases ho with rfl | rfl <;> rfl

namespace Outcome

variable {host : Host} {c : Channel} {command : Command} {after : Turn}

theorem settled (h : Outcome host c command after) : after.channel.Settled := by
  cases h with
  | orderly _ hSettled => exact hSettled
  | dialed _ hSettled => exact hSettled
  | left => exact Turn.settled_teardown host _
  | failed _ _ _ _ _ _ _ _ _ hPhase => exact Turn.settled_failFor host _ _ _ hPhase

/-- Nothing that is synced lacks a binding, a session or a connection. -/
theorem isUnequipped_eq_false (h : Outcome host c command after) (hc : c.Settled) {o : Occurrence}
    (ho : o ∈ after.log) : o.isUnequipped = false := by
  cases h with
  | orderly hLog => exact hLog.isUnequipped_eq_false ho
  | dialed hLog =>
    rw [hLog] at ho
    rw [List.mem_singleton.mp ho]
    rfl
  | left hLog =>
    obtain ⟨parting, hTeardown, hParting⟩ := Orderly.teardown host (Turn.note _ _)
    rw [hTeardown, Turn.log_note] at ho
    rcases List.mem_append.mp ho with ho | ho
    · rcases List.mem_append.mp ho with ho | ho
      · exact hLog.isUnequipped_eq_false ho
      · rw [List.mem_singleton.mp ho]
        rfl
    · exact hParting.isUnequipped_eq_false ho
  | @failed before symptoms cause hLog hSymptoms _ hEquipped _ hLinked hServer =>
    obtain ⟨server, hSome⟩ := hc.server_isSome hLinked
    have hDealt := before.dealt_failFor host symptoms cause (hServer.trans hSome)
    generalize (before.failFor host symptoms cause).log = log at hDealt ho
    cases hDealt with
    | intro hParting _ _ _ hReport =>
      simp only [List.mem_append, List.mem_cons] at ho
      rcases ho with ((ho | ho | rfl | ho) | ho) | ho
      · exact hLog.isUnequipped_eq_false ho
      · exact hSymptoms.isUnequipped_eq_false ho
      · exact hEquipped
      · exact Occurrence.isUnequipped_cleaning ho
      · exact hParting.isUnequipped_eq_false ho
      · exact hReport.isUnequipped_eq_false ho

end Outcome

namespace Channel

theorem handle_eq {host : Host} {c : Channel} (h : c.phase ≠ .shutdown) (command : Command) :
    c.handle host command =
      ((Turn.obey host { channel := c } command).channel,
        (Turn.obey host { channel := c } command).log) := by
  simp only [handle, h, if_false]

theorem handle_of_shutdown {host : Host} {c : Channel} (h : c.phase = .shutdown)
    (command : Command) : c.handle host command = (c, []) := by
  simp only [handle, h, if_true]

theorem settled_handle (host : Host) {c : Channel} (h : c.Settled) (command : Command) :
    (c.handle host command).1.Settled := by
  by_cases hPhase : c.phase = .shutdown
  · rw [handle_of_shutdown hPhase]
    exact h
  · rw [handle_eq hPhase]
    exact (h.outcome_obey hPhase command).settled

theorem isUnequipped_handle (host : Host) {c : Channel} (h : c.Settled) (command : Command)
    {o : Occurrence} (ho : o ∈ (c.handle host command).2) : o.isUnequipped = false := by
  by_cases hPhase : c.phase = .shutdown
  · rw [handle_of_shutdown hPhase] at ho
    cases ho
  · rw [handle_eq hPhase] at ho
    exact (h.outcome_obey hPhase command).isUnequipped_eq_false h ho

theorem run_nil (c : Channel) : c.run [] = (c, []) := rfl

theorem run_cons (c : Channel) (command : Host × Command) (rest : List (Host × Command)) :
    c.run (command :: rest) =
      (((c.handle command.1 command.2).1.run rest).1,
        (c.handle command.1 command.2).2 ++ ((c.handle command.1 command.2).1.run rest).2) := rfl

theorem run_append (c : Channel) (first rest : List (Host × Command)) :
    c.run (first ++ rest) =
      (((c.run first).1.run rest).1, (c.run first).2 ++ ((c.run first).1.run rest).2) := by
  induction first generalizing c with
  | nil => rfl
  | cons command more ih =>
    simp only [List.cons_append, run, ih, List.append_assoc]

theorem settled_run {c : Channel} (h : c.Settled) (commands : List (Host × Command)) :
    (c.run commands).1.Settled := by
  induction commands generalizing c with
  | nil => exact h
  | cons command rest ih => exact ih (settled_handle command.1 h command.2)

theorem isUnequipped_run {c : Channel} (h : c.Settled) (commands : List (Host × Command))
    {o : Occurrence} (ho : o ∈ (c.run commands).2) : o.isUnequipped = false := by
  induction commands generalizing c with
  | nil => cases ho
  | cons command rest ih =>
    rcases List.mem_append.mp ho with ho | ho
    · exact isUnequipped_handle command.1 h command.2 ho
    · exact ih (settled_handle command.1 h command.2) ho

namespace Settled

variable {c : Channel} (h : c.Settled)

include h

theorem count_le_one :
    [c.connection.isSome, c.attempt.isSome, c.reconnect.isSome].count true ≤ 1 := by
  cases hConnection : c.connection.isSome with
  | true =>
    obtain ⟨hAttempt, hReconnect⟩ := h.alone hConnection
    simp [hAttempt, hReconnect]
  | false =>
    cases hAttempt : c.attempt.isSome with
    | true => simp [h.exclusive hAttempt]
    | false => cases c.reconnect.isSome <;> decide

theorem connection_iff :
    c.connection.isSome = true ↔ c.phase = .connecting ∨ c.phase = .opened := by
  rw [h.connected]
  cases c.phase <;> simp [Phase.isConnected]

theorem nothing_under_way (hPhase : c.phase = .paused ∨ c.phase = .shutdown) :
    c.connection = none ∧ c.attempt = none ∧ c.reconnect = none := by
  rcases hPhase with hPhase | hPhase
  · exact h.at_rest (by rw [hPhase]; rfl) (by rw [hPhase]; exact Phase.noConfusion)
  · exact h.at_rest (by rw [hPhase]; rfl) (by rw [hPhase]; exact Phase.noConfusion)

end Settled

/-- After every run there is at most one of a connection, an attempt and a timer, each with the
phase and the equipment that it needs, and every sync so far had what it takes. -/
theorem at_most_one_under_way (settings : ChannelSettings) (supported : DirectionMap)
    (commands : List (Host × Command)) :
    let c := ((Channel.start settings supported).run commands).1
    let log := ((Channel.start settings supported).run commands).2
    [c.connection.isSome, c.attempt.isSome, c.reconnect.isSome].count true ≤ 1 ∧
      (c.connection.isSome = true ↔ c.phase = .connecting ∨ c.phase = .opened) ∧
      (c.attempt.isSome = true ∨ c.reconnect.isSome = true → c.phase = .closed) ∧
      (c.connection.isSome = true → c.server.isSome = true ∧ c.session.isSome = true) ∧
      (c.phase = .paused ∨ c.phase = .shutdown →
        c.connection = none ∧ c.attempt = none ∧ c.reconnect = none) ∧
      (∀ missing, .syncDropped (.notBound missing) ∉ log) ∧ .syncFailed .notConnected ∉ log := by
  intro c log
  have hSettled : c.Settled := settled_run (.start settings supported) commands
  have hLog : ∀ o ∈ log, o.isUnequipped = false := fun o ho =>
    isUnequipped_run (.start settings supported) commands ho
  refine ⟨hSettled.count_le_one, hSettled.connection_iff, hSettled.waiting, ?_,
    hSettled.nothing_under_way, ?_, ?_⟩
  · intro hConnection
    exact ⟨(hSettled.equipped hConnection).server, (hSettled.equipped hConnection).session⟩
  · intro missing hDropped
    cases hLog _ hDropped
  · intro hFailed
    cases hLog _ hFailed

end Channel

end DeviceUplink
