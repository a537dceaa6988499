import DeviceUplink.Proofs.Channel.Invariant

/-!
# One report for one failure

In one command a channel either finds no failure, and then does nothing that only a failure brings
about, or it finds one and deals with that once. `Accounted` says which failures there are to be
found.
-/

namespace DeviceUplink

def Quiet (log : List Occurrence) : Prop :=
  ∀ o ∈ log, o.isFailure = false ∧ o.isAftermath = false

namespace Quiet

theorem append {log more : List Occurrence} (h : Quiet log) (hMore : Quiet more) :
    Quiet (log ++ more) := by
  intro o ho
  rcases List.mem_append.mp ho with ho | ho
  · exact h o ho
  · exact hMore o ho

theorem singleton {o : Occurrence} (hFailure : o.isFailure = false)
    (hAftermath : o.isAftermath = false) : Quiet [o] := by
  intro other hOther
  rw [List.mem_singleton.mp hOther]
  exact ⟨hFailure, hAftermath⟩

end Quiet

namespace Orderly

variable {log : List Occurrence} (h : Orderly log)

include h

theorem quiet : Quiet log := by
  intro o ho
  obtain ⟨hFailure, hAftermath, _⟩ := Occurrence.isOrderly_iff.mp (h o ho)
  exact ⟨hFailure, hAftermath⟩

theorem isDial_eq_false {o : Occurrence} (ho : o ∈ log) : o.isDial = false := by
  obtain ⟨_, _, _, hDial, _⟩ := Occurrence.isOrderly_iff.mp (h o ho)
  exact hDial

theorem isUnsent_eq_false {o : Occurrence} (ho : o ∈ log) : o.isUnsent = false := by
  obtain ⟨_, _, _, _, _, hUnsent⟩ := Occurrence.isOrderly_iff.mp (h o ho)
  exact hUnsent

theorem graceful_notMem (connection : Nat) : .disconnected connection .graceful ∉ log := by
  intro hLeave
  cases h _ hLeave

end Orderly

theorem Symptoms.quiet {cause : Occurrence} {symptoms : List Occurrence}
    (h : Symptoms cause symptoms) : Quiet symptoms := by
  cases h with
  | none => intro o ho; cases ho
  | _ => exact .singleton rfl rfl

namespace Report

variable {isOffline : Bool} {decision : FailoverDecision} {server : Server} {timer : Option Nat}
  {report : List Occurrence} (h : Report isOffline decision server timer report)

include h

theorem graceful_notMem (connection : Nat) : .disconnected connection .graceful ∉ report := by
  cases h <;> simp

theorem countP_isReport : report.countP Occurrence.isReport = 1 := by
  cases h <;> rfl

theorem countP_isFailure : report.countP Occurrence.isFailure = 0 := by
  cases h <;> rfl

end Report

theorem Symptoms.graceful_notMem {cause : Occurrence} {symptoms : List Occurrence}
    (h : Symptoms cause symptoms) (connection : Nat) :
    .disconnected connection .graceful ∉ symptoms := by
  cases h <;> simp

namespace Occurrence

theorem graceful_notMem_cleaning (cause : Occurrence) (connection : Nat) :
    disconnected connection .graceful ∉ cause.cleaning := by
  unfold cleaning
  split <;> simp

def isCleaning : Occurrence → Bool
  | identityCleaned => true
  | _ => false

def isBadCredentials : Occurrence → Bool
  | refused _ .refuseBadCredentials => true
  | _ => false

theorem cleaning_cases (cause : Occurrence) :
    (∃ connection, cause = refused connection .refuseBadCredentials) ∨
      cause.cleaning = [] ∧ cause.isBadCredentials = false := by
  cases cause with
  | refused connection code =>
    cases code with
    | refuseBadCredentials => exact .inl ⟨connection, rfl⟩
    | _ => exact .inr ⟨rfl, rfl⟩
  | _ => exact .inr ⟨rfl, rfl⟩

section

variable {cause : Occurrence} (h : cause.isFailure = true)

include h

theorem countP_isFailure : (cause :: cause.cleaning).countP isFailure = 1 := by
  rcases cause.cleaning_cases with ⟨_, rfl⟩ | ⟨hNone, _⟩
  · rfl
  · simp [hNone, h]

theorem countP_isReport : (cause :: cause.cleaning).countP isReport = 0 := by
  rcases cause.cleaning_cases with ⟨_, rfl⟩ | ⟨hNone, _⟩
  · rfl
  · cases cause <;> simp_all [isReport, isFailure]

theorem countP_isCleaning :
    (cause :: cause.cleaning).countP isCleaning =
      (cause :: cause.cleaning).countP isBadCredentials := by
  rcases cause.cleaning_cases with ⟨_, rfl⟩ | ⟨hNone, hOther⟩
  · rfl
  · rw [hNone, List.countP_singleton, List.countP_singleton, hOther]
    cases cause <;> simp_all [isCleaning, isFailure]

end

end Occurrence

inductive Verdict (host : Host) (c : Channel) (command : Command) (next : Channel) :
    List Occurrence → Prop
  | quiet {log : List Occurrence} (hQuiet : Quiet log) (hSent : ∀ o ∈ log, o.isUnsent = false)
      (hEnd : c.isLinked = true → next.isLinked = true ∨ command.isDeparture c = true ∨
        ∃ connection, .disconnected connection .graceful ∈ log) :
      Verdict host c command next log
  | failed {before log : List Occurrence} {cause : Occurrence} {server : Server}
      (hBefore : Quiet before) (hCause : cause.isFailure = true) (hLinked : c.isLinked = true)
      (hDeparture : command.isDeparture c = false)
      (hLeave : ∀ connection, .disconnected connection .graceful ∉ log)
      (hServer : c.server = some server)
      (hDealt : Dealt host c server (before ++ cause :: cause.cleaning) next log) :
      Verdict host c command next log

/-- Of the channel only these matter for how a failure is dealt with. -/
theorem Dealt.of_same {host : Host} {c d next : Channel} {server : Server}
    {found log : List Occurrence} (h : Dealt host c server found next log)
    (hChecker : c.hasChecker = d.hasChecker)
    (hConnection : ∀ connection, d.connection = some connection → c.connection = some connection) :
    Dealt host d server found next log := by
  cases h with
  | intro hParting hClosed hNone hAttempt hReport =>
    refine .intro hParting ?_ hNone hAttempt ?_
    · intro connection hSome
      exact hClosed connection (hConnection connection hSome)
    · simpa only [Channel.isOffline, hChecker] using hReport

/-- A failure is dealt with and no server has taken its leave. -/
theorem Dealt.graceful_notMem {host : Host} {c next : Channel} {server : Server}
    {found log : List Occurrence} (h : Dealt host c server found next log) (connection : Nat)
    (hFound : .disconnected connection .graceful ∉ found) :
    .disconnected connection .graceful ∉ log := by
  cases h with
  | intro hParting _ _ _ hReport =>
    simp only [List.mem_append, not_or]
    exact ⟨⟨hFound, hParting.graceful_notMem connection⟩, hReport.graceful_notMem connection⟩

namespace Outcome

variable {host : Host} {c : Channel} {command : Command} {after : Turn}

theorem verdict (h : Outcome host c command after) (hc : c.Settled) :
    Verdict host c command after.channel after.log := by
  cases h with
  | orderly hLog _ _ hStays =>
    refine .quiet hLog.quiet (fun o ho => hLog.isUnsent_eq_false ho) ?_
    intro hLinked
    rcases hStays hLinked with hStays | hDeparture
    · exact .inl hStays
    · exact .inr (.inl hDeparture)
  | dialed hLog _ _ _ hUnlinked =>
    rw [hLog]
    refine .quiet (.singleton rfl rfl) ?_ ?_
    · intro o ho
      rw [List.mem_singleton.mp ho]
      rfl
    · intro hLinked
      rw [hUnlinked] at hLinked
      cases hLinked
  | @left before connection hLog =>
    obtain ⟨parting, hTeardown, hParting⟩ :=
      Orderly.teardown host (before.note (.disconnected connection .graceful))
    rw [hTeardown, Turn.log_note]
    refine .quiet ((hLog.quiet.append (.singleton rfl rfl)).append hParting.quiet) ?_ ?_
    · intro o ho
      rcases List.mem_append.mp ho with ho | ho
      · rcases List.mem_append.mp ho with ho | ho
        · exact hLog.isUnsent_eq_false ho
        · rw [List.mem_singleton.mp ho]
          rfl
      · exact hParting.isUnsent_eq_false ho
    · intro _
      exact .inr (.inr ⟨connection, by simp⟩)
  | @failed before symptoms cause hLog hSymptoms hFailure _ hDeparture hLinked hServer hChecker
      hConnection =>
    obtain ⟨server, hSome⟩ := hc.server_isSome hLinked
    have hDealt := before.dealt_failFor host symptoms cause (hServer.trans hSome)
    rw [← List.append_assoc] at hDealt
    refine .failed (hLog.quiet.append hSymptoms.quiet) hFailure hLinked hDeparture ?_ hSome
      (hDealt.of_same hChecker hConnection)
    intro connection
    refine hDealt.graceful_notMem connection ?_
    simp only [List.mem_append, List.mem_cons, not_or]
    refine ⟨⟨hLog.graceful_notMem connection, hSymptoms.graceful_notMem connection⟩, ?_,
      Occurrence.graceful_notMem_cleaning cause connection⟩
    rintro rfl
    cases hFailure

end Outcome

namespace Occurrence

def OfFailure (p : Occurrence → Bool) : Prop :=
  ∀ o, p o = true → o.isFailure = true ∨ o.isAftermath = true

theorem ofFailure_isFailure : OfFailure isFailure := fun _ h => .inl h

theorem ofFailure_isReport : OfFailure isReport := by
  intro o h
  cases o <;> simp_all [isReport, isAftermath]

theorem ofFailure_isCleaning : OfFailure isCleaning := by
  intro o h
  cases o <;> simp_all [isCleaning, isAftermath]

theorem ofFailure_isBadCredentials : OfFailure isBadCredentials := by
  intro o h
  cases o <;> simp_all [isBadCredentials, isFailure]

end Occurrence

theorem Quiet.countP_eq_zero {log : List Occurrence} (h : Quiet log) {p : Occurrence → Bool}
    (hp : Occurrence.OfFailure p) : log.countP p = 0 := by
  refine List.countP_eq_zero.mpr fun o ho hPo => ?_
  obtain ⟨hFailure, hAftermath⟩ := h o ho
  rcases hp o hPo with hBad | hBad
  · rw [hFailure] at hBad
    cases hBad
  · rw [hAftermath] at hBad
    cases hBad

namespace Verdict

variable {host : Host} {c next : Channel} {command : Command} {log : List Occurrence}

/-- What counts in a log is a failure, the cleaning for it and its report, if anything. -/
theorem countP_eq (h : Verdict host c command next log) :
    (∀ p, Occurrence.OfFailure p → log.countP p = 0) ∨
      ∃ cause report isOffline decision server timer, cause.isFailure = true ∧
        Report isOffline decision server timer report ∧
        ∀ p, Occurrence.OfFailure p →
          log.countP p = (cause :: cause.cleaning).countP p + report.countP p := by
  cases h with
  | quiet hQuiet => exact .inl fun p hp => hQuiet.countP_eq_zero hp
  | @failed before log cause server hBefore hCause _ _ _ _ hDealt =>
    cases hDealt with
    | @intro parting report hParting _ _ _ hReport =>
      refine .inr ⟨cause, report, _, _, _, _, hCause, hReport, ?_⟩
      intro p hp
      simp only [List.countP_append, hBefore.countP_eq_zero hp, hParting.quiet.countP_eq_zero hp]
      omega

theorem countP_isReport (h : Verdict host c command next log) :
    log.countP Occurrence.isReport = log.countP Occurrence.isFailure ∧
      log.countP Occurrence.isFailure ≤ 1 := by
  rcases h.countP_eq with hNone | ⟨cause, report, _, _, _, _, hCause, hReport, hCount⟩
  · rw [hNone _ Occurrence.ofFailure_isReport, hNone _ Occurrence.ofFailure_isFailure]
    exact ⟨rfl, Nat.zero_le 1⟩
  · rw [hCount _ Occurrence.ofFailure_isReport, hCount _ Occurrence.ofFailure_isFailure,
      hReport.countP_isReport, hReport.countP_isFailure, Occurrence.countP_isFailure hCause,
      Occurrence.countP_isReport hCause]
    decide

/-- The identity is cleaned for bad credentials and for nothing else. -/
theorem countP_isCleaning (h : Verdict host c command next log) :
    log.countP Occurrence.isCleaning = log.countP Occurrence.isBadCredentials := by
  rcases h.countP_eq with hNone | ⟨cause, report, _, _, _, _, hCause, hReport, hCount⟩
  · rw [hNone _ Occurrence.ofFailure_isCleaning, hNone _ Occurrence.ofFailure_isBadCredentials]
  · rw [hCount _ Occurrence.ofFailure_isCleaning, hCount _ Occurrence.ofFailure_isBadCredentials]
    rw [Occurrence.countP_isCleaning hCause]
    cases hReport <;> rfl

/-- What ends on purpose or by a graceful leave is no failure. -/
theorem quiet_of_end (h : Verdict host c command next log)
    (hEnd : command.isDeparture c = true ∨
      ∃ connection, .disconnected connection .graceful ∈ log) : Quiet log := by
  cases h with
  | quiet hQuiet => exact hQuiet
  | failed _ _ _ hDeparture hLeave =>
    rcases hEnd with hEnd | ⟨connection, hEnd⟩
    · rw [hDeparture] at hEnd
      cases hEnd
    · exact absurd hEnd (hLeave connection)

end Verdict

namespace Channel.Settled

variable {c : Channel} (h : c.Settled)

include h

theorem phase_ne_shutdown (hLinked : c.isLinked = true) : c.phase ≠ .shutdown := by
  intro hPhase
  obtain ⟨hConnection, hAttempt, _⟩ := h.nothing_under_way (.inr hPhase)
  rw [isLinked_eq_false hAttempt hConnection] at hLinked
  cases hLinked

theorem handle_of_isLinked (host : Host) (hLinked : c.isLinked = true) (command : Command) :
    c.handle host command =
      ((Turn.obey host { channel := c } command).channel,
        (Turn.obey host { channel := c } command).log) :=
  handle_eq (h.phase_ne_shutdown hLinked) command

theorem verdict (host : Host) (command : Command) :
    Verdict host c command (c.handle host command).1 (c.handle host command).2 := by
  by_cases hPhase : c.phase = .shutdown
  · rw [handle_of_shutdown hPhase]
    refine .quiet ?_ ?_ .inl
    · intro o ho
      cases ho
    · intro o ho
      cases ho
  · rw [handle_eq hPhase]
    exact (h.outcome_obey hPhase command).verdict h

end Channel.Settled

end DeviceUplink
