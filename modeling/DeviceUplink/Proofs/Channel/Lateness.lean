import DeviceUplink.Proofs.Channel.Origins

/-!
# Late events

An event of a connection, an attempt or a timer that is not present changes nothing, and once it is
late it stays late. So a run is the same without its late events.
-/

namespace DeviceUplink

/-- The command is an event of something that is not present. -/
def Command.isLate (c : Channel) (command : Command) : Bool :=
  command.origin?.any fun origin => origin ∉ c.origins

theorem Command.isLate_iff {c : Channel} {command : Command} :
    command.isLate c = true ↔ ∃ origin, command.origin? = some origin ∧ origin ∉ c.origins := by
  simp [isLate, Option.any_eq_true]

namespace Channel

/-- The commands of a run that are not late when their turn comes. -/
def timely (c : Channel) : List (Host × Command) → List (Host × Command)
  | [] => []
  | (host, command) :: rest =>
    let later := timely (c.handle host command).1 rest
    if command.isLate c then later else (host, command) :: later

variable {c : Channel}

theorem handle_of_isLate {command : Command} (h : command.isLate c = true) (host : Host) :
    c.handle host command = (c, []) := by
  obtain ⟨origin, hOrigin, hGone⟩ := Command.isLate_iff.mp h
  by_cases hPhase : c.phase = .shutdown
  · exact handle_of_shutdown hPhase command
  · rw [handle_eq hPhase]
    cases command with
    | timerFired timer =>
      cases hOrigin
      simp [Turn.obey, Turn.timerFired, mt timer_mem_origins.mpr hGone]
    | dialEnded attempt error? =>
      cases hOrigin
      simp [Turn.obey, Turn.dialEnded, mt attempt_mem_origins.mpr hGone]
    | inbound connection frames size =>
      cases hOrigin
      simp [Turn.obey, Turn.inbound, mt connection_mem_origins.mpr hGone]
    | readFailed connection error =>
      cases hOrigin
      simp [Turn.obey, Turn.readFailed, mt connection_mem_origins.mpr hGone]
    | keepAliveTick connection =>
      cases hOrigin
      simp [Turn.obey, Turn.ping, mt connection_mem_origins.mpr hGone]
    | _ => cases hOrigin

theorem run_timely (c : Channel) (commands : List (Host × Command)) :
    c.run (c.timely commands) = c.run commands := by
  induction commands generalizing c with
  | nil => rfl
  | cons command rest ih =>
    simp only [timely]
    split
    · next hLate =>
      rw [run_cons, handle_of_isLate hLate]
      exact ih c
    · rw [run_cons, run_cons, ih]

theorem timely_timely (c : Channel) (commands : List (Host × Command)) :
    c.timely (c.timely commands) = c.timely commands := by
  induction commands generalizing c with
  | nil => rfl
  | cons command rest ih =>
    simp only [timely]
    split
    · next hLate =>
      rw [handle_of_isLate hLate]
      exact ih c
    · next hTimely => rw [timely, if_neg hTimely, ih]

/-- What was brought up and has gone does not come back, because its number is taken. -/
theorem origin_stays_gone (h : c.Settled) {origin : Origin} (hNumber : origin.number ≤ c.lastId)
    (hGone : origin ∉ c.origins) (more : List (Host × Command)) :
    origin ∉ (c.run more).1.origins := by
  intro hBack
  have hBrings := h.brings_run more
  rcases hBrings.origins origin hBack with hOld | hNew
  · exact hGone hOld
  · exact absurd hNumber (Nat.not_le.mpr (hBrings.lt_number hNew))

/-- In every run late events change nothing and cause nothing. What has been brought up has the
numbers from one on, each once, and everything present is of it; a late event whose number has been
given out stays late, whatever the number was given to. So runs with the same timely commands are
the same. -/
theorem late_events_change_nothing (settings : ChannelSettings) (supported : DirectionMap)
    (commands : List (Host × Command)) :
    let start := Channel.start settings supported
    let c := (start.run commands).1
    let past := DeviceUplink.origins (start.run commands).2
    (∀ command : Command, command.isLate c = true → ∀ host, c.handle host command = (c, [])) ∧
      past.map Origin.number = List.range' 1 c.lastId ∧ (∀ origin ∈ c.origins, origin ∈ past) ∧
      (∀ (command : Command) (origin : Origin), command.origin? = some origin →
        origin.number ≤ c.lastId → command.isLate c = true →
        ∀ more, command.isLate (c.run more).1 = true) ∧
      start.run (start.timely commands) = start.run commands ∧
      start.timely (start.timely commands) = start.timely commands ∧
      ∀ others, start.timely others = start.timely commands →
        start.run others = start.run commands := by
  intro start c past
  have hStart : start.Settled := .start settings supported
  have hBrings : start.Brings past c := hStart.brings_run commands
  refine ⟨fun command hLate host => handle_of_isLate hLate host, ?_, ?_, ?_,
    run_timely start commands, timely_timely start commands, ?_⟩
  · rw [hBrings.numbers, hBrings.lastId]
    exact congrArg (List.range' 1) (Nat.zero_add _).symm
  · intro origin hOrigin
    have hFresh : origin ∉ start.origins := by cases origin <;> simp [start, Channel.start]
    exact (hBrings.origins origin hOrigin).resolve_left hFresh
  · intro command origin hOrigin hNumber hLate more
    obtain ⟨_, hSame, hGone⟩ := Command.isLate_iff.mp hLate
    cases hOrigin.symm.trans hSame
    have hStays := origin_stays_gone (settled_run hStart commands) hNumber hGone more
    exact Command.isLate_iff.mpr ⟨origin, hOrigin, hStays⟩
  · intro others hSame
    rw [← run_timely start others, hSame, run_timely]

end Channel

end DeviceUplink
