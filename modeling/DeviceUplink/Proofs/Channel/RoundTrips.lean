import DeviceUplink.Proofs.Channel.Beats
import DeviceUplink.Proofs.Channel.Calm
import DeviceUplink.Proofs.Channel.Delivery
import DeviceUplink.Proofs.Channel.Passage
import DeviceUplink.Proofs.Channel.Rekeying

/-!
# Round trips are of one connection

The last round trip of a channel, and the ping it waits for, are what the beats of the run say.
-/

namespace DeviceUplink

/-- What a channel knows of round trips is what the beats so far say. -/
structure Channel.Timed (c : Channel) (history : List Beat) : Prop where
  outstanding : c.roundTrip.outstanding = c.connection.bind (awaited history)
  last : c.roundTrip.last = (roundTrips [] history).getLast?
  shown : c.statistics.lastRoundTrip = c.roundTrip.last
  bound : (roundTrips [] history).length + c.roundTrip.outstanding.toList.length ≤
    history.countP Beat.isPing
  known : ∀ beat ∈ history, beat.connection ≤ c.lastId
  numbered : ∀ n, c.connection = some n → n ≤ c.lastId

namespace Channel.Timed

variable {c : Channel} {history : List Beat}

theorem start (settings : ChannelSettings) (supported : DirectionMap) :
    (Channel.start settings supported).Timed [] where
  outstanding := rfl
  last := rfl
  shown := rfl
  bound := Nat.le_refl _
  known := List.forall_mem_nil _
  numbered := by rintro n ⟨⟩

theorem calm {t u : Turn} (h : t.channel.Timed history) (hCalm : t.Calm u) :
    u.channel.Timed history where
  outstanding := by
    rcases hCalm.outstanding with ⟨hConnection, hOutstanding⟩ | ⟨hConnection, hOutstanding⟩
    · rw [hConnection, hOutstanding, h.outstanding]
    · rw [hConnection, hOutstanding]
      rfl
  last := hCalm.last.trans h.last
  shown := by rw [hCalm.shown, hCalm.last, h.shown]
  bound := by
    rcases hCalm.outstanding with ⟨_, hOutstanding⟩ | ⟨_, hOutstanding⟩
    · rw [hOutstanding]
      exact h.bound
    · rw [hOutstanding]
      exact Nat.le_trans (Nat.le_add_right _ _) h.bound
  known beat hBeat := Nat.le_trans (h.known beat hBeat) hCalm.lastId
  numbered n hConnection := by
    rcases hCalm.outstanding with ⟨hSame, _⟩ | ⟨hNone, _⟩
    · exact Nat.le_trans (h.numbered n (hSame.symm.trans hConnection)) hCalm.lastId
    · rw [hNone] at hConnection
      cases hConnection

/-- A connection comes up with a number that no beat has. -/
theorem opened (h : c.Timed history) (hConnection : c.connection = none) {next : Channel}
    (hNext : next.connection = some (c.lastId + 1)) (hLast : next.lastId = c.lastId + 1)
    (hRoundTrip : next.roundTrip = c.roundTrip)
    (hShown : next.statistics.lastRoundTrip = c.statistics.lastRoundTrip) :
    next.Timed history where
  outstanding := by
    have hFresh : awaited history (c.lastId + 1) = none := by
      apply awaited_of_forall_ne
      intro beat hBeat
      exact Nat.ne_of_lt (Nat.lt_succ_of_le (h.known beat hBeat))
    rw [hNext, Option.bind_some, hFresh, hRoundTrip, h.outstanding, hConnection]
    rfl
  last := by rw [hRoundTrip, h.last]
  shown := by rw [hShown, hRoundTrip, h.shown]
  bound := by
    rw [hRoundTrip]
    exact h.bound
  known beat hBeat := by
    rw [hLast]
    exact Nat.le_succ_of_le (h.known beat hBeat)
  numbered n hn := by
    rw [hLast]
    exact Nat.le_of_eq (Option.some.inj (hn.symm.trans hNext))

theorem known_concat (h : c.Timed history) {beat : Beat}
    (hBeat : c.connection = some beat.connection) :
    ∀ other ∈ history ++ [beat], other.connection ≤ c.lastId := by
  intro other hOther
  rcases List.mem_append.mp hOther with hOld | hNew
  · exact h.known other hOld
  · rw [List.mem_singleton.mp hNew]
    exact h.numbered _ hBeat

theorem ping (h : c.Timed history) {connection : Nat} (hConnection : c.connection = some connection)
    (instant : Nat) {statistics : Statistics}
    (hShown : statistics.lastRoundTrip = c.statistics.lastRoundTrip) :
    Timed { c with statistics, roundTrip := c.roundTrip.recordPing instant }
      (history ++ [.ping connection instant]) where
  outstanding := by
    have hAwaited := awaited_concat history (.ping connection instant)
    simp only [Beat.connection] at hAwaited
    rw [hConnection, Option.bind_some, hAwaited]
    rfl
  last := by
    simpa [roundTrips_concat, Beat.measure?, RoundTrip.recordPing] using h.last
  shown := hShown.trans h.shown
  bound := by
    have hBound := h.bound
    simp only [roundTrips_concat, Beat.measure?, RoundTrip.recordPing, List.countP_append,
      Option.toList_none, Option.toList_some, List.append_nil, List.length_singleton]
    simp only [List.countP_singleton, Beat.isPing, if_true]
    omega
  known := h.known_concat hConnection
  numbered := h.numbered

theorem measure?_pong (h : c.Timed history) {connection : Nat}
    (hConnection : c.connection = some connection) (instant : Nat) :
    Beat.measure? history (.pong connection instant) = (c.roundTrip.processPong instant).2 := by
  have hAwaited : c.roundTrip.outstanding = awaited history connection := by
    rw [h.outstanding, hConnection, Option.bind_some]
  simp only [Beat.measure?, RoundTrip.processPong, ← hAwaited]
  cases c.roundTrip.outstanding <;> rfl

theorem pong (h : c.Timed history) {connection : Nat} (hConnection : c.connection = some connection)
    (instant : Nat) {statistics : Statistics}
    (hShown : statistics.lastRoundTrip = (c.roundTrip.processPong instant).1.last) :
    Timed { c with statistics, roundTrip := (c.roundTrip.processPong instant).1 }
      (history ++ [.pong connection instant]) where
  outstanding := by
    have hAwaited := awaited_concat history (.pong connection instant)
    simp only [Beat.connection] at hAwaited
    rw [hConnection, Option.bind_some, hAwaited, RoundTrip.outstanding_processPong]
    rfl
  last := by
    rw [roundTrips_concat, h.measure?_pong hConnection, RoundTrip.processPong]
    split
    · simpa using h.last
    · simp
  shown := hShown
  bound := by
    have hBound := h.bound
    rw [roundTrips_concat, h.measure?_pong hConnection, RoundTrip.processPong, List.countP_append]
    split
    · next hNone => simpa [hNone] using Nat.le_trans hBound (Nat.le_add_right _ _)
    · next hSome =>
      rw [hSome] at hBound
      simpa using Nat.le_trans hBound (Nat.le_add_right _ _)
  known := h.known_concat hConnection
  numbered := h.numbered

end Channel.Timed

def Frame.pong? (connection instant : Nat) : Frame → Option Beat
  | .pingResp => some (.pong connection instant)
  | _ => none

namespace Turn

variable {host : Host} {t : Turn} {history : List Beat} {connection : Nat}

def pongs (host : Host) (connection : Nat) (t : Turn) (frames : List Frame) : List Beat :=
  (t.taken host connection frames).filterMap (Frame.pong? connection host.now)

theorem pongs_of_ne (h : t.channel.connection ≠ some connection) (frames : List Frame) :
    t.pongs host connection frames = [] := by
  rw [pongs, taken_of_ne h, List.filterMap_nil]

def measured? (host : Host) (t : Turn) : Frame → Option Duration
  | .pingResp => (t.channel.roundTrip.processPong host.now).2
  | _ => none

theorem isPing_of_mem_pongs {frames : List Frame} {beat : Beat}
    (h : beat ∈ t.pongs host connection frames) : beat.isPing = false := by
  obtain ⟨frame, _, hPong⟩ := List.mem_filterMap.mp h
  cases frame <;> cases hPong
  rfl

theorem mem_of_mem_taken {frames : List Frame} {frame : Frame}
    (h : frame ∈ t.taken host connection frames) : frame ∈ frames := by
  induction frames generalizing t with
  | nil => exact h
  | cons first rest ih =>
    unfold taken at h
    split at h
    · rcases List.mem_cons.mp h with rfl | hRest
      · exact List.mem_cons_self ..
      · exact List.mem_cons_of_mem _ (ih hRest)
    · cases h

theorem pongs_of_not_mem {frames : List Frame} (h : .pingResp ∉ frames) :
    t.pongs host connection frames = [] := by
  apply List.filterMap_eq_nil_iff.mpr
  intro frame hFrame
  cases frame with
  | pingResp => exact absurd (mem_of_mem_taken hFrame) h
  | _ => rfl

theorem receive_pingResp (h : t.channel.phase.isConnected = true) :
    t.receive host connection .pingResp = (t.countReceived host.now).recordPong host := by
  have hPhase : (t.countReceived host.now).channel.phase.isConnected = true := h
  simp only [receive, inputOfFrame, notePart, input, Phase.step, hPhase, if_true, List.foldl_cons,
    List.foldl_nil, perform]
  rw [setPhase_self rfl]

theorem shown_receive (host : Host) (h : t.channel.Equipped)
    (hConnection : t.channel.connection = some connection)
    (hTimed : t.channel.Timed history) (frame : Frame) :
    (t.receive host connection frame).channel.statistics.lastRoundTrip =
      (t.measured? host frame).or t.channel.statistics.lastRoundTrip := by
  by_cases hFrame : frame = .pingResp
  · subst hFrame
    have hLast : ((t.countReceived host.now).recordPong host).channel.statistics.lastRoundTrip =
        (t.channel.roundTrip.processPong host.now).1.last := rfl
    rw [receive_pingResp h.connected, hLast, measured?, hTimed.shown, RoundTrip.processPong]
    cases t.channel.roundTrip.outstanding <;> rfl
  · have hNone : t.measured? host frame = none := by
      cases frame <;> first | rfl | exact absurd rfl hFrame
    rw [hNone, Option.none_or]
    exact (Calm.receive host h hConnection hFrame).shown

theorem timed_receive (host : Host) (h : t.channel.Equipped)
    (hConnection : t.channel.connection = some connection)
    (hTimed : t.channel.Timed history) (frame : Frame) :
    (t.receive host connection frame).channel.Timed
        (history ++ (frame.pong? connection host.now).toList) ∧
      pinged (t.receive host connection frame).log = pinged t.log := by
  by_cases hFrame : frame = .pingResp
  · subst hFrame
    rw [receive_pingResp h.connected]
    exact ⟨hTimed.pong hConnection host.now rfl, rfl⟩
  · have hCalm := Calm.receive host h hConnection hFrame
    have hNone : frame.pong? connection host.now = none := by
      cases frame <;> first | rfl | exact absurd rfl hFrame
    rw [hNone, Option.toList_none, List.append_nil]
    exact ⟨hTimed.calm hCalm, hCalm.pinged⟩

theorem timed_receiveAll (host : Host) (h : t.channel.Equipped)
    (hConnection : t.channel.connection = some connection) (hTimed : t.channel.Timed history)
    (frames : List Frame) :
    (t.receiveAll host connection frames).channel.Timed
        (history ++ t.pongs host connection frames) ∧
      pinged (t.receiveAll host connection frames).log = pinged t.log := by
  induction frames generalizing t history with
  | nil =>
    rw [pongs, taken, List.filterMap_nil, List.append_nil]
    exact ⟨hTimed, rfl⟩
  | cons frame rest ih =>
    obtain ⟨hFirst, hPinged⟩ := timed_receive host h hConnection hTimed frame
    have hPongs : t.pongs host connection (frame :: rest) =
        (frame.pong? connection host.now).toList ++
          (t.receive host connection frame).pongs host connection rest := by
      rw [pongs, taken_cons hConnection, List.filterMap_cons]
      cases frame.pong? connection host.now <;> rfl
    rw [receiveAll_cons host hConnection, hPongs, ← List.append_assoc, ← hPinged]
    rcases connection_receive host h hConnection frame with ⟨hLive, hEquipped⟩ | hEnded
    · exact ih hEquipped hLive hFirst
    · have hOther : (t.receive host connection frame).channel.connection ≠ some connection := by
        simp [hEnded]
      rw [receiveAll_of_ne host hOther, pongs_of_ne hOther, List.append_nil]
      exact ⟨hFirst, rfl⟩

end Turn

/-- The channel knows what was before this turn, these answers and the pings in the log. -/
def Turn.Timed (host : Host) (past answers : List Beat) (t : Turn) : Prop :=
  t.channel.Timed (past ++ (answers ++ (pinged t.log).map (.ping · host.now)))

theorem Turn.Timed.of_silent {host : Host} {past : List Beat} {t : Turn}
    (h : t.channel.Timed past) (hPinged : pinged t.log = []) : t.Timed host past [] := by
  rw [Turn.Timed, hPinged, List.map_nil, List.append_nil, List.append_nil]
  exact h

namespace Channel

def answers (host : Host) (c : Channel) : Command → List Beat
  | .inbound connection frames size =>
    (Turn.countBytes { channel := c } size).pongs host connection frames
  | _ => []

/-- The beats of one command, of which none has both kinds. -/
def beats (host : Host) (c : Channel) (command : Command) : List Beat :=
  c.answers host command ++ (pinged (c.handle host command).2).map (.ping · host.now)

def history (c : Channel) : List (Host × Command) → List Beat
  | [] => []
  | (host, command) :: rest => c.beats host command ++ (c.handle host command).1.history rest

variable {c : Channel} {host : Host} {past : List Beat}

theorem Timed.of_calm (h : c.Timed past) {u : Turn} (hCalm : Turn.Calm { channel := c } u) :
    u.Timed host past [] :=
  .of_silent (h.calm hCalm) hCalm.pinged

theorem Timed.inbound (h : c.Timed past) (hEquipped : c.Equipped) (connection : Nat)
    (frames : List Frame) (size : Nat) :
    (Turn.inbound host { channel := c } connection frames size).Timed host past
      ((Turn.countBytes { channel := c } size).pongs host connection frames) := by
  simp only [Turn.inbound]
  split
  · next hConnection =>
    have hCounted : Turn.Calm { channel := c } (Turn.countBytes { channel := c } size) :=
      .of_same rfl rfl rfl rfl rfl
    obtain ⟨hTimed, hPinged⟩ := Turn.timed_receiveAll host { hEquipped with }
      (by exact hConnection) (h.calm hCounted) frames
    rw [Turn.Timed, hPinged, hCounted.pinged]
    simpa [pinged] using hTimed
  · next hOther =>
    rw [Turn.pongs_of_ne (by exact hOther)]
    exact h.of_calm (.refl _)

theorem Timed.keepAlive (h : c.Timed past) (hEquipped : c.Equipped) (connection : Nat) :
    (Turn.ping host { channel := c } connection).Timed host past [] := by
  simp only [Turn.ping]
  split
  · next hConnection =>
    rcases Turn.send_cases (t := { channel := c }) host hConnection .pingReq with
      ⟨bytes, _, hSend⟩ | ⟨error, hSend, _⟩
    · simp only [hSend]
      exact h.ping hConnection host.now rfl
    · simp only [hSend]
      exact h.of_calm (.connectionLost host hEquipped (.ping connection error) rfl rfl)
  · exact h.of_calm (.refl _)

theorem Timed.talk (h : c.Timed past) (hEquipped : c.Equipped) {command : Command}
    (hTalk : command.isTalk = true) :
    (Turn.obey host { channel := c } command).Timed host past (c.answers host command) := by
  obtain ⟨connection, hConnection⟩ := Option.isSome_iff_exists.mp hEquipped.connection
  cases command with
  | sync transports => exact h.of_calm (.sync host hEquipped hConnection transports)
  | syncAll => exact h.of_calm (.syncAll host hEquipped hConnection)
  | syncAck transports => exact h.of_calm (.syncAck host hEquipped hConnection transports)
  | inbound other frames size => exact h.inbound hEquipped other frames size
  | readFailed other error =>
    apply h.of_calm
    simp only [Turn.obey, Turn.readFailed]
    split
    · exact .connectionLost host hEquipped (.none _) rfl rfl
    · exact .refl _
  | keepAliveTick other => exact h.keepAlive hEquipped other
  | _ => cases hTalk

/-- A command that is not for a live connection has no beats. -/
theorem Timed.deed (h : c.Timed past) (hc : c.Settled) {command : Command} {after : Turn}
    (hDeed : Deed host c command after) (hQuiet : command.isTalk = false) :
    after.Timed host past [] := by
  have hKeyed : ∀ server, Turn.Calm { channel := c } (Turn.keyed host c server) := by
    intro server
    obtain ⟨session, more, hEq, hMore⟩ := Turn.keyed_eq host c server
    have hMade : Turn.Calm { channel := c } { channel := { c with session }, log := more } :=
      .of_prelude hMore session { channel := c }
    rw [hEq]
    exact hMade.trans (.of_same rfl rfl rfl rfl rfl)
  have hPhase : ∀ phase, Turn.Calm { channel := c } (Turn.setPhase { channel := c } phase) :=
    fun phase => .of_same rfl rfl rfl rfl rfl
  have hEnded : Turn.Calm { channel := c } { channel := { c with attempt := none } } :=
    .of_same rfl rfl rfl rfl rfl
  cases hDeed with
  | nothing | boundMultiplexer | boundDemultiplexer | boundChecker | redescribed | unaimed =>
    exact h.of_calm (.of_same rfl rfl rfl rfl rfl)
  | rekeyed => exact h.of_calm (hKeyed _)
  | retargeted => exact h.of_calm (((hKeyed _).trans (.teardown host _)).trans (.withTimer _ _))
  | suspended | stopped => exact h.of_calm ((hPhase _).trans (.teardown host _))
  | resumed => exact h.of_calm ((hPhase _).trans (.withTimer _ _))
  | dialed =>
    exact h.of_calm (.of_asides (by simp [Occurrence.pinged?]) rfl rfl rfl rfl (Nat.le_succ _))
  | unreached => exact h.of_calm (hEnded.trans (.failFor (.none _) rfl host _))
  | begun hAttempt hBegun =>
    have hConnection : c.connection = none := by
      refine Option.not_isSome_iff_eq_none.mp fun hLive => ?_
      rw [(hc.alone hLive).1] at hAttempt
      cases hAttempt
    cases hBegun with
    | live => exact .of_silent (h.opened hConnection rfl rfl rfl rfl) rfl
  | stuck _ hBegun => exact h.of_calm (hEnded.trans (.stuck hBegun _))
  | live hTalk =>
    rw [hTalk] at hQuiet
    cases hQuiet

theorem answers_of_unconnected (h : c.connection = none) (command : Command) :
    c.answers host command = [] := by
  cases command with
  | inbound connection frames size =>
    apply Turn.pongs_of_ne
    simp [Turn.countBytes, Turn.update, h]
  | _ => rfl

theorem Timed.obey (h : c.Timed past) (hc : c.Settled) (hRunning : c.phase ≠ .shutdown)
    (command : Command) :
    (Turn.obey host { channel := c } command).Timed host past (c.answers host command) := by
  cases hTalk : command.isTalk with
  | false =>
    have hAnswers : c.answers host command = [] := by
      cases command <;> first | rfl | cases hTalk
    rw [hAnswers]
    exact h.deed hc (hc.deed_obey hRunning command) hTalk
  | true =>
    cases hConnection : c.connection with
    | none =>
      rw [hc.obey_talk hConnection hTalk hRunning, answers_of_unconnected hConnection]
      exact h.of_calm (.refl _)
    | some connection => exact h.talk (hc.equipped (Option.isSome_of_eq_some hConnection)) hTalk

theorem Timed.handle (h : c.Timed past) (hc : c.Settled) (host : Host) (command : Command) :
    (c.handle host command).1.Timed (past ++ c.beats host command) := by
  rw [beats]
  by_cases hPhase : c.phase = .shutdown
  · obtain ⟨hConnection, _⟩ := hc.nothing_under_way (.inr hPhase)
    rw [answers_of_unconnected hConnection, handle_of_shutdown hPhase]
    exact h.of_calm (.refl _)
  · rw [handle_eq hPhase]
    exact h.obey hc hPhase command

theorem Timed.run (h : c.Timed past) (hc : c.Settled) (commands : List (Host × Command)) :
    (c.run commands).1.Timed (past ++ c.history commands) := by
  induction commands generalizing c past with
  | nil => simpa [Channel.run, history] using h
  | cons command rest ih =>
    rw [run_cons, history, ← List.append_assoc]
    exact ih (h.handle hc command.1 command.2) (settled_handle command.1 hc command.2)

theorem isPing_of_mem_answers {command : Command} {beat : Beat}
    (h : beat ∈ c.answers host command) : beat.isPing = false := by
  cases command with
  | inbound => exact Turn.isPing_of_mem_pongs h
  | _ => cases h

theorem countP_history (commands : List (Host × Command)) :
    (c.history commands).countP Beat.isPing = (pinged (c.run commands).2).length := by
  induction commands generalizing c with
  | nil => rfl
  | cons command rest ih =>
    have hAnswers : (c.answers command.1 command.2).countP Beat.isPing = 0 := by
      rw [List.countP_eq_zero]
      intro beat hBeat
      rw [isPing_of_mem_answers hBeat]
      exact Bool.false_ne_true
    have hPings : ∀ connections : List Nat,
        (connections.map (.ping · command.1.now)).countP Beat.isPing = connections.length := by
      intro connections
      simp [List.countP_map, Function.comp_def, Beat.isPing]
    rw [run_cons, pinged_append, history, beats, List.countP_append, List.countP_append, hAnswers,
      hPings, ih, List.length_append, Nat.zero_add]

theorem answers_of_not_mem {command : Command}
    (h : ∀ connection frames size, c.connection = some connection →
      command = .inbound connection frames size → .pingResp ∉ frames) :
    c.answers host command = [] := by
  cases command with
  | inbound connection frames size =>
    by_cases hConnection : c.connection = some connection
    · exact Turn.pongs_of_not_mem (h connection frames size hConnection rfl)
    · exact Turn.pongs_of_ne hConnection frames
  | _ => rfl

theorem Timed.shown_of_no_answer (h : c.Timed past) (hc : c.Settled) {command : Command}
    (hAnswers : c.answers host command = []) :
    (c.handle host command).1.statistics.lastRoundTrip = c.statistics.lastRoundTrip := by
  have hNext := h.handle hc host command
  have hPings : ∀ beat ∈ c.beats host command, beat.isPing = true := by
    intro beat hBeat
    rw [beats, hAnswers] at hBeat
    obtain ⟨connection, _, rfl⟩ := List.mem_map.mp hBeat
    rfl
  rw [hNext.shown, hNext.last, h.shown, h.last, roundTrips_append, roundTrips_of_isPing hPings,
    List.append_nil]

/-- After every run: the last round trip shown is the last one that a ping and the next answer of
its connection have measured, of which there are no more than pings that got out, and a connection
that comes up has no beats yet. An answer measures a round trip if a ping has got out on its
connection since the answer before it, and the last such ping counts. No other frame and no other
command changes what is shown. -/
theorem round_trips_are_of_one_connection (settings : ChannelSettings) (supported : DirectionMap)
    (commands : List (Host × Command)) :
    let start := Channel.start settings supported
    let c := (start.run commands).1
    let past := start.history commands
    c.statistics.lastRoundTrip = (roundTrips [] past).getLast? ∧
      (roundTrips [] past).length ≤ (pinged (start.run commands).2).length ∧
      (∀ (host : Host) command connection, c.connection ≠ some connection →
        (c.handle host command).1.connection = some connection →
        ∀ beat ∈ past, beat.connection ≠ connection) ∧
      (∀ (host : Host) connection first size, c.connection = some connection →
        let read := Turn.countBytes { channel := c } size
        let t := read.receiveAll host connection first
        let before := past ++ read.pongs host connection first
        t.channel.connection = some connection →
        (∀ frame,
          (t.receive host connection frame).channel.statistics.lastRoundTrip =
            (t.measured? host frame).or t.channel.statistics.lastRoundTrip) ∧
        t.measured? host .pingResp = Beat.measure? before (.pong connection host.now) ∧
        ((t.measured? host .pingResp).isSome = true ↔
          ∃ earlier sent later, before = earlier ++ .ping connection sent :: later ∧
            ∀ instant, .pong connection instant ∉ later) ∧
        ∀ roundTrip, t.measured? host .pingResp = some roundTrip ↔
          ∃ earlier sent later, before = earlier ++ .ping connection sent :: later ∧
            (∀ beat ∈ later, beat.connection ≠ connection) ∧
            roundTrip = ⟨host.now - sent⟩) ∧
      ∀ (host : Host) (command : Command),
        (∀ connection frames size, c.connection = some connection →
          command = .inbound connection frames size → .pingResp ∉ frames) →
        (c.handle host command).1.statistics.lastRoundTrip = c.statistics.lastRoundTrip := by
  intro start c past
  have hSettled : c.Settled := settled_run (.start settings supported) commands
  have hTimed : c.Timed past :=
    Timed.run (.start settings supported) (.start settings supported) commands
  refine ⟨hTimed.shown.trans hTimed.last, ?_, ?_, ?_, ?_⟩
  · rw [← countP_history]
    exact Nat.le_trans (Nat.le_add_right _ _) hTimed.bound
  · intro host command connection hOld hNew beat hBeat hSame
    exact hSettled.ne_handle_of_past hOld (hSame ▸ hTimed.known beat hBeat) host command hNew
  · intro host connection first size hConnection read t before hLive
    have hEquipped : read.channel.Equipped :=
      { hSettled.equipped (Option.isSome_of_eq_some hConnection) with }
    have hCounted : Turn.Calm { channel := c } read := .of_same rfl rfl rfl rfl rfl
    have hRead : read.channel.Timed past := hTimed.calm hCounted
    obtain ⟨hBefore, _⟩ := Turn.timed_receiveAll host hEquipped (by exact hConnection) hRead first
    have hLater : t.channel.Equipped :=
      Turn.equipped_receiveAll host hEquipped hConnection first (Option.isSome_of_eq_some hLive)
    have hMeasured :
        t.measured? host .pingResp = Beat.measure? before (.pong connection host.now) :=
      (hBefore.measure?_pong hLive host.now).symm
    refine ⟨?_, hMeasured, ?_, ?_⟩
    · intro frame
      exact Turn.shown_receive host hLater hLive hBefore frame
    · rw [hMeasured, Beat.isSome_measure?_pong_iff]
    · intro roundTrip
      rw [hMeasured, Beat.measure?_pong_eq_some_iff]
  · intro host command hQuiet
    exact hTimed.shown_of_no_answer hSettled (answers_of_not_mem hQuiet)

end Channel

end DeviceUplink
