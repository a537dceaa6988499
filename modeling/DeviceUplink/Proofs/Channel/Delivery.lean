import DeviceUplink.Proofs.Channel.Tidings
import DeviceUplink.Proofs.Channel.WireOrder

/-!
# Delivery in order

A connection is new, then live, then past, and only while it is live does anything become known of
its session. The story of a connection is therefore told in the commands that find it live, each
with what the connection takes in during it, and goes on from command to command.
-/

namespace DeviceUplink

def Frame.isLast : Frame → Bool
  | connAck code => code ≠ .accepted
  | disconnect _ => true
  | _ => false

/-- These frames of a read are taken in: all of them, or those up to the first that ends the
connection, which is the last word of the server or opens a session whose sync cannot be sent. -/
inductive Heard (log : List Occurrence) (frames : List Frame) : Option Nat → List Frame → Prop
  | all {connection : Nat} (h : ∀ frame ∈ frames, frame.isLast = false) :
      Heard log frames (some connection) frames
  | cut {first rest : List Frame} {last : Frame} (hFrames : frames = first ++ last :: rest)
      (hFirst : ∀ frame ∈ first, frame.isLast = false)
      (hLast : last.isLast = true ∨ ∃ error, .syncFailed error ∈ log) :
      Heard log frames none (first ++ [last])

namespace Heard

variable {log : List Occurrence} {frame : Frame} {frames taken : List Frame}
  {connection : Option Nat}

theorem cons (h : Heard log frames connection taken) (hFrame : frame.isLast = false) :
    Heard log (frame :: frames) connection (frame :: taken) := by
  cases h with
  | all hAll => exact .all (by simpa [hFrame] using hAll)
  | @cut first rest last hFrames hFirst hLast =>
    subst hFrames
    exact @cut _ _ (frame :: first) rest last rfl (by simpa [hFrame] using hFirst) hLast

end Heard

namespace Turn

variable {host : Host} {t : Turn} {connection : Nat}

/-- A frame that is not the last word leaves the connection alone, but for a sync that fails. -/
theorem receive_of_not_isLast (h : t.channel.Equipped)
    (hConnection : t.channel.connection = some connection) {frame : Frame}
    (hFrame : frame.isLast = false) :
    (t.receive host connection frame).channel.connection = some connection ∨
      ∃ error, .syncFailed error ∈ (t.receive host connection frame).log := by
  have hCounted := equipped_countReceived h host.now
  have hSame : (t.countReceived host.now).channel.connection = some connection := hConnection
  simp only [receive]
  generalize t.countReceived host.now = counted at hCounted hSame
  cases frame with
  | connAck code =>
    have hCode : code = .accepted := by simpa [Frame.isLast] using hFrame
    subst hCode
    simp only [inputOfFrame, notePart, if_true]
    rw [input_accepted host hCounted.connected]
    exact .inl hSame
  | syncResponse body =>
    simp only [inputOfFrame]
    cases openPayload host.suite counted.channel.session body with
    | none => exact .inl hSame
    | some payload =>
      simp only [Option.map_some, notePart, input, Phase.step, hCounted.connected, if_true]
      rcases isConnected_cases hCounted.connected with hPhase | hPhase
      · simp only [hPhase, if_true, List.foldl_cons, List.foldl_nil, perform]
        obtain ⟨server, hServer, hSynced | ⟨body, error, _, hFailed⟩⟩ :=
          synced_open host hCounted hSame (some payload)
        · obtain ⟨_, hAfter⟩ := channel_of_synced hSynced
          rw [channel_opened] at hAfter
          simp only [perform, Option.elim_some] at hAfter
          exact .inl (by rw [hAfter]; exact hSame)
        · simp only [perform, Option.elim_some] at hFailed
          rw [hFailed]
          refine .inr ⟨error, cause_mem_failFor host _ _ _ ?_⟩
          rw [channel_note, channel_opened, hServer]
          rfl
      · simp only [hPhase, reduceCtorEq, if_false, List.foldl_cons, List.foldl_nil, perform]
        rw [channel_deliver]
        exact .inl hSame
  | pingResp =>
    simp only [inputOfFrame, notePart, input, Phase.step, hCounted.connected, if_true,
      List.foldl_cons, List.foldl_nil, perform]
    exact .inl hSame
  | disconnect => cases hFrame
  | connect | syncRequest | pingReq => exact .inl hSame

theorem receive_of_isLast (h : t.channel.Equipped) {frame : Frame} (hFrame : frame.isLast = true) :
    (t.receive host connection frame).channel.connection = none := by
  cases frame with
  | connAck code => exact (receive_refused h (by simpa [Frame.isLast] using hFrame)).1
  | disconnect reason => exact (receive_disconnected h reason).1
  | _ => cases hFrame

theorem heard_receiveAll (h : t.channel.Equipped)
    (hConnection : t.channel.connection = some connection) (frames : List Frame) :
    Heard (t.receiveAll host connection frames).log frames
      (t.receiveAll host connection frames).channel.connection
      (t.taken host connection frames) := by
  induction frames generalizing t with
  | nil =>
    simp only [receiveAll, List.foldl_nil, hConnection, taken]
    exact .all (List.forall_mem_nil _)
  | cons frame rest ih =>
    rw [receiveAll_cons host hConnection, taken_cons hConnection]
    rcases connection_receive host h hConnection frame with ⟨hLive, hEquipped⟩ | hEnded
    · have hFrame : frame.isLast = false := by
        cases hIs : frame.isLast with
        | false => rfl
        | true =>
          rw [receive_of_isLast h hIs] at hLive
          cases hLive
      exact (ih hEquipped hLive).cons hFrame
    · have hOther : (t.receive host connection frame).channel.connection ≠ some connection := by
        simp [hEnded]
      rw [receiveAll_of_ne host hOther, taken_of_ne hOther, hEnded]
      refine @Heard.cut _ _ [] rest frame rfl (List.forall_mem_nil _) ?_
      cases hIs : frame.isLast with
      | true => exact .inl rfl
      | false => exact .inr ((receive_of_not_isLast h hConnection hIs).resolve_left hOther)

end Turn

namespace Channel

variable {c : Channel} {host : Host} {connection : Nat} {session : CryptoSession}

/-- What occurs in the commands that find the connection live. -/
def during (connection : Nat) (c : Channel) : List (Host × Command) → List Occurrence
  | [] => []
  | (host, command) :: rest =>
    (if c.connection = some connection then (c.handle host command).2 else []) ++
      (c.handle host command).1.during connection rest

theorem during_eq (connection : Nat) (c : Channel) (commands : List (Host × Command)) :
    c.during connection commands = (c.chronicle commands).flatMap fun entry =>
      if entry.1 = some connection then entry.2 else [] := by
  induction commands generalizing c with
  | nil => rfl
  | cons command rest ih => rw [during, chronicle, List.flatMap_cons, ← ih]

/-- What the connection takes in, under its session, all in all. -/
def intake (session : CryptoSession) (connection : Nat) (c : Channel) :
    List (Host × Command) → List Intake
  | [] => []
  | (host, command) :: rest =>
    (if c.connection = some connection then c.hears session host command else []) ++
      (c.handle host command).1.intake session connection rest

theorem hears_of_not_isTalk {command : Command} (h : command.isTalk = false) :
    c.hears session host command = [] := by
  cases command <;> first | rfl | cases h

namespace Settled

variable (h : c.Settled)

include h

omit h in
theorem tidings_of_deed {command : Command} {after : Turn} (hDeed : Deed host c command after)
    (hQuiet : c.connection = none ∨ command.isTalk = false) : tidings after.log = [] := by
  have hPrelude : ∀ {log : List Occurrence}, (∀ o ∈ log, o.isPrelude = true) →
      tidings log = [] := fun hLog =>
    tidings_eq_nil fun o ho => Occurrence.tiding?_of_isPrelude (hLog o ho)
  have hKeyed : ∀ server, tidings (Turn.keyed host c server).log = [] := by
    intro server
    obtain ⟨session, more, hEq, hMore⟩ := Turn.keyed_eq host c server
    rw [hEq]
    exact hPrelude hMore
  cases hDeed with
  | nothing | boundMultiplexer | boundDemultiplexer | boundChecker | redescribed | unaimed => rfl
  | rekeyed => exact hKeyed _
  | retargeted =>
    simp only [Turn.withTimer, tidings_append, Turn.tidings_teardown, hKeyed]
    rfl
  | suspended | stopped => exact Turn.tidings_teardown host _
  | resumed | dialed => rfl
  | unreached => exact Turn.tidings_failFor host _ (.none _) rfl
  | begun _ hBegun =>
    cases hBegun
    rfl
  | stuck _ hBegun =>
    cases hBegun with
    | unready _ hBefore hMore =>
      subst hBefore
      rw [Turn.tidings_failFor host _ (.none _) rfl]
      exact hPrelude hMore
    | unsent session connect =>
      rw [Turn.failFor_noteAll, Turn.tidings_failFor host _ (.connect _ _ connect _) rfl]
      rfl
  | live hTalk hConnection =>
    rcases hQuiet with hNone | hQuiet
    · rw [hConnection] at hNone
      cases hNone
    · rw [hTalk] at hQuiet
      cases hQuiet

/-- A command that is not for the live connection ends it or leaves it alone. -/
theorem tells_of_deed {command : Command} {after : Turn} (hDeed : Deed host c command after)
    (hQuiet : command.isTalk = false) (hLive : c.connection.isSome = true)
    (hBound : c.hasDemultiplexer = true) : Tells { channel := c } [] after := by
  have hLog : tidings after.log = [] := tidings_of_deed hDeed (.inr hQuiet)
  have hPhase := h.connected.symm.trans hLive
  obtain ⟨hAttempt, hReconnect⟩ := h.alone hLive
  cases hDeed with
  | nothing | boundMultiplexer | boundChecker | redescribed => exact .of_same hLog rfl rfl rfl rfl
  | boundDemultiplexer => exact .of_same hLog rfl rfl hBound.symm rfl
  | rekeyed hPaused | resumed hPaused =>
    rw [hPaused] at hPhase
    cases hPhase
  | retargeted | suspended | stopped =>
    exact .of_ended hLog (Turn.connection_teardown host _)
  | unaimed hTimer | dialed hTimer =>
    rw [hReconnect] at hTimer
    cases hTimer
  | unreached _ hDial | begun hDial | stuck hDial =>
    rw [hAttempt] at hDial
    cases hDial
  | live hTalk =>
    rw [hTalk] at hQuiet
    cases hQuiet

/-- What a command makes known of the live connection is what the connection takes in during it. -/
theorem tells_handle (hConnection : c.connection = some connection)
    (hSession : c.session = some session) (hBound : c.hasDemultiplexer = true) (host : Host)
    (command : Command) :
    Tells { channel := c } (Intake.storyFrom c.phase (c.hears session host command))
      { channel := (c.handle host command).1, log := (c.handle host command).2 } := by
  have hLive := Option.isSome_of_eq_some hConnection
  have hEquipped := h.equipped hLive
  have hLinked := isLinked_of_connection hConnection
  rw [h.handle_of_isLinked host hLinked]
  have hNone := Intake.storyFrom_nil c.phase
  have hStale : ∀ {other : Nat}, c.connection ≠ some other → other ≠ connection := by
    rintro _ hOther rfl
    exact hOther hConnection
  cases hTalk : command.isTalk with
  | false =>
    rw [hears_of_not_isTalk hTalk, hNone]
    exact h.tells_of_deed (h.deed_obey (h.phase_ne_shutdown hLinked) command) hTalk hLive hBound
  | true =>
    cases command with
    | sync transports =>
      simp only [hears, hNone]
      exact Turn.tells_sync host hEquipped hConnection transports
    | syncAll =>
      simp only [hears, hNone]
      exact Turn.tells_syncAll host hEquipped hConnection
    | syncAck transports => exact Turn.tells_syncAck host hEquipped hConnection hBound transports
    | inbound other frames size =>
      by_cases hOther : c.connection = some other
      · simp only [hears, Turn.obey, Turn.inbound, hOther, if_true]
        have hCounted : Tells { channel := c } [] (Turn.countBytes { channel := c } size) :=
          .of_same rfl rfl rfl rfl rfl
        have hFrames := Turn.tells_receiveAll host
          (t := Turn.countBytes { channel := c } size) { hEquipped with } hOther hSession hBound
          frames
        exact hCounted.trans hFrames
      · have hNothing : (Turn.countBytes { channel := c } size).taken host other frames = [] :=
          Turn.taken_of_ne hOther frames
        simp only [hears, Turn.obey, Turn.inbound, hOther, if_false, hNothing, List.filterMap_nil,
          hNone]
        exact .refl _
    | readFailed other error =>
      simp only [hears, hNone]
      by_cases hOther : c.connection = some other
      · exact Turn.tells_readFailed host hEquipped hOther error
      · simp only [Turn.obey, Turn.readFailed, hOther, if_false]
        exact .refl _
    | keepAliveTick other =>
      simp only [hears, hNone]
      by_cases hOther : c.connection = some other
      · exact Turn.tells_ping host hEquipped hOther
      · simp only [Turn.obey, Turn.ping, hOther, if_false]
        exact .refl _
    | _ => cases hTalk

theorem tidings_handle (hConnection : c.connection = none) (host : Host) (command : Command) :
    tidings (c.handle host command).2 = [] := by
  by_cases hPhase : c.phase = .shutdown
  · rw [handle_of_shutdown hPhase]
    rfl
  · rw [handle_eq hPhase]
    exact tidings_of_deed (h.deed_obey hPhase command) (.inl hConnection)

theorem phase_of_new {command : Command} {after : Turn} (hDeed : Deed host c command after)
    (hNew : after.channel.connection = some connection) :
    c.connection = some connection ∨ after.channel.phase = .connecting := by
  have hEnded : after.channel.connection ≠ none := by simp [hNew]
  cases hDeed with
  | nothing | boundMultiplexer | boundDemultiplexer | boundChecker | redescribed | unaimed
  | resumed | dialed => exact .inl hNew
  | @rekeyed server =>
    obtain ⟨session, more, hEq, _⟩ := Turn.keyed_eq host c server
    rw [hEq] at hNew
    exact .inl hNew
  | retargeted | suspended | stopped => exact absurd (Turn.connection_teardown host _) hEnded
  | unreached | stuck => exact absurd (Turn.unlinked_failServer host _).1 hEnded
  | begun _ hBegun =>
    cases hBegun
    exact .inr rfl
  | live _ hConnection hCourse =>
    have hConnected := (h.equipped (Option.isSome_of_eq_some hConnection)).connected
    cases hCourse with
    | kept hMoves => exact .inl ((Turn.connection_of_moves hConnected hMoves).symm.trans hNew)
    | failed => exact absurd (Turn.unlinked_failServer host _).1 hEnded
    | left => exact absurd (Turn.connection_teardown host _) hEnded

theorem phase_handle (hOld : c.connection ≠ some connection) {command : Command}
    (hNew : (c.handle host command).1.connection = some connection) :
    (c.handle host command).1.phase = .connecting := by
  by_cases hPhase : c.phase = .shutdown
  · rw [handle_of_shutdown hPhase] at hNew
    exact absurd hNew hOld
  · rw [handle_eq hPhase] at hNew ⊢
    exact (h.phase_of_new (h.deed_obey hPhase command) hNew).resolve_left hOld

theorem le_lastId_handle (hNumber : ∀ n, c.connection = some n → n ≤ c.lastId) (host : Host)
    (command : Command) (n : Nat) (hConnection : (c.handle host command).1.connection = some n) :
    n ≤ (c.handle host command).1.lastId := by
  have hLater := h.lastId_le_handle host command
  cases h.keyed_handle host command with
  | opened _ hNew _ hLast =>
    cases hNew.symm.trans hConnection
    exact Nat.le_of_eq hLast.symm
  | kept _ hKept => exact Nat.le_trans (hNumber n (hKept n hConnection).1) hLater

theorem ne_handle_of_past (hPast : c.connection ≠ some connection)
    (hNumber : connection ≤ c.lastId) (host : Host) (command : Command) :
    (c.handle host command).1.connection ≠ some connection := by
  intro hBack
  cases h.keyed_handle host command with
  | opened hOpening hNew =>
    have hFresh := hOpening.number
    cases hNew.symm.trans hBack
    omega
  | kept _ hKept => exact hPast (hKept connection hBack).1

theorem silent_of_past (hPast : c.connection ≠ some connection)
    (hNumber : connection ≤ c.lastId) (session : CryptoSession) (commands : List (Host × Command)) :
    c.during connection commands = [] ∧ c.intake session connection commands = [] := by
  induction commands generalizing c with
  | nil => exact ⟨rfl, rfl⟩
  | cons command rest ih =>
    obtain ⟨host, command⟩ := command
    have hLater := h.lastId_le_handle host command
    obtain ⟨hDuring, hIntake⟩ := ih (settled_handle host h command)
      (h.ne_handle_of_past hPast hNumber host command) (Nat.le_trans hNumber hLater)
    constructor
    · simp only [during, hPast, if_false, hDuring, List.append_nil]
    · simp only [intake, hPast, if_false, hIntake, List.append_nil]

/-- The story of a connection, from wherever the channel stands. -/
theorem tidings_during (hNumber : ∀ n, c.connection = some n → n ≤ c.lastId)
    {commands : List (Host × Command)}
    (hKnown : ∀ first rest, commands = first ++ rest →
      (c.run first).1.connection = some connection →
      (c.run first).1.session = some session ∧ (c.run first).1.hasDemultiplexer = true) :
    tidings (c.during connection commands) =
      Intake.storyFrom (if c.connection = some connection then c.phase else .connecting)
        (c.intake session connection commands) := by
  induction commands generalizing c with
  | nil => exact (Intake.storyFrom_nil _).symm
  | cons command rest ih =>
    obtain ⟨host, command⟩ := command
    have hNext := settled_handle host h command
    have hRest := ih hNext (h.le_lastId_handle hNumber host command) (by
      intro first more hSplit hLive
      exact hKnown ((host, command) :: first) more (by rw [hSplit]; rfl) hLive)
    by_cases hConnection : c.connection = some connection
    · obtain ⟨hSession, hBound⟩ := hKnown [] _ rfl hConnection
      have hTells := h.tells_handle hConnection hSession hBound host command
      have hLog : tidings (c.handle host command).2 =
          Intake.storyFrom c.phase (c.hears session host command) := hTells.log
      simp only [during, intake, hConnection, if_true, tidings_append, hLog]
      by_cases hLive : (c.handle host command).1.connection = some connection
      · have hPhase : (c.handle host command).1.phase = _ :=
          hTells.phase (Option.isSome_of_eq_some hLive)
        rw [hRest, if_pos hLive, hPhase, Intake.storyFrom_append]
      · have hOver : connection ≤ (c.handle host command).1.lastId :=
          Nat.le_trans (hNumber connection hConnection) (h.lastId_le_handle host command)
        obtain ⟨hDuring, hIntake⟩ := hNext.silent_of_past hLive hOver session rest
        rw [hDuring, hIntake, List.append_nil]
        exact List.append_nil _
    · simp only [during, intake, hConnection, if_false, List.nil_append]
      rw [hRest]
      split
      · next hLive => rw [h.phase_handle hConnection hLive]
      · rfl

theorem heard_handle {frames : List Frame} {size : Nat}
    (hConnection : c.connection = some connection) (session : CryptoSession) (host : Host) :
    ∃ taken, Heard (c.handle host (.inbound connection frames size)).2 frames
        (c.handle host (.inbound connection frames size)).1.connection taken ∧
      c.hears session host (.inbound connection frames size) =
        taken.filterMap (Intake.ofFrame? host.suite session) := by
  have hEquipped := h.equipped (Option.isSome_of_eq_some hConnection)
  refine ⟨(Turn.countBytes { channel := c } size).taken host connection frames, ?_, rfl⟩
  rw [h.handle_of_isLinked host (isLinked_of_connection hConnection)]
  simp only [Turn.obey, Turn.inbound, hConnection, if_true]
  exact Turn.heard_receiveAll { hEquipped with } hConnection frames

end Settled

/-- While a connection lives, the channel has the session that it was opened with. -/
theorem session_of_opens {commands first rest : List (Host × Command)} {place : Nat}
    {connect : Connect} (h : c.Settled) (hNone : c.connection = none)
    (hOpens : Opens c commands place connection session connect) (hSplit : commands = first ++ rest)
    (hLive : (c.run first).1.connection = some connection) :
    (c.run first).1.session = some session := by
  rcases session_of_run h hLive with ⟨_, _, _, hOpens', hSession⟩ | ⟨hSome, _⟩
  · have hLater := hOpens'.append rest
    rw [← hSplit] at hLater
    obtain rfl := (hOpens.place_eq_iff h hLater).mpr rfl
    obtain ⟨rfl, _⟩ := hOpens.unique hLater
    exact hSession
  · rw [hNone] at hSome
    cases hSome

/-- Every connection of every run with a demultiplexer bound is told of once and in order. What its
session makes known up to any moment is the story of what has come in on it by then: the first
response that can be read, or an acknowledgment before that, opens the session, a response after
its own payload; and the payloads go on one by one. A session opens once at most, there is nothing
known without a connection, and a read is taken in up to the frame that ends the connection. Whether
the demultiplexer can process a payload makes no difference. -/
theorem opens_once_in_order {settings : ChannelSettings} {supported : DirectionMap}
    {commands : List (Host × Command)} {connection : Nat}
    (hStarted : .started connection ∈ ((Channel.start settings supported).run commands).2)
    (hBound : ∀ first rest, commands = first ++ rest →
      ((Channel.start settings supported).run first).1.connection = some connection →
      ((Channel.start settings supported).run first).1.hasDemultiplexer = true) :
    let start := Channel.start settings supported
    ∃ place session connect, Opens start commands place connection session connect ∧
      (∀ first rest, commands = first ++ rest →
        tidings (start.during connection first) =
          Intake.story (start.intake session connection first)) ∧
      (tidings (start.during connection commands)).count .opened ≤ 1 ∧
      ∀ first host command rest, commands = first ++ (host, command) :: rest →
        let c := (start.run first).1
        let after := c.handle host command
        (c.connection = none → tidings after.2 = []) ∧
        ∀ frames size, command = .inbound connection frames size →
          c.connection = some connection →
          ∃ taken, Heard after.2 frames after.1.connection taken ∧
            c.hears session host command =
              taken.filterMap (Intake.ofFrame? host.suite session) := by
  intro start
  have hStart : start.Settled := .start settings supported
  obtain ⟨place, session, connect, hOpens, _⟩ := opens_of_mem hStart hStarted (.inl rfl)
  have hStory : ∀ first rest, commands = first ++ rest →
      tidings (start.during connection first) =
        Intake.story (start.intake session connection first) := by
    intro first rest hSplit
    apply hStart.tidings_during (by rintro n ⟨⟩)
    intro before after hFirst hLive
    have hWhole : commands = before ++ (after ++ rest) := by
      rw [hSplit, hFirst, List.append_assoc]
    exact ⟨session_of_opens hStart rfl hOpens hWhole hLive, hBound before _ hWhole hLive⟩
  refine ⟨place, session, connect, hOpens, hStory, ?_, ?_⟩
  · rw [hStory commands [] (List.append_nil _).symm]
    exact Intake.count_opened_story _
  · intro first host command rest _ c after
    have hSettled : c.Settled := settled_run hStart first
    constructor
    · intro hNone
      exact hSettled.tidings_handle hNone host command
    · rintro frames size rfl hConnection
      exact hSettled.heard_handle hConnection session host

theorem Ready.after {past : List Command} (h : c.Ready past) (commands : List (Host × Command))
    (hOrder : Prepared (past ++ commands.map Prod.snd)) :
    (c.run commands).1.Ready (past ++ commands.map Prod.snd) := by
  induction commands generalizing c past with
  | nil =>
    rw [List.map_nil, List.append_nil]
    exact h
  | cons command rest ih =>
    obtain ⟨host, command⟩ := command
    have hSet : ∀ server, command = .setServer server → .bindDemultiplexer ∈ past := by
      rintro server rfl
      exact hOrder past server (rest.map Prod.snd) rfl
    have hSplit : past ++ ((host, command) :: rest).map Prod.snd =
        past ++ [command] ++ rest.map Prod.snd := by simp
    rw [hSplit] at hOrder ⊢
    exact ih (h.handle host command hSet).1 hOrder

/-- A demultiplexer that is bound before the first server is set is there for every connection. -/
theorem bound_of_prepared {settings : ChannelSettings} {supported : DirectionMap}
    {commands first rest : List (Host × Command)} (hOrder : Prepared (commands.map Prod.snd))
    (hSplit : commands = first ++ rest) {connection : Nat}
    (hLive : ((Channel.start settings supported).run first).1.connection = some connection) :
    ((Channel.start settings supported).run first).1.hasDemultiplexer = true := by
  rw [hSplit, List.map_append] at hOrder
  have hReady := (ready_start settings supported).after first hOrder.left
  exact hReady.served (hReady.settled.equipped (Option.isSome_of_eq_some hLive)).server

theorem tidings_sessionOf {server : Server} (hKey : server.publicKey.length = agreementKeySize) :
    tidings ((Channel.start {} .empty).during 3 (sessionOf server)) = [.payload [], .opened] := by
  rw [during_eq, chronicle_sessionOf hKey]
  rfl

theorem session_opens_once :
    let commands := sessionOf (.operations "10.0.0.1" 1 (List.replicate 32 9))
    let start := Channel.start {} .empty
    .started 3 ∈ (start.run commands).2 ∧ Prepared (commands.map Prod.snd) ∧
      ∃ session, Intake.story (start.intake session 3 commands) = [.payload [], .opened] := by
  intro commands start
  have hStarted : .started 3 ∈ (start.run commands).2 := started_of_dialing rfl _
  have hOrder : Prepared (commands.map Prod.snd) :=
    .of_bound [.bindMultiplexer, .bindDemultiplexer] (by simp) (by simp) _
  obtain ⟨_, session, _, _, hStory, _⟩ :=
    opens_once_in_order hStarted fun _ _ hSplit hLive => bound_of_prepared hOrder hSplit hLive
  refine ⟨hStarted, hOrder, session, ?_⟩
  rw [← hStory commands [] (List.append_nil _).symm]
  exact tidings_sessionOf rfl

end Channel

end DeviceUplink
