import DeviceUplink.Proofs.Channel.SessionKey
import DeviceUplink.Proofs.Channel.Writing

/-!
# The order of frames on the wire

A channel that is set to a server only with a demultiplexer bound writes in order through all of its
runs, as long as writes succeed and requests are compiled: what a connection has of frames is an
`Exchange`, and there is no new CONNECT before the farewell of the connection before.
-/

namespace DeviceUplink

namespace Channel

variable {c : Channel} {host : Host} {line : Line}

structure Retains (c : Channel) (command : Command) (next : Channel) : Prop where
  supported : next.supported = c.supported
  demultiplexer : c.hasDemultiplexer = true → next.hasDemultiplexer = true
  server : next.server.isSome = true →
    c.server.isSome = true ∨ ∃ server, command = .setServer server

namespace Retains

variable {command : Command} {t : Turn}

theorem refl (c : Channel) (command : Command) : c.Retains command c :=
  ⟨rfl, id, .inl⟩

theorem teardown (host : Host) (h : c.Retains command t.channel) :
    c.Retains command (t.teardown host).channel := by
  obtain ⟨_, hDown⟩ := t.channel_teardown host
  rw [hDown]
  exact ⟨h.supported, h.demultiplexer, h.server⟩

theorem failFor (host : Host) (symptoms : List Occurrence) (cause : Occurrence)
    (h : c.Retains command t.channel) :
    c.Retains command (t.failFor host symptoms cause).channel := by
  obtain ⟨_, _, _, _, hFailed⟩ :=
    Turn.channel_failServer host (t.noteAll (symptoms ++ cause :: cause.cleaning))
  rw [Turn.failFor, hFailed]
  exact ⟨h.supported, h.demultiplexer, h.server⟩

theorem of_kept {u : Turn} (h : Kept { channel := c } u) : c.Retains command u.channel := by
  obtain ⟨_, _, _, _, hu⟩ := h.channel
  rw [hu]
  exact ⟨rfl, id, .inl⟩

theorem of_keyed (host : Host) (server : Server) :
    c.Retains (.setServer server) (Turn.keyed host c server).channel := by
  obtain ⟨session, more, hKeyed, _⟩ := Turn.keyed_eq host c server
  rw [hKeyed]
  exact ⟨rfl, id, fun _ => .inr ⟨server, rfl⟩⟩

theorem of_course {connection : Nat} {after : Turn} (hConnected : c.phase.isConnected = true)
    (h : Course host connection { channel := c } after) : c.Retains command after.channel := by
  cases h with
  | kept hMoves => exact .of_kept (.of_moves hConnected hMoves)
  | failed hMoves hBroken =>
    have hKept := Kept.of_moves hConnected hMoves
    exact .failFor host _ _ (.of_kept (hKept.trans (hBroken.kept hKept.isConnected)))
  | left hMoves =>
    have hKept : c.Retains command _ := .of_kept (.of_moves hConnected hMoves)
    exact .teardown host (t := Turn.note _ _) hKept

theorem of_deed (h : c.Settled) {after : Turn} (hDeed : Deed host c command after) :
    c.Retains command after.channel := by
  cases hDeed with
  | nothing => exact .refl c command
  | boundMultiplexer => exact ⟨rfl, id, .inl⟩
  | boundDemultiplexer => exact ⟨rfl, fun _ => rfl, .inl⟩
  | boundChecker => exact ⟨rfl, id, .inl⟩
  | redescribed => exact ⟨rfl, id, fun _ => .inr ⟨_, rfl⟩⟩
  | rekeyed => exact .of_keyed host _
  | @retargeted server =>
    have hDown := Retains.teardown host (Retains.of_keyed (c := c) host server)
    exact ⟨hDown.supported, hDown.demultiplexer, hDown.server⟩
  | suspended | stopped => exact .teardown host (t := Turn.setPhase _ _) ⟨rfl, id, .inl⟩
  | resumed => exact ⟨rfl, id, .inl⟩
  | unaimed => exact ⟨rfl, id, .inl⟩
  | dialed => exact ⟨rfl, id, .inl⟩
  | unreached error => exact .failFor host _ _ ⟨rfl, id, .inl⟩
  | begun _ hBegun =>
    cases hBegun
    exact ⟨rfl, id, .inl⟩
  | stuck _ hBegun =>
    cases hBegun with
    | unready _ hBefore =>
      subst hBefore
      exact .failFor host _ _ ⟨rfl, id, .inl⟩
    | unsent => exact .failFor host _ _ ⟨rfl, id, .inl⟩
  | live _ hConnection hCourse =>
    exact .of_course (h.equipped (Option.isSome_of_eq_some hConnection)).connected hCourse

end Retains

/-- A channel after these commands: it has been set to a server only with a demultiplexer bound. -/
structure Ready (past : List Command) (c : Channel) : Prop where
  settled : c.Settled
  bound : c.phase ≠ .shutdown → .bindDemultiplexer ∈ past → c.hasDemultiplexer = true
  served : c.server.isSome = true → c.hasDemultiplexer = true

namespace Ready

variable {past : List Command}

theorem handle (h : c.Ready past) (host : Host) (command : Command)
    (hOrder : ∀ server, command = .setServer server → .bindDemultiplexer ∈ past) :
    (c.handle host command).1.Ready (past ++ [command]) ∧
      (c.handle host command).1.supported = c.supported := by
  by_cases hPhase : c.phase = .shutdown
  · rw [handle_of_shutdown hPhase]
    exact ⟨⟨h.settled, fun hRunning => absurd hPhase hRunning, h.served⟩, rfl⟩
  · have hDeed : Deed host c command (Turn.obey host { channel := c } command) :=
      h.settled.deed_obey hPhase command
    have hRetains := Retains.of_deed h.settled hDeed
    have hSettled := settled_handle host h.settled command
    rw [handle_eq hPhase] at hSettled ⊢
    refine ⟨⟨hSettled, ?_, ?_⟩, hRetains.supported⟩
    · intro _ hBound
      rcases List.mem_append.mp hBound with hBound | hBound
      · exact hRetains.demultiplexer (h.bound hPhase hBound)
      · rw [← List.mem_singleton.mp hBound]
        rfl
    · intro hServer
      rcases hRetains.server hServer with hServer | ⟨server, hCommand⟩
      · exact hRetains.demultiplexer (h.served hServer)
      · exact hRetains.demultiplexer (h.bound hPhase (hOrder server hCommand))

/-- A command of a ready channel continues the conversation. -/
theorem converses (h : c.Ready past) (hFits : line.Fits c) (host : Host) (command : Command)
    (hSmooth : Smooth (c.handle host command).2) :
    ∃ next, Conversation c.supported (host.Made c.supported) line (c.handle host command).2 next ∧
      next.Fits (c.handle host command).1 := by
  by_cases hPhase : c.phase = .shutdown
  · rw [handle_of_shutdown hPhase]
    exact ⟨line, .nil line, hFits⟩
  · rw [handle_eq hPhase] at hSmooth ⊢
    exact h.settled.converses_of_deed hFits h.served (h.settled.deed_obey hPhase command) hSmooth

end Ready

/-- Every server is set with a demultiplexer bound. -/
def Prepared (commands : List Command) : Prop :=
  ∀ first server rest, commands = first ++ .setServer server :: rest → .bindDemultiplexer ∈ first

theorem Prepared.left {commands more : List Command} (h : Prepared (commands ++ more)) :
    Prepared commands := by
  rintro first server rest rfl
  exact h first server (rest ++ more) (by simp)

/-- It is enough to bind the demultiplexer before the first server is set. -/
theorem Prepared.of_bound (before : List Command) (hBound : .bindDemultiplexer ∈ before)
    (hUnset : ∀ server, .setServer server ∉ before) (after : List Command) :
    Prepared (before ++ after) := by
  intro first server rest hSplit
  rcases List.append_eq_append_iff.mp hSplit with ⟨more, hFirst, _⟩ | ⟨more, hBefore, hRest⟩
  · rw [hFirst]
    exact List.mem_append_left more hBound
  · cases more with
    | nil =>
      rw [List.append_nil] at hBefore
      exact hBefore ▸ hBound
    | cons command more =>
      cases hRest
      exact absurd (hBefore ▸ List.mem_append_right _ (List.mem_cons_self ..)) (hUnset server)

/-- From where a ready channel stands its run is a conversation. -/
theorem Ready.run {past : List Command} (h : c.Ready past) (hFits : line.Fits c)
    (commands : List (Host × Command)) (hOrder : Prepared (past ++ commands.map Prod.snd))
    (hSmooth : Smooth (c.run commands).2) (made : SyncBody → Prop)
    (hMade : ∀ p ∈ commands, ∀ body, p.1.Made c.supported body → made body) :
    ∃ last, Conversation c.supported made line (c.run commands).2 last ∧
      last.Fits (c.run commands).1 ∧ (c.run commands).1.Ready (past ++ commands.map Prod.snd) ∧
      (c.run commands).1.supported = c.supported := by
  induction commands generalizing c past line with
  | nil =>
    rw [List.map_nil, List.append_nil]
    exact ⟨line, .nil line, hFits, h, rfl⟩
  | cons command rest ih =>
    obtain ⟨host, command⟩ := command
    have hSet : ∀ server, command = .setServer server → .bindDemultiplexer ∈ past := by
      rintro server rfl
      exact hOrder past server (rest.map Prod.snd) rfl
    obtain ⟨hNext, hSame⟩ := h.handle host command hSet
    obtain ⟨next, hFirst, hFitsNext⟩ := h.converses hFits host command hSmooth.left
    have hSplit : past ++ ((host, command) :: rest).map Prod.snd =
        past ++ [command] ++ rest.map Prod.snd := by simp
    rw [hSplit] at hOrder ⊢
    obtain ⟨last, hRest, hFitsLast, hReady, hSupported⟩ :=
      ih hNext hFitsNext hOrder hSmooth.right fun p hp body hBody =>
        hMade p (List.mem_cons_of_mem _ hp) body (hSame ▸ hBody)
    rw [hSame] at hRest
    have hHead := hFirst.mono (hMade (host, command) (List.mem_cons_self ..))
    exact ⟨last, hHead.append hRest, hFitsLast, hReady, hSupported.trans hSame⟩

theorem ready_start (settings : ChannelSettings) (supported : DirectionMap) :
    (Channel.start settings supported).Ready [] where
  settled := .start settings supported
  bound := by simp
  served := by simp [Channel.start]

theorem fits_start (settings : ChannelSettings) (supported : DirectionMap) :
    (Line.idle 0).Fits (Channel.start settings supported) :=
  .idle rfl Phase.noConfusion (Nat.le_refl 0)

/-- In every run in which writes succeed and requests are compiled, with a demultiplexer bound
before the first server is set: the frames of each connection are an `Exchange`; each CONNECT comes
after the farewells of all connections before; and every command continues the conversation where
the one before has left it, with the first request in the command that tells the failover. Without
a multiplexer there is no connection. -/
theorem frames_in_order {settings : ChannelSettings} {supported : DirectionMap}
    {commands : List (Host × Command)} (hBound : Prepared (commands.map Prod.snd))
    (hWritten : ∀ connection frame,
      .sendFailed connection frame ∉ ((Channel.start settings supported).run commands).2)
    (hCompiled : ∀ error,
      .syncDropped error ∉ ((Channel.start settings supported).run commands).2) :
    let start := Channel.start settings supported
    let log := (start.run commands).2
    let made := fun body => ∃ p ∈ commands, p.1.Made supported body
    (∀ connection, Exchange made (written connection log)) ∧
      (∀ before connection connect after,
        log = before ++ .sent connection (.connect connect) :: after →
          ∀ other frame, .sent other frame ∈ before → .sent other Turn.farewell ∈ before) ∧
      ∀ first host command rest, commands = first ++ (host, command) :: rest →
        let step := (start.run first).1.handle host command
        ∃ line next, Conversation supported made (.idle 0) (start.run first).2 line ∧
          line.Fits (start.run first).1 ∧
          Conversation supported (host.Made supported) line step.2 next ∧ next.Fits step.1 ∧
          ∀ server, .serverConnected server ∈ step.2 → ∃ before connection body after,
            host.Made supported body ∧ step.2 = before ++ [.serverConnected server,
              .compiled supported, .sent connection (.syncRequest body)] ++ after ∧
            Conversation supported (host.Made supported) line before (.greeted connection) := by
  intro start log made
  have hSmooth : Smooth log := by
    intro o ho
    cases o with
    | sendFailed connection frame => exact absurd ho (hWritten connection frame)
    | syncDropped error => exact absurd ho (hCompiled error)
    | _ => rfl
  have hReady : start.Ready [] := ready_start settings supported
  have hFits : (Line.idle 0).Fits start := fits_start settings supported
  obtain ⟨last, hLog, _⟩ := hReady.run hFits commands hBound hSmooth made
    fun p hp body hBody => ⟨p, hp, hBody⟩
  refine ⟨?_, ?_, ?_⟩
  · intro connection
    cases connection with
    | zero =>
      have hNone := hLog.written_of_idle
      rw [hNone]
      exact .unused
    | succ connection => exact hLog.exchange (Nat.succ_pos connection)
  · intro before connection connect after hSplit other frame hSent
    rw [show (start.run commands).2 = _ from hSplit] at hLog
    obtain ⟨_, _, hBefore⟩ := hLog.split_at_connect
    rcases hBefore.farewell_of_live (.inr ⟨frame, hSent⟩) with hLive | hFarewell
    · cases hLive
    · exact hFarewell
  · rintro first host command rest rfl step
    have hRun : log =
        (start.run first).2 ++ ((start.run first).1.run ((host, command) :: rest)).2 :=
      congrArg Prod.snd (run_append start first ((host, command) :: rest))
    rw [hRun] at hSmooth
    rw [List.map_append] at hBound
    obtain ⟨line, hBefore, hFitsLine, hReadyNow, hSupported⟩ :=
      hReady.run hFits first hBound.left hSmooth.left made
        fun p hp body hBody => ⟨p, List.mem_append_left _ hp, hBody⟩
    obtain ⟨next, hStep, hFitsNext⟩ :=
      hReadyNow.converses hFitsLine host command hSmooth.right.left
    rw [hSupported] at hStep
    refine ⟨line, next, hBefore, hFitsLine, hStep, hFitsNext, ?_⟩
    intro server hConnected
    exact hStep.first_of_serverConnected hFitsNext.free hConnected

theorem smooth_sessionOf {server : Server} (hKey : server.publicKey.length = agreementKeySize) :
    Smooth ((Channel.start {} .empty).run (sessionOf server)).2 := by
  rw [log_run_eq, chronicle_sessionOf hKey]
  simp [Smooth, Occurrence.isMishap]

theorem frames_in_order_of_session :
    let commands := sessionOf (.operations "10.0.0.1" 1 (List.replicate 32 9))
    let log := ((Channel.start {} .empty).run commands).2
    Prepared (commands.map Prod.snd) ∧ Smooth log ∧
      Exchange (fun body => ∃ p ∈ commands, p.1.Made .empty body) (written 3 log) := by
  intro commands log
  have hBound : Prepared (commands.map Prod.snd) :=
    .of_bound [.bindMultiplexer, .bindDemultiplexer] (by simp) (by simp) _
  have hSmooth : Smooth log := smooth_sessionOf rfl
  have hOrder := frames_in_order hBound
    (fun connection frame hFailed => by cases hSmooth _ hFailed)
    (fun error hDropped => by cases hSmooth _ hDropped)
  exact ⟨hBound, hSmooth, hOrder.1 3⟩

end Channel

end DeviceUplink
