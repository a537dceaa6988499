import DeviceUplink.Proofs.Channel.Rekeying
import DeviceUplink.Proofs.Channel.Silence

/-!
# Going over to a server

A server that is set again, perhaps with another key, changes nothing that is under way to it: it
comes to the same as if it had been set once. A server elsewhere ends what is under way, and then
there is one timer, at which it is dialed.
-/

namespace DeviceUplink

theorem Server.sameEndpoint_congr {a b : Server} (h : a.sameEndpoint b = true) (old : Server) :
    old.sameEndpoint a = old.sameEndpoint b := by
  apply Bool.eq_iff_iff.mpr
  constructor
  · exact fun ha => sameEndpoint_trans ha h
  · exact fun hb => sameEndpoint_trans hb (sameEndpoint_symm h)

namespace Occurrence

def isSessionMade : Occurrence → Bool
  | sessionMade _ => true
  | _ => false

/-- What it asks of the world, done or not. A session asks for nothing. -/
def outward? : Occurrence → Option Occurrence
  | sessionMade _ => none
  | sendFailed connection frame => some (sent connection frame)
  | o => some o

def leaving (connection : Option Nat) : List Occurrence :=
  connection.toList.flatMap fun n => [sent n Turn.farewell, closed n]

end Occurrence

def outward (log : List Occurrence) : List Occurrence :=
  log.filterMap Occurrence.outward?

def sessionLog (made : Option CryptoSession) : List Occurrence :=
  made.toList.map .sessionMade

theorem outward_append (log more : List Occurrence) :
    outward (log ++ more) = outward log ++ outward more :=
  List.filterMap_append

theorem outward_sessionLog (made : Option CryptoSession) : outward (sessionLog made) = [] := by
  cases made with
  | none => rfl
  | some session => rfl

theorem outward_cancelling (timer : Option Nat) :
    outward (Occurrence.cancelling timer) = Occurrence.cancelling timer := by
  cases timer with
  | none => rfl
  | some timer => rfl

theorem outward_parting (host : Host) (log : List Occurrence) (connection : Option Nat) :
    outward (Occurrence.parting host log connection) = Occurrence.leaving connection := by
  cases connection with
  | none => rfl
  | some connection =>
    simp only [Occurrence.parting]
    cases host.write log Turn.farewell with
    | ok _ => rfl
    | error _ => rfl

/-- A farewell gets out or not, whichever session was made before it. -/
def Host.PartsAlike (host : Host) : Prop :=
  ∀ made made' : Option CryptoSession,
    host.write (sessionLog made) Turn.farewell = host.write (sessionLog made') Turn.farewell

theorem Host.PartsAlike.parting {host : Host} (h : host.PartsAlike)
    (made made' : Option CryptoSession) (connection : Option Nat) :
    Occurrence.parting host (sessionLog made) connection =
      Occurrence.parting host (sessionLog made') connection := by
  simp only [Occurrence.parting, h made made']

namespace Channel

/-- The same but for the session and the statistics, and with a connection the same altogether. -/
structure SameCourse (c d : Channel) : Prop where
  rest : d = { c with session := d.session, statistics := d.statistics }
  live : c.connection.isSome = true → d = c

theorem SameCourse.of_unconnected {c d : Channel}
    (hRest : d = { c with session := d.session, statistics := d.statistics })
    (hConnection : c.connection = none) : c.SameCourse d := by
  refine ⟨hRest, fun hLive => ?_⟩
  rw [hConnection] at hLive
  cases hLive

def isUnderWayTo (c : Channel) (server : Server) : Bool :=
  c.server.any (fun old => old.sameEndpoint server) &&
    (c.connection.isSome || c.attempt.isSome || c.reconnect.isSome)

theorem isUnderWayTo_congr {a b : Server} (h : a.sameEndpoint b = true) (c : Channel) :
    c.isUnderWayTo a = c.isUnderWayTo b := by
  simp only [isUnderWayTo, Server.sameEndpoint_congr h]

end Channel

namespace Turn

def retargeted (host : Host) (c : Channel) (server : Server) : Turn :=
  ((keyed host c server).teardown host).withTimer .zero

theorem keyed_made (host : Host) (c : Channel) (server : Server) :
    ∃ made, keyed host c server =
      { channel := { c with session := made, server := some server }, log := sessionLog made } := by
  unfold keyed
  cases hNew : newSession host { channel := c } server with
  | ok session =>
    rw [makeSession_ok hNew]
    exact ⟨some session, rfl⟩
  | error error =>
    rw [makeSession_error hNew]
    exact ⟨none, rfl⟩

theorem retargeted_eq (host : Host) (c : Channel) (server : Server) :
    ∃ made,
      let words := sessionLog made ++ Occurrence.cancelling c.reconnect
      let parting := Occurrence.parting host words c.connection
      retargeted host c server =
        { channel := { c.idle (parting.countP Occurrence.isSent) with
            session := made
            server := some server
            lastId := c.lastId + 1
            reconnect := some (c.lastId + 1) }
          log := words ++ parting ++ [.scheduled (c.lastId + 1) .zero] } := by
  obtain ⟨made, hKeyed⟩ := keyed_made host c server
  refine ⟨made, ?_⟩
  rw [retargeted, hKeyed, teardown_eq]
  rfl

/-- What is under way is ended with a farewell and a cancelled timer, and the new timer starts. -/
theorem outward_retargeted (host : Host) (c : Channel) (server : Server) :
    outward (retargeted host c server).log =
      Occurrence.cancelling c.reconnect ++ Occurrence.leaving c.connection ++
        [.scheduled (c.lastId + 1) .zero] := by
  obtain ⟨made, hRetargeted⟩ := retargeted_eq host c server
  rw [hRetargeted]
  simp only [outward_append, outward_sessionLog, outward_cancelling, outward_parting,
    List.nil_append]
  rfl

end Turn

namespace Channel

variable {host : Host} {c : Channel}

/-- The three things that a server can do to a channel. -/
theorem handle_setServer (hRunning : c.phase ≠ .shutdown) (host : Host) (server : Server) :
    c.handle host (.setServer server) =
      if c.isUnderWayTo server then ({ c with server := some server }, [])
      else if c.phase = .paused then
        ((Turn.keyed host c server).channel, (Turn.keyed host c server).log)
      else ((Turn.retargeted host c server).channel, (Turn.retargeted host c server).log) := by
  have hIs : (c.server.any (fun old => old.sameEndpoint server) &&
      (c.connection.isSome || c.attempt.isSome || c.reconnect.isSome)) =
        c.isUnderWayTo server := rfl
  rw [handle_eq hRunning]
  simp only [Turn.obey, Turn.setServer, hIs]
  by_cases hUnderWay : c.isUnderWayTo server = true
  · rw [if_pos hUnderWay, if_pos hUnderWay]
    rfl
  · rw [if_neg hUnderWay, if_neg hUnderWay]
    by_cases hPaused : c.phase = .paused
    · rw [if_pos hPaused, if_pos hPaused]
      rfl
    · rw [if_neg hPaused, if_neg hPaused, Turn.scheduleOpen_teardown]
      rfl

theorem handle_setServer_of_isUnderWayTo {server : Server} (hRunning : c.phase ≠ .shutdown)
    (h : c.isUnderWayTo server = true) (host : Host) :
    c.handle host (.setServer server) = ({ c with server := some server }, []) := by
  rw [handle_setServer hRunning, if_pos h]

theorem handle_setServer_of_paused {server : Server} (hPaused : c.phase = .paused)
    (h : c.isUnderWayTo server = false) (host : Host) :
    ∃ made, c.handle host (.setServer server) =
      ({ c with session := made, server := some server }, sessionLog made) := by
  obtain ⟨made, hKeyed⟩ := Turn.keyed_made host c server
  refine ⟨made, ?_⟩
  rw [handle_setServer (by simp [hPaused]), if_neg (by simp [h]), if_pos hPaused, hKeyed]

theorem handle_setServer_of_elsewhere {server : Server} (hRunning : c.phase ≠ .shutdown)
    (hPaused : c.phase ≠ .paused) (h : c.isUnderWayTo server = false) (host : Host) :
    c.handle host (.setServer server) =
      ((Turn.retargeted host c server).channel, (Turn.retargeted host c server).log) := by
  rw [handle_setServer hRunning, if_neg (by simp [h]), if_neg hPaused]

/-- Two ways come to the same: the channels differ in the session at most and in the statistics, and
what is asked of the world is the same. If farewells fare alike, the statistics are the same too. -/
structure SameEnd (host : Host) (one other : Channel × List Occurrence) : Prop where
  course : one.1.SameCourse other.1
  outward : outward one.2 = outward other.2
  sameButKey : host.PartsAlike → one.1.SameButKey other.1
  log : host.PartsAlike →
    one.2.filter (fun o => !o.isSessionMade) = other.2.filter (fun o => !o.isSessionMade)

theorem SameEnd.refl (host : Host) (one : Channel × List Occurrence) : SameEnd host one one :=
  ⟨⟨rfl, fun _ => rfl⟩, rfl, fun _ => .refl one.1, fun _ => rfl⟩

theorem filter_sessionLog (made : Option CryptoSession) :
    (sessionLog made).filter (fun o => !o.isSessionMade) = [] := by
  cases made with
  | none => rfl
  | some session => rfl

/-- The session is made anew by every server that a paused channel is set to. -/
theorem sameEnd_of_paused {first second once : Option CryptoSession} {server : Server}
    (hConnection : c.connection = none) :
    SameEnd host
      ({ c with session := second, server := some server }, sessionLog first ++ sessionLog second)
      ({ c with session := once, server := some server }, sessionLog once) where
  course := .of_unconnected rfl hConnection
  outward := by simp only [outward_append, outward_sessionLog, List.append_nil]
  sameButKey _ := .of_unconnected rfl hConnection
  log _ := by simp only [List.filter_append, filter_sessionLog, List.append_nil]

theorem Settled.parting_alike (h : c.Settled) (hHost : host.PartsAlike)
    (made made' : Option CryptoSession) :
    Occurrence.parting host (sessionLog made ++ Occurrence.cancelling c.reconnect) c.connection =
      Occurrence.parting host (sessionLog made' ++ Occurrence.cancelling c.reconnect)
        c.connection := by
  cases hConnection : c.connection with
  | none => rfl
  | some connection =>
    obtain ⟨_, hReconnect⟩ := h.alone (Option.isSome_of_eq_some hConnection)
    rw [hReconnect]
    simp only [Occurrence.cancelling, List.append_nil]
    exact hHost.parting made made' _

/-- Only the session that is made differs with the server. -/
theorem Settled.sameEnd_retargeted (h : c.Settled) (host : Host) (server again : Server) :
    let first := Turn.retargeted host c server
    let once := Turn.retargeted host c again
    SameEnd host ({ first.channel with server := some again }, first.log)
      (once.channel, once.log) := by
  intro first once
  have hOutward : outward first.log = outward once.log :=
    (Turn.outward_retargeted host c server).trans (Turn.outward_retargeted host c again).symm
  obtain ⟨made, hFirst⟩ : ∃ made, _ := Turn.retargeted_eq host c server
  obtain ⟨made', hOnce⟩ : ∃ made', _ := Turn.retargeted_eq host c again
  refine ⟨?_, hOutward, fun hHost => ?_, fun hHost => ?_⟩
  · simp only [first, once, hFirst, hOnce]
    exact .of_unconnected rfl rfl
  · simp only [first, once, hFirst, hOnce, h.parting_alike hHost made made']
    exact .of_unconnected rfl rfl
  · simp only [first, once, hFirst, hOnce, h.parting_alike hHost made made', List.filter_append,
      filter_sessionLog]

theorem Settled.isUnderWayTo_eq_false (h : c.Settled)
    (hPhase : c.phase = .paused ∨ c.phase = .shutdown) (server : Server) :
    c.isUnderWayTo server = false := by
  obtain ⟨hConnection, hAttempt, hReconnect⟩ := h.nothing_under_way hPhase
  simp [isUnderWayTo, hConnection, hAttempt, hReconnect]

theorem phase_cases (hDown : c.phase ≠ .shutdown) (hPaused : c.phase ≠ .paused) :
    c.phase.isConnected = true ∨ c.phase = .closed := by
  cases hPhase : c.phase with
  | closed => exact .inr rfl
  | connecting | opened => exact .inl rfl
  | paused => exact absurd hPhase hPaused
  | shutdown => exact absurd hPhase hDown

theorem retargeted_elsewhere (hDown : c.phase ≠ .shutdown) (hPaused : c.phase ≠ .paused)
    {server : Server} (hElsewhere : c.isUnderWayTo server = false) (host : Host) :
    let next := c.handle host (.setServer server)
    (next.1.phase = .closed ∧ next.1.server = some server ∧ next.1.connection = none ∧
      next.1.attempt = none ∧ next.1.reconnect = some (c.lastId + 1) ∧
      next.1.lastId = c.lastId + 1) ∧
      outward next.2 = Occurrence.cancelling c.reconnect ++ Occurrence.leaving c.connection ++
        [.scheduled (c.lastId + 1) .zero] := by
  intro next
  have hNext : next = _ := handle_setServer_of_elsewhere hDown hPaused hElsewhere host
  rw [hNext]
  refine ⟨?_, Turn.outward_retargeted host c server⟩
  obtain ⟨made, hRetargeted⟩ := Turn.retargeted_eq host c server
  rw [hRetargeted]
  exact ⟨phase_idle 0 (phase_cases hDown hPaused), rfl, rfl, rfl, rfl, rfl⟩

/-- Once the server is set, the channel is on its way to it. -/
theorem isUnderWayTo_handle (hDown : c.phase ≠ .shutdown) (hPaused : c.phase ≠ .paused)
    (host : Host) (server : Server) :
    let next := (c.handle host (.setServer server)).1
    next.isUnderWayTo server = true ∧ next.phase ≠ .shutdown := by
  intro next
  cases hUnderWay : c.isUnderWayTo server with
  | true =>
    have hNext : next = { c with server := some server } :=
      congrArg Prod.fst (handle_setServer_of_isUnderWayTo hDown hUnderWay host)
    have hPending := (Bool.and_eq_true_iff.mp hUnderWay).2
    rw [hNext]
    refine ⟨Bool.and_eq_true_iff.mpr ⟨?_, hPending⟩, hDown⟩
    exact Server.sameEndpoint_refl server
  | false =>
    obtain ⟨⟨hPhase, hServer, _, _, hReconnect, _⟩, _⟩ :=
      retargeted_elsewhere hDown hPaused hUnderWay host
    simp only [next, isUnderWayTo, hServer, hReconnect, hPhase]
    simp [Server.sameEndpoint_refl]

theorem isUnderWayTo_of_elsewhere {server : Server}
    (h : ∀ old, c.server = some old → old.sameEndpoint server = false) :
    c.isUnderWayTo server = false := by
  cases hServer : c.server with
  | none => simp [isUnderWayTo, hServer]
  | some old => simp [isUnderWayTo, hServer, h old hServer]

theorem Settled.handle_twice_of_isUnderWayTo (h : c.Settled) {server again : Server}
    (hSame : server.sameEndpoint again = true) (hUnderWay : c.isUnderWayTo server = true)
    (host host' : Host) :
    let first := c.handle host (.setServer server)
    first = ({ c with server := some server }, []) ∧
      first.1.handle host' (.setServer again) = ({ c with server := some again }, []) := by
  intro first
  have hRunning : c.phase ≠ .shutdown ∧ c.phase ≠ .paused := by
    constructor
    · intro hDown
      rw [h.isUnderWayTo_eq_false (.inr hDown)] at hUnderWay
      cases hUnderWay
    · intro hPaused
      rw [h.isUnderWayTo_eq_false (.inl hPaused)] at hUnderWay
      cases hUnderWay
  have hFirst : first = ({ c with server := some server }, []) :=
    handle_setServer_of_isUnderWayTo hRunning.1 hUnderWay host
  obtain ⟨hStill, hDown⟩ := isUnderWayTo_handle hRunning.1 hRunning.2 host server
  rw [isUnderWayTo_congr hSame] at hStill
  refine ⟨hFirst, ?_⟩
  have hNext : (c.handle host (.setServer server)).1 = { c with server := some server } :=
    congrArg Prod.fst hFirst
  rw [handle_setServer_of_isUnderWayTo hDown hStill, hNext]

/-- Setting the server twice comes to what setting it once comes to, and the second time asks for
nothing. -/
theorem Settled.setServer_again (h : c.Settled) {server again : Server}
    (hSame : server.sameEndpoint again = true) (host host' : Host) :
    let first := c.handle host (.setServer server)
    let both := first.1.handle host' (.setServer again)
    SameEnd host (both.1, first.2 ++ both.2) (c.handle host (.setServer again)) ∧
      outward both.2 = [] := by
  intro first both
  have hCongr : c.isUnderWayTo server = c.isUnderWayTo again := isUnderWayTo_congr hSame c
  by_cases hDown : c.phase = .shutdown
  · have hFirst : first = (c, []) := handle_of_shutdown hDown _
    simp only [both, hFirst, handle_of_shutdown hDown]
    exact ⟨.refl host _, rfl⟩
  by_cases hPaused : c.phase = .paused
  · have hAway := h.isUnderWayTo_eq_false (.inl hPaused)
    obtain ⟨made, hFirst⟩ : ∃ made, first = _ :=
      handle_setServer_of_paused hPaused (hAway server) host
    have hNext : first.1.Settled := settled_handle host h _
    have hStill : first.1.phase = .paused := by rw [hFirst]; exact hPaused
    obtain ⟨made', hBoth⟩ : ∃ made', both = _ :=
      handle_setServer_of_paused hStill (hNext.isUnderWayTo_eq_false (.inl hStill) again) host'
    obtain ⟨once, hOnce⟩ := handle_setServer_of_paused hPaused (hAway again) host
    rw [hBoth, hFirst, hOnce]
    exact ⟨sameEnd_of_paused (h.nothing_under_way (.inl hPaused)).1, outward_sessionLog made'⟩
  have hNext := isUnderWayTo_handle hDown hPaused host server
  have hBoth : both = ({ first.1 with server := some again }, []) :=
    handle_setServer_of_isUnderWayTo hNext.2 ((isUnderWayTo_congr hSame _).symm.trans hNext.1) host'
  rw [hBoth, List.append_nil]
  refine ⟨?_, rfl⟩
  cases hUnderWay : c.isUnderWayTo again with
  | true =>
    have hFirst : first = _ := handle_setServer_of_isUnderWayTo hDown (hCongr.trans hUnderWay) host
    rw [hFirst, handle_setServer_of_isUnderWayTo hDown hUnderWay]
    exact .refl host _
  | false =>
    have hFirst : first = _ :=
      handle_setServer_of_elsewhere hDown hPaused (hCongr.trans hUnderWay) host
    rw [hFirst, handle_setServer_of_elsewhere hDown hPaused hUnderWay]
    exact h.sameEnd_retargeted host server again

end Channel

def Command.sparesTimer (timer : Nat) (endpoint : Server) : Command → Bool
  | .pause | .shutdown => false
  | .setServer server => endpoint.sameEndpoint server
  | .timerFired fired => fired ≠ timer
  | _ => true

structure Channel.Awaits (timer : Nat) (endpoint : Server) (c : Channel) : Prop where
  settled : c.Settled
  reconnect : c.reconnect = some timer
  lastId : c.lastId = timer
  aimed : c.server.any (fun server => server.sameEndpoint endpoint) = true

namespace Channel.Awaits

variable {timer : Nat} {endpoint : Server} {c : Channel}

theorem handle (h : c.Awaits timer endpoint) {command : Command}
    (hSpares : command.sparesTimer timer endpoint = true) (host : Host) :
    (c.handle host command).1.Awaits timer endpoint ∧ (c.handle host command).2 = [] := by
  obtain ⟨hClosed, hConnection, hAttempt⟩ :=
    h.settled.at_timer (Option.isSome_of_eq_some h.reconnect)
  have hDown : c.phase ≠ .shutdown := by simp [hClosed]
  have hNext : (c.handle host command).1.Settled := settled_handle host h.settled command
  cases hServer : command.server? with
  | some server =>
    cases command with
    | setServer other =>
      have hEndpoint : endpoint.sameEndpoint other = true := hSpares
      have hUnderWay : c.isUnderWayTo other = true := by
        rw [← isUnderWayTo_congr hEndpoint]
        simp [isUnderWayTo, h.aimed, h.reconnect]
      rw [handle_setServer_of_isUnderWayTo hDown hUnderWay] at hNext ⊢
      exact ⟨⟨hNext, h.reconnect, h.lastId, Server.sameEndpoint_symm hEndpoint⟩, rfl⟩
    | _ => cases hServer
  | none =>
    have hDeed : Deed host c command (Turn.obey host { channel := c } command) :=
      h.settled.deed_obey hDown command
    rw [handle_eq hDown] at hNext ⊢
    generalize Turn.obey host { channel := c } command = after at hDeed hNext ⊢
    cases hDeed with
    | nothing | boundMultiplexer | boundDemultiplexer | boundChecker =>
      exact ⟨⟨hNext, h.reconnect, h.lastId, h.aimed⟩, rfl⟩
    | redescribed | rekeyed | retargeted => cases hServer
    | suspended | stopped => cases hSpares
    | resumed hPaused =>
      rw [hClosed] at hPaused
      cases hPaused
    | unaimed hTimer | dialed hTimer =>
      obtain rfl := Option.some.inj (h.reconnect.symm.trans hTimer)
      simp [Command.sparesTimer] at hSpares
    | unreached _ hLinked | begun hLinked | stuck hLinked =>
      rw [hAttempt] at hLinked
      cases hLinked
    | live _ hLinked =>
      rw [hConnection] at hLinked
      cases hLinked

theorem run (h : c.Awaits timer endpoint) {commands : List (Host × Command)}
    (hSpare : ∀ command ∈ commands, command.2.sparesTimer timer endpoint = true) :
    (c.run commands).1.Awaits timer endpoint ∧ (c.run commands).2 = [] := by
  induction commands generalizing c with
  | nil => exact ⟨h, rfl⟩
  | cons command rest ih =>
    obtain ⟨hSpares, hRest⟩ := List.forall_mem_cons.mp hSpare
    obtain ⟨hNext, hQuiet⟩ := h.handle hSpares command.1
    obtain ⟨hLast, hMore⟩ := ih hNext hRest
    rw [run_cons, hQuiet, hMore]
    exact ⟨hLast, rfl⟩

/-- When the timer fires the channel dials the endpoint, as it has been described last. -/
theorem dials (h : c.Awaits timer endpoint) (hServer : c.server = some endpoint)
    {commands : List (Host × Command)}
    (hSpare : ∀ command ∈ commands, command.2.sparesTimer timer endpoint = true) (host : Host) :
    let waited := c.run commands
    waited.2 = [] ∧ (waited.1.handle host (.timerFired timer)).2 =
      [.dialed (timer + 1) ((lastServer? commands).getD endpoint)] := by
  intro waited
  obtain ⟨hWaited, hQuiet⟩ : waited.1.Awaits timer endpoint ∧ waited.2 = [] := h.run hSpare
  have hRunning : waited.1.phase ≠ .shutdown := by
    rw [(hWaited.settled.at_timer (Option.isSome_of_eq_some hWaited.reconnect)).1]
    exact Phase.noConfusion
  have hAimed : waited.1.server = some ((lastServer? commands).getD endpoint) := by
    rw [h.settled.server_run hRunning, hServer]
    cases lastServer? commands with
    | none => rfl
    | some server => rfl
  obtain ⟨next, hFired, _⟩ := hWaited.settled.handle_timer hWaited.reconnect host
  refine ⟨hQuiet, ?_⟩
  rw [hFired, hAimed, hWaited.lastId]
  rfl

end Channel.Awaits

namespace Channel

/-- Setting a server twice, with whatever key, comes to the same as setting it once: the same
channel up to its session, which is never used, and the same for the world. What is under way to the
endpoint is left as it is. A server elsewhere ends the connection with one farewell, or the attempt
or the timer; what is left is one timer without a delay, at which this server is dialed. -/
theorem setServer_idempotent_and_decisive (settings : ChannelSettings) (supported : DirectionMap)
    (before : List (Host × Command)) :
    let c := ((Channel.start settings supported).run before).1
    (∀ (host host' : Host) (server again : Server), server.sameEndpoint again = true →
      let first := c.handle host (.setServer server)
      let both := first.1.handle host' (.setServer again)
      let alone := c.handle host (.setServer again)
      both.1.SameCourse alone.1 ∧ outward (first.2 ++ both.2) = outward alone.2 ∧
        outward both.2 = [] ∧
        (c.isUnderWayTo server = true → first = ({ c with server := some server }, []) ∧
          both = ({ c with server := some again }, [])) ∧
        (host.PartsAlike → both.1.SameButKey alone.1 ∧
          (first.2 ++ both.2).filter (fun o => !o.isSessionMade) =
            alone.2.filter (fun o => !o.isSessionMade) ∧
          ∀ after, (alone.1.run after).2 = (both.1.run after).2)) ∧
    ∀ (host : Host) (server : Server), c.phase ≠ .paused → c.phase ≠ .shutdown →
      (∀ old, c.server = some old → old.sameEndpoint server = false) →
      let next := c.handle host (.setServer server)
      let timer := c.lastId + 1
      next.1.phase = .closed ∧ next.1.server = some server ∧ next.1.connection = none ∧
        next.1.attempt = none ∧ next.1.reconnect = some timer ∧
        outward next.2 = Occurrence.cancelling c.reconnect ++ Occurrence.leaving c.connection ++
          [.scheduled timer .zero] ∧
        ∀ (host' : Host) (between : List (Host × Command)),
          (∀ command ∈ between, command.2.sparesTimer timer server = true) →
          let waited := next.1.run between
          waited.2 = [] ∧ (waited.1.handle host' (.timerFired timer)).2 =
            [.dialed (timer + 1) ((lastServer? between).getD server)] := by
  intro c
  have hSettled : c.Settled := settled_run (.start settings supported) before
  constructor
  · intro host host' server again hSame first both alone
    obtain ⟨hEnd, hQuiet⟩ :
        SameEnd host (both.1, first.2 ++ both.2) alone ∧ outward both.2 = [] :=
      hSettled.setServer_again hSame host host'
    have hBoth : both.1.Settled := settled_handle host' (settled_handle host hSettled _) _
    refine ⟨hEnd.course, hEnd.outward, hQuiet, fun hUnderWay => ?_, fun hHost => ?_⟩
    · exact hSettled.handle_twice_of_isUnderWayTo hSame hUnderWay host host'
    · exact ⟨hEnd.sameButKey hHost, hEnd.log hHost,
        fun after => ((hEnd.sameButKey hHost).run hBoth after).2⟩
  · intro host server hPaused hDown hElsewhere next timer
    have hAway : c.isUnderWayTo server = false := isUnderWayTo_of_elsewhere hElsewhere
    obtain ⟨⟨hPhase, hServer, hConnection, hAttempt, hReconnect, hLast⟩, hOutward⟩ :=
      retargeted_elsewhere hDown hPaused hAway host
    refine ⟨hPhase, hServer, hConnection, hAttempt, hReconnect, hOutward, ?_⟩
    intro host' between hBetween
    have hAwaits : next.1.Awaits timer server :=
      ⟨settled_handle host hSettled _, hReconnect, hLast, by
        simp [next, hServer, Server.sameEndpoint_refl]⟩
    exact hAwaits.dials hServer hBetween host'

end Channel

end DeviceUplink
