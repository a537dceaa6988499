import DeviceUplink.Channel.Handling

/-!
# Giving up what is under way

What a teardown leaves of a channel and what it adds to the log, and the same for the report that
follows on a failure. Every handler that ends a connection goes through these two, so whatever
holds behind them need not be followed through the handlers.
-/

namespace DeviceUplink

namespace Occurrence

def isSent : Occurrence → Bool
  | sent _ _ => true
  | _ => false

def cancelling : Option Nat → List Occurrence
  | none => []
  | some timer => [cancelled timer]

def parting (host : Host) (log : List Occurrence) : Option Nat → List Occurrence
  | none => []
  | some connection =>
    match host.write log Turn.farewell with
    | .ok () => [sent connection Turn.farewell, closed connection]
    | .error _ => [sendFailed connection Turn.farewell, closed connection]

def isEnding : Occurrence → Bool
  | cancelled _ | closed _ => true
  | sent _ frame | sendFailed _ frame => frame = Turn.farewell
  | _ => false

theorem eq_of_isEnding {o : Occurrence} (h : o.isEnding = true) :
    ∃ n, o = cancelled n ∨ o = closed n ∨ o = sent n Turn.farewell ∨
      o = sendFailed n Turn.farewell := by
  cases o with
  | cancelled n => exact ⟨n, .inl rfl⟩
  | closed n => exact ⟨n, .inr (.inl rfl)⟩
  | sent n frame =>
    obtain rfl := of_decide_eq_true h
    exact ⟨n, .inr (.inr (.inl rfl))⟩
  | sendFailed n frame =>
    obtain rfl := of_decide_eq_true h
    exact ⟨n, .inr (.inr (.inr rfl))⟩
  | _ => cases h

theorem isEnding_of_mem_cancelling {timer : Option Nat} {o : Occurrence}
    (ho : o ∈ cancelling timer) : o.isEnding = true := by
  cases timer with
  | none => cases ho
  | some timer =>
    obtain rfl := List.mem_singleton.mp ho
    rfl

theorem isEnding_of_mem_parting {host : Host} {log : List Occurrence} {connection : Option Nat}
    {o : Occurrence} (ho : o ∈ parting host log connection) : o.isEnding = true := by
  unfold parting at ho
  split at ho
  · cases ho
  · split at ho
    all_goals
      simp only [List.mem_cons, List.not_mem_nil, or_false] at ho
      rcases ho with rfl | rfl <;> rfl

end Occurrence

def Channel.idle (c : Channel) (farewells : Nat) : Channel :=
  { c with
    phase := if c.phase.isConnected then .closed else c.phase
    connection := none
    attempt := none
    reconnect := none
    roundTrip := c.roundTrip.reset
    statistics := { c.statistics with framesSent := c.statistics.framesSent + farewells } }

namespace Turn

@[simp] theorem channel_note (t : Turn) (o : Occurrence) : (t.note o).channel = t.channel := rfl

@[simp] theorem log_note (t : Turn) (o : Occurrence) : (t.note o).log = t.log ++ [o] := rfl

@[simp] theorem channel_update (t : Turn) (f : Channel → Channel) :
    (t.update f).channel = f t.channel := rfl

@[simp] theorem log_update (t : Turn) (f : Channel → Channel) : (t.update f).log = t.log := rfl

@[simp] theorem channel_setPhase (t : Turn) (phase : Phase) :
    (t.setPhase phase).channel = { t.channel with phase } := rfl

@[simp] theorem log_setPhase (t : Turn) (phase : Phase) : (t.setPhase phase).log = t.log := rfl

theorem log_cancelReconnect (t : Turn) :
    t.cancelReconnect.log = t.log ++ Occurrence.cancelling t.channel.reconnect := by
  cases h : t.channel.reconnect with
  | none => simp [cancelReconnect, h, Occurrence.cancelling]
  | some timer => simp [cancelReconnect, h, Occurrence.cancelling]

theorem channel_cancelReconnect (t : Turn) :
    t.cancelReconnect.channel = { t.channel with reconnect := none } := by
  cases h : t.channel.reconnect with
  | none =>
    have hsame : { t.channel with reconnect := none } = t.channel := by rw [← h]
    simp [cancelReconnect, h, hsame]
  | some timer => simp [cancelReconnect, h]

theorem closeConnection_eq (host : Host) (t : Turn) :
    let parting := Occurrence.parting host t.log t.channel.connection
    t.closeConnection host =
      { channel := { t.channel with
          connection := none
          statistics := { t.channel.statistics with
            framesSent := t.channel.statistics.framesSent + parting.countP Occurrence.isSent } }
        log := t.log ++ parting } := by
  cases h : t.channel.connection with
  | none =>
    have hsame : { t.channel with connection := none } = t.channel := by rw [← h]
    simp [closeConnection, h, Occurrence.parting, hsame]
  | some connection =>
    cases hw : host.write t.log farewell with
    | ok _ =>
      simp [closeConnection, h, Occurrence.parting, hw, List.countP_cons, Occurrence.isSent, note,
        update]
    | error _ =>
      simp [closeConnection, h, Occurrence.parting, hw, Occurrence.isSent, note, update]

def logAtClosing (t : Turn) : List Occurrence :=
  t.log ++ Occurrence.cancelling t.channel.reconnect

theorem teardown_eq (host : Host) (t : Turn) :
    let parting := Occurrence.parting host t.logAtClosing t.channel.connection
    t.teardown host =
      { channel := t.channel.idle (parting.countP Occurrence.isSent)
        log := t.logAtClosing ++ parting } := by
  simp only [teardown, closeConnection_eq, log_update, channel_update, channel_cancelReconnect,
    log_cancelReconnect, logAtClosing, Channel.idle]
  split
  · simp [setPhase, update]
  · simp

theorem log_teardown (host : Host) (t : Turn) :
    ∃ endings, (t.teardown host).log = t.log ++ endings ∧ ∀ o ∈ endings, o.isEnding = true := by
  rw [teardown_eq]
  refine ⟨_, List.append_assoc _ _ _, ?_⟩
  intro o ho
  rcases List.mem_append.mp ho with ho | ho
  · exact Occurrence.isEnding_of_mem_cancelling ho
  · exact Occurrence.isEnding_of_mem_parting ho

/-- The phase is closed in the end, whether it was closed before or not. -/
theorem teardown_setPhase_closed (host : Host) {t : Turn} (h : t.channel.phase.isConnected) :
    (t.setPhase .closed).teardown host = t.teardown host := by
  simp only [teardown_eq, logAtClosing, channel_setPhase, log_setPhase, Channel.idle, h, if_true]
  rfl

theorem channel_teardown (host : Host) (t : Turn) :
    ∃ farewells, (t.teardown host).channel = t.channel.idle farewells :=
  ⟨_, by rw [teardown_eq]⟩

def withTimer (t : Turn) (delay : Duration) : Turn :=
  { channel := { t.channel with
      lastId := t.channel.lastId + 1
      reconnect := some (t.channel.lastId + 1) }
    log := t.log ++ [.scheduled (t.channel.lastId + 1) delay] }

theorem scheduleOpen_eq {t : Turn} (delay : Duration) (hReconnect : t.channel.reconnect = none)
    (hAttempt : t.channel.attempt = none) : t.scheduleOpen delay = t.withTimer delay := by
  simp [scheduleOpen, hReconnect, hAttempt, takeId, update, note, withTimer]

end Turn

/-- What is reported of a failure when everything is down: the network, if a checker is bound and
does not reach it, or else the server. What the failover decides on the network is done at once. -/
inductive Reported (host : Host) (down : Turn) : Turn → Prop
  | nobody (hServer : down.channel.server = none)
      (hOnline : down.channel.hasChecker = false ∨ host.isOnline down.log = true) :
      Reported host down down
  | server {server : Server} (hServer : down.channel.server = some server)
      (hOnline : down.channel.hasChecker = false ∨ host.isOnline down.log = true) :
      Reported host down (down.note (.serverFailed server))
  | noop (hChecker : down.channel.hasChecker = true) (hOffline : host.isOnline down.log = false)
      (hDecision : host.decide down.log .noConnectivity = .noop) :
      Reported host down (down.note (.asked .noConnectivity .noop))
  | retry {delay : Duration} (hChecker : down.channel.hasChecker = true)
      (hOffline : host.isOnline down.log = false)
      (hDecision : host.decide down.log .noConnectivity = .retry delay) :
      Reported host down ((down.note (.asked .noConnectivity (.retry delay))).withTimer delay)
  | stop (hChecker : down.channel.hasChecker = true) (hOffline : host.isOnline down.log = false)
      (hDecision : host.decide down.log .noConnectivity = .stop) :
      Reported host down
        ((down.note (.asked .noConnectivity .stop)).note (.fatal .noConnectivity))

namespace Turn

theorem reported_failNetwork {host : Host} {down : Turn}
    (hReconnect : down.channel.reconnect = none) (hAttempt : down.channel.attempt = none)
    (hChecker : down.channel.hasChecker = true) (hOffline : host.isOnline down.log = false) :
    Reported host down (down.failNetwork host) := by
  cases hDecision : host.decide down.log .noConnectivity with
  | noop =>
    simp only [failNetwork, hDecision]
    exact .noop hChecker hOffline hDecision
  | retry delay =>
    simp only [failNetwork, hDecision]
    rw [scheduleOpen_eq delay (by exact hReconnect) (by exact hAttempt)]
    exact .retry hChecker hOffline hDecision
  | stop =>
    simp only [failNetwork, hDecision]
    exact .stop hChecker hOffline hDecision

theorem reported_failServer (host : Host) (t : Turn) :
    Reported host (t.teardown host) (t.failServer host) := by
  have hIdle : (t.teardown host).channel.reconnect = none ∧
      (t.teardown host).channel.attempt = none := by
    obtain ⟨farewells, h⟩ := t.channel_teardown host
    simp [h, Channel.idle]
  unfold failServer
  generalize t.teardown host = down at hIdle ⊢
  by_cases hOffline : (down.channel.hasChecker && !host.isOnline down.log) = true
  · simp only [hOffline, if_true]
    obtain ⟨hChecker, hNet⟩ := Bool.and_eq_true_iff.mp hOffline
    exact reported_failNetwork hIdle.1 hIdle.2 hChecker (by simpa using hNet)
  · have hOnline : down.channel.hasChecker = false ∨ host.isOnline down.log = true := by
      simpa [Decidable.imp_iff_not_or] using hOffline
    simp only [hOffline]
    cases hServer : down.channel.server with
    | none => exact .nobody hServer hOnline
    | some server => exact .server hServer hOnline

/-- Of the channel a failure leaves what a teardown leaves, with perhaps another timer. -/
theorem channel_failServer (host : Host) (t : Turn) :
    ∃ farewells reconnect lastId, t.channel.lastId ≤ lastId ∧
      (t.failServer host).channel = { t.channel.idle farewells with reconnect, lastId } := by
  obtain ⟨farewells, hDown⟩ := t.channel_teardown host
  have hReported := t.reported_failServer host
  generalize t.failServer host = after, t.teardown host = down at hDown hReported ⊢
  cases hReported with
  | retry =>
    simp only [withTimer, channel_note, hDown]
    exact ⟨farewells, _, _, Nat.le_succ _, rfl⟩
  | _ => exact ⟨farewells, _, _, Nat.le_refl _, hDown⟩

end Turn

end DeviceUplink
