import DeviceUplink.Proofs.Channel.Passage

/-!
# The report of a failure

What a failure adds to the log once it is found out: the connection is closed, and then there is
one call of the failover and what that asks for.
-/

namespace DeviceUplink

inductive Report (isOffline : Bool) (decision : FailoverDecision) (server : Server) :
    (timer : Option Nat) → List Occurrence → Prop
  | server (hOnline : isOffline = false) :
      Report isOffline decision server none [.serverFailed server]
  | noop (hOffline : isOffline = true) (hDecision : decision = .noop) :
      Report isOffline decision server none [.asked .noConnectivity .noop]
  | retry {delay : Duration} (timer : Nat) (hOffline : isOffline = true)
      (hDecision : decision = .retry delay) :
      Report isOffline decision server (some timer)
        [.asked .noConnectivity (.retry delay), .scheduled timer delay]
  | stop (hOffline : isOffline = true) (hDecision : decision = .stop) :
      Report isOffline decision server none
        [.asked .noConnectivity .stop, .fatal .noConnectivity]

def Channel.isOffline (host : Host) (c : Channel) (log : List Occurrence) : Bool :=
  c.hasChecker && !host.isOnline log

/-- What follows on a failure that is `found` out: the connection is closed and the report goes out,
after which the channel is `next`. -/
inductive Dealt (host : Host) (c : Channel) (server : Server) (found : List Occurrence)
    (next : Channel) : List Occurrence → Prop
  | intro {parting report : List Occurrence} (hParting : Orderly parting)
      (hClosed : ∀ connection, c.connection = some connection → .closed connection ∈ parting)
      (hConnection : next.connection = none) (hAttempt : next.attempt = none)
      (hReport : Report (c.isOffline host (found ++ parting))
        (host.decide (found ++ parting) .noConnectivity) server next.reconnect report) :
      Dealt host c server found next (found ++ parting ++ report)

theorem Reported.report {host : Host} {down after : Turn} (h : Reported host down after)
    {server : Server} (hServer : down.channel.server = some server)
    (hReconnect : down.channel.reconnect = none) :
    ∃ report, after.log = down.log ++ report ∧
      Report (down.channel.isOffline host down.log) (host.decide down.log .noConnectivity) server
        after.channel.reconnect report := by
  have hOnlineIff : down.channel.hasChecker = false ∨ host.isOnline down.log = true →
      down.channel.isOffline host down.log = false := by
    intro hOnline
    rcases hOnline with hOnline | hOnline <;> simp [Channel.isOffline, hOnline]
  cases h with
  | nobody hNone => rw [hNone] at hServer; cases hServer
  | server hSome hOnline =>
    rw [hSome] at hServer
    cases hServer
    exact ⟨_, rfl, hReconnect ▸ .server (hOnlineIff hOnline)⟩
  | noop hChecker hOffline hDecision =>
    exact ⟨_, rfl, hReconnect ▸ .noop (by simp [Channel.isOffline, hChecker, hOffline]) hDecision⟩
  | retry hChecker hOffline hDecision =>
    refine ⟨_, List.append_assoc _ _ _, ?_⟩
    exact .retry _ (by simp [Channel.isOffline, hChecker, hOffline]) hDecision
  | stop hChecker hOffline hDecision =>
    refine ⟨_, List.append_assoc _ _ _, ?_⟩
    exact hReconnect ▸ .stop (by simp [Channel.isOffline, hChecker, hOffline]) hDecision

theorem Occurrence.closed_mem_parting (host : Host) (log : List Occurrence) (connection : Nat) :
    closed connection ∈ parting host log (some connection) := by
  unfold parting
  cases host.write log Turn.farewell <;> simp

namespace Turn

theorem dealt_failServer (host : Host) (t : Turn) {server : Server}
    (hServer : t.channel.server = some server) :
    Dealt host t.channel server t.log (t.failServer host).channel (t.failServer host).log := by
  have hEq := t.teardown_eq host
  have hReported := t.reported_failServer host
  generalize hParting : Occurrence.parting host t.logAtClosing t.channel.connection = parting at hEq
  simp only [logAtClosing, List.append_assoc] at hEq
  obtain ⟨report, hLog, hReport⟩ := hReported.report (by rw [hEq]; exact hServer) (by rw [hEq]; rfl)
  rw [hEq] at hLog hReport
  rw [hLog]
  obtain ⟨hConnection, hAttempt⟩ := t.unlinked_failServer host
  have hCancelling : Orderly (Occurrence.cancelling t.channel.reconnect) :=
    .of_endings fun _ => Occurrence.isEnding_of_mem_cancelling
  have hOrderly : Orderly parting := by
    rw [← hParting]
    exact .of_endings fun _ => Occurrence.isEnding_of_mem_parting
  refine .intro (hCancelling.append hOrderly) ?_ hConnection hAttempt
    hReport
  intro connection hConnection
  rw [← hParting, hConnection]
  exact List.mem_append_right _ (Occurrence.closed_mem_parting host _ connection)

theorem dealt_failFor (host : Host) (t : Turn) (symptoms : List Occurrence) (cause : Occurrence)
    {server : Server} (hServer : t.channel.server = some server) :
    Dealt host t.channel server (t.log ++ (symptoms ++ cause :: cause.cleaning))
      (t.failFor host symptoms cause).channel (t.failFor host symptoms cause).log :=
  dealt_failServer host (t.noteAll (symptoms ++ cause :: cause.cleaning)) hServer

end Turn

end DeviceUplink
