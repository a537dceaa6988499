import DeviceUplink.Proofs.Channel.Invariant

/-!
# What is said under a key

A command either opens a connection, with a key that is drawn in it, or sends requests on the
connection that is there, under the session that the channel has. `Keyed` says so of every command,
and what it leaves of the connection and its session.
-/

namespace DeviceUplink

namespace Occurrence

def isKeyed : Occurrence → Bool
  | sent _ (.connect _) | sent _ (.syncRequest _) | started _ => true
  | _ => false

theorem isKeyed_of_isFailure {o : Occurrence} (h : o.isFailure = true) : o.isKeyed = false := by
  cases o <;> first | rfl | cases h

theorem isKeyed_of_isDelivery {o : Occurrence} (h : o.isDelivery = true) : o.isKeyed = false := by
  cases o <;> first | rfl | cases h

theorem isKeyed_of_isNotice {o : Occurrence} (h : o.isNotice = true) : o.isKeyed = false := by
  cases o <;> first | rfl | cases h

theorem isKeyed_of_isEnding {o : Occurrence} (h : o.isEnding = true) : o.isKeyed = false := by
  obtain ⟨_, rfl | rfl | rfl | rfl⟩ := eq_of_isEnding h <;> rfl

end Occurrence

/-- A command opens a connection. Its session is for the server of the moment, with a key that is
drawn there and then, and its CONNECT carries that key. -/
structure Opening (host : Host) (c : Channel) (log : List Occurrence) (connection : Nat)
    (session : CryptoSession) (connect : Connect) : Prop where
  drawn : session.key = (host.draw []).sessionKey
  aimed : ∃ server, c.server = some server ∧ session.destination = server.publicKey
  wrapped : ∃ request, connect = Connect.ofSession host.suite session c.settings.keepAlive
    (host.draw [.sessionMade session, .compiled c.supported]) request
  number : connection = c.lastId + 1
  log : log = [.sessionMade session, .compiled c.supported, .sent connection (.connect connect),
    .started connection]

def Channel.Requests (host : Host) (c : Channel) (o : Occurrence) : Prop :=
  ∃ connection session nonce request, c.connection = some connection ∧
    c.session = some session ∧ o = .sent connection (session.requestFrame host.suite nonce request)

namespace Turn

variable {host : Host} {t u : Turn} {o : Occurrence}

theorem keyed_note {other : Occurrence} (hOther : other.isKeyed = false)
    (ho : o ∈ (t.note other).log) (hKeyed : o.isKeyed = true) : o ∈ t.log := by
  rcases List.mem_append.mp ho with ho | ho
  · exact ho
  · rw [List.mem_singleton.mp ho, hOther] at hKeyed
    cases hKeyed

/-- Nothing is sent under a key any more once a connection is given up. -/
theorem keyed_teardown (ho : o ∈ (t.teardown host).log) (hKeyed : o.isKeyed = true) :
    o ∈ t.log := by
  obtain ⟨endings, hLog, hEndings⟩ := t.log_teardown host
  rw [hLog] at ho
  rcases List.mem_append.mp ho with ho | ho
  · exact ho
  · rw [Occurrence.isKeyed_of_isEnding (hEndings o ho)] at hKeyed
    cases hKeyed

theorem keyed_failServer (ho : o ∈ (t.failServer host).log) (hKeyed : o.isKeyed = true) :
    o ∈ t.log := by
  obtain ⟨notices, hLog, hNotices⟩ := t.log_failServer host
  rw [hLog] at ho
  rcases List.mem_append.mp ho with ho | ho
  · exact keyed_teardown ho hKeyed
  · rw [Occurrence.isKeyed_of_isNotice (hNotices o ho)] at hKeyed
    cases hKeyed

theorem keyed_failFor {symptoms : List Occurrence} {cause : Occurrence}
    (hSymptoms : Symptoms cause symptoms) (hFailure : cause.isFailure = true)
    (ho : o ∈ (t.failFor host symptoms cause).log) (hKeyed : o.isKeyed = true) : o ∈ t.log := by
  have hNoted := keyed_failServer ho hKeyed
  rcases List.mem_append.mp hNoted with hNoted | hNoted
  · exact hNoted
  · rcases hSymptoms.mem_cases hFailure hNoted with hFailed | rfl | ⟨_, _, rfl⟩
    · rw [Occurrence.isKeyed_of_isFailure hFailed] at hKeyed
      cases hKeyed
    · cases hKeyed
    · cases hKeyed

theorem keyed_synced {directions : DirectionMap} (h : Synced host directions t u) (ho : o ∈ u.log)
    (hKeyed : o.isKeyed = true) : o ∈ t.log ∨ t.channel.Requests host o := by
  cases h with
  | undue => exact .inl ho
  | dropped =>
    exact .inl (keyed_note rfl (keyed_note rfl ho hKeyed) hKeyed)
  | sent hConnection hSession =>
    rcases List.mem_append.mp ho with ho | ho
    · exact .inl (keyed_note rfl ho hKeyed)
    · rw [List.mem_singleton.mp ho]
      exact .inr ⟨_, _, _, _, hConnection, hSession, rfl⟩

theorem keyed_deliver {payload : Bytes} (ho : o ∈ (t.deliver host payload).log)
    (hKeyed : o.isKeyed = true) : o ∈ t.log := by
  revert ho
  refine deliver_induction (motive := fun u => o ∈ u.log → o ∈ t.log) host payload id ?_
  intro u made hMade h ho
  exact h (keyed_note (Occurrence.isKeyed_of_isDelivery hMade) ho hKeyed)

theorem keyed_opened {payload? : Option Bytes} {server : Server}
    (ho : o ∈ (t.opened host payload? server).log) (hKeyed : o.isKeyed = true) : o ∈ t.log := by
  have hOpened := keyed_note rfl ho hKeyed
  cases payload? with
  | none => exact hOpened
  | some payload => exact keyed_deliver (t := t.setPhase .opened) hOpened hKeyed

theorem keyed_move (h : Move host t u) (ho : o ∈ u.log) (hKeyed : o.isKeyed = true) :
    o ∈ t.log ∨ t.channel.Requests host o := by
  cases h with
  | counted | received | ponged => exact .inl ho
  | named => exact .inl (keyed_note rfl ho hKeyed)
  | delivered => exact .inl (keyed_deliver ho hKeyed)
  | pinged => exact .inl (keyed_note (t := t.countSent host.now _) rfl ho hKeyed)
  | synced _ hSynced => exact keyed_synced hSynced ho hKeyed
  | @opened payload? server _ _ _ hSynced =>
    rcases keyed_synced hSynced ho hKeyed with ho | ho
    · exact .inl (keyed_opened ho hKeyed)
    · rw [channel_opened] at ho
      exact .inr ho

theorem keyed_moves (hConnected : t.channel.phase.isConnected = true) (h : Moves host t u)
    (ho : o ∈ u.log) (hKeyed : o.isKeyed = true) : o ∈ t.log ∨ t.channel.Requests host o := by
  induction h with
  | refl => exact .inl ho
  | tail hMoves hMove ih =>
    rcases keyed_move hMove ho hKeyed with ho | ho
    · exact ih ho
    · obtain ⟨_, _, _, _, hu⟩ := channel_of_moves hConnected hMoves
      rw [hu] at ho
      exact .inr ho

end Turn

theorem Broken.keyed {host : Host} {connection : Nat} {t before : Turn}
    {symptoms : List Occurrence} {cause o : Occurrence}
    (h : Broken host connection t before symptoms cause) (ho : o ∈ before.log)
    (hKeyed : o.isKeyed = true) : o ∈ t.log := by
  cases h with
  | sync => exact Turn.keyed_note rfl ho hKeyed
  | opening => exact Turn.keyed_opened (Turn.keyed_note rfl ho hKeyed) hKeyed
  | _ => exact ho

theorem Course.keyed {host : Host} {connection : Nat} {t u : Turn} {o : Occurrence}
    (h : Course host connection t u) (hConnected : t.channel.phase.isConnected = true)
    (ho : o ∈ u.log) (hKeyed : o.isKeyed = true) : o ∈ t.log ∨ t.channel.Requests host o := by
  cases h with
  | kept hMoves => exact Turn.keyed_moves hConnected hMoves ho hKeyed
  | failed hMoves hBroken =>
    obtain ⟨hSymptoms, hFailure, _⟩ := hBroken.symptoms
    have hBefore := Turn.keyed_failFor hSymptoms hFailure ho hKeyed
    exact Turn.keyed_moves hConnected hMoves (hBroken.keyed hBefore hKeyed) hKeyed
  | left hMoves =>
    have hNoted := Turn.keyed_teardown ho hKeyed
    exact Turn.keyed_moves hConnected hMoves (Turn.keyed_note rfl hNoted hKeyed) hKeyed

theorem Occurrence.isKeyed_of_isPrelude {o : Occurrence} (h : o.isPrelude = true) :
    o.isKeyed = false := by
  cases o <;> first | rfl | cases h

theorem Turn.newSession_eq {host : Host} {t : Turn} {server : Server} {session : CryptoSession}
    (h : t.newSession host server = .ok session) :
    session.key = (host.draw t.log).sessionKey ∧ session.destination = server.publicKey := by
  unfold newSession CryptoSession.new at h
  split at h
  · cases h
  · split at h
    · cases h
    · cases h
      exact ⟨rfl, rfl⟩

/-- What a command does with keys: it opens a connection under a new one, or it sends requests on
the connection that is there, which if it stays has the session that it had. -/
inductive Keyed (host : Host) (c : Channel) : Turn → Prop
  | opened {after : Turn} {connection : Nat} {session : CryptoSession} {connect : Connect}
      (h : Opening host c after.log connection session connect)
      (hConnection : after.channel.connection = some connection)
      (hSession : after.channel.session = some session)
      (hLast : after.channel.lastId = connection) : Keyed host c after
  | kept {after : Turn} (hLog : ∀ o ∈ after.log, o.isKeyed = true → c.Requests host o)
      (hConnection : ∀ connection, after.channel.connection = some connection →
        c.connection = some connection ∧ after.channel.session = c.session)
      (hLast : c.lastId ≤ after.channel.lastId) : Keyed host c after

namespace Turn

variable {host : Host} {t : Turn} {c : Channel}

theorem lastId_teardown (host : Host) (t : Turn) :
    (t.teardown host).channel.lastId = t.channel.lastId := by
  obtain ⟨_, h⟩ := t.channel_teardown host
  rw [h, Channel.idle]

theorem lastId_le_failServer (host : Host) (t : Turn) :
    t.channel.lastId ≤ (t.failServer host).channel.lastId := by
  obtain ⟨_, _, _, hLast, h⟩ := t.channel_failServer host
  rw [h]
  exact hLast

/-- Nothing is left of the connection, if there was one. -/
theorem keyed_of_unlinked (hLog : ∀ o ∈ t.log, o.isKeyed = true → c.Requests host o)
    (hConnection : t.channel.connection = none) (hLast : c.lastId ≤ t.channel.lastId) :
    Keyed host c t := by
  refine .kept hLog ?_ hLast
  intro connection hSome
  rw [hConnection] at hSome
  cases hSome

theorem keyed_of_teardown (hLog : ∀ o ∈ t.log, o.isKeyed = false)
    (hLast : t.channel.lastId = c.lastId) : Keyed host c (t.teardown host) := by
  refine keyed_of_unlinked ?_ (connection_teardown host t) ?_
  · intro o ho hKeyed
    rw [hLog o (keyed_teardown ho hKeyed)] at hKeyed
    cases hKeyed
  · exact Nat.le_of_eq (by rw [lastId_teardown, hLast])

theorem keyed_of_failFor {symptoms : List Occurrence} {cause : Occurrence}
    (hSymptoms : Symptoms cause symptoms) (hFailure : cause.isFailure = true)
    (hLog : ∀ o ∈ t.log, o.isKeyed = true → c.Requests host o)
    (hLast : c.lastId ≤ t.channel.lastId) : Keyed host c (t.failFor host symptoms cause) := by
  refine keyed_of_unlinked ?_ (unlinked_failServer host _).1 ?_
  · intro o ho hKeyed
    exact hLog o (keyed_failFor hSymptoms hFailure ho hKeyed) hKeyed
  · exact Nat.le_trans hLast (lastId_le_failServer host (noteAll _ _))

end Turn

namespace Channel

variable {c : Channel} {host : Host}

theorem requests_of_keyless {log : List Occurrence} (h : ∀ o ∈ log, o.isKeyed = false) :
    ∀ o ∈ log, o.isKeyed = true → c.Requests host o := by
  intro o ho hKeyed
  rw [h o ho] at hKeyed
  cases hKeyed

/-- The connection is left alone, and nothing is sent on it. -/
theorem keyed_of_same {after : Turn} (hLog : ∀ o ∈ after.log, o.isKeyed = false)
    (hConnection : after.channel.connection = c.connection)
    (hSession : after.channel.session = c.session) (hLast : c.lastId ≤ after.channel.lastId) :
    Keyed host c after := by
  refine .kept (requests_of_keyless hLog) ?_ hLast
  intro connection hSome
  exact ⟨hConnection.symm.trans hSome, hSession⟩

theorem keyed_begun {after : Turn}
    (h : Begun host { channel := { c with attempt := none } } (after, .ok ())) :
    Keyed host c after := by
  cases h with
  | live hGreeting =>
    obtain ⟨server, hServer, hNew⟩ := hGreeting.made
    obtain ⟨request, _, hConnect⟩ := hGreeting.compiled
    obtain ⟨hKey, hDestination⟩ := Turn.newSession_eq hNew
    refine .opened ⟨hKey, ⟨server, hServer, hDestination⟩, ⟨request, hConnect⟩, rfl, rfl⟩ ?_ ?_ ?_
    · rfl
    · rfl
    · rfl

theorem keyed_stuck {attempt : Nat} {before : Turn} {error : ChannelError}
    (h : Begun host { channel := { c with attempt := none } } (before, .error error)) :
    Keyed host c (before.failFor host [] (.sessionFailed attempt error)) := by
  cases h with
  | unready _ hBefore hMore =>
    subst hBefore
    refine Turn.keyed_of_failFor (.none _) rfl (requests_of_keyless ?_) (Nat.le_refl _)
    intro o ho
    exact Occurrence.isKeyed_of_isPrelude (hMore o ho)
  | unsent session connect =>
    rw [Turn.failFor_noteAll]
    refine Turn.keyed_of_failFor (.connect _ attempt connect error) rfl (requests_of_keyless ?_)
      (Nat.le_succ _)
    intro o ho
    refine Occurrence.isKeyed_of_isPrelude ?_
    simp only [Turn.ungreeted, List.nil_append, List.mem_cons, List.not_mem_nil, or_false] at ho
    rcases ho with rfl | rfl <;> rfl

namespace Settled

variable (h : c.Settled)

include h

theorem keyed_rekeyed (server : Server) (hPhase : c.phase = .paused) :
    Keyed host c (Turn.keyed host c server) := by
  obtain ⟨session, more, hKeyed, hMore⟩ := Turn.keyed_eq host c server
  obtain ⟨hConnection, _⟩ := h.nothing_under_way (.inl hPhase)
  rw [hKeyed]
  refine Turn.keyed_of_unlinked (requests_of_keyless ?_) hConnection (Nat.le_refl _)
  intro o ho
  exact Occurrence.isKeyed_of_isPrelude (hMore o ho)

omit h in
theorem keyed_retargeted (server : Server) :
    Keyed host c (((Turn.keyed host c server).teardown host).withTimer .zero) := by
  obtain ⟨session, more, hKeyed, hMore⟩ := Turn.keyed_eq host c server
  refine Turn.keyed_of_unlinked (requests_of_keyless ?_) (Turn.connection_teardown host _) ?_
  · intro o ho
    rcases List.mem_append.mp ho with ho | ho
    · cases hIs : o.isKeyed with
      | false => rfl
      | true =>
        have hBefore := Turn.keyed_teardown ho hIs
        rw [hKeyed] at hBefore
        rw [Occurrence.isKeyed_of_isPrelude (hMore o hBefore)] at hIs
        cases hIs
    · rw [List.mem_singleton.mp ho]
      rfl
  · simp only [Turn.withTimer, Turn.lastId_teardown, hKeyed]
    exact Nat.le_succ _

theorem keyed_live {connection : Nat} {after : Turn} (hConnection : c.connection = some connection)
    (hCourse : Course host connection { channel := c } after) : Keyed host c after := by
  have hConnected := (h.equipped (Option.isSome_of_eq_some hConnection)).connected
  have hLog : ∀ o ∈ after.log, o.isKeyed = true → c.Requests host o := by
    intro o ho hKeyed
    rcases hCourse.keyed hConnected ho hKeyed with hNil | hRequests
    · cases hNil
    · exact hRequests
  cases hCourse with
  | kept hMoves =>
    obtain ⟨_, _, _, _, hAfter⟩ := Turn.channel_of_moves hConnected hMoves
    refine .kept hLog ?_ (Nat.le_of_eq (by rw [hAfter]))
    intro other hOther
    rw [hAfter] at hOther
    exact ⟨hOther, by rw [hAfter]⟩
  | @failed u before _ _ hMoves hBroken =>
    refine Turn.keyed_of_unlinked hLog (Turn.unlinked_failServer host _).1 ?_
    have hKept := Kept.of_moves hConnected hMoves
    obtain ⟨_, _, _, _, hBefore⟩ := (hKept.trans (hBroken.kept hKept.isConnected)).channel
    have hLast : before.channel.lastId = c.lastId := by rw [hBefore]
    exact hLast ▸ Turn.lastId_le_failServer host (Turn.noteAll before _)
  | left hMoves =>
    obtain ⟨_, _, _, _, hBefore⟩ := Turn.channel_of_moves hConnected hMoves
    refine Turn.keyed_of_unlinked hLog (Turn.connection_teardown host _) ?_
    exact Nat.le_of_eq (by rw [Turn.lastId_teardown, Turn.channel_note, hBefore])

theorem keyed_of_deed {command : Command} {after : Turn} (hDeed : Deed host c command after) :
    Keyed host c after := by
  cases hDeed with
  | nothing | boundMultiplexer | boundDemultiplexer | boundChecker | redescribed | unaimed =>
    exact keyed_of_same (by simp) rfl rfl (Nat.le_refl _)
  | rekeyed hPhase => exact h.keyed_rekeyed _ hPhase
  | retargeted => exact keyed_retargeted _
  | suspended | stopped => exact Turn.keyed_of_teardown (by simp) rfl
  | resumed =>
    refine keyed_of_same ?_ rfl rfl (Nat.le_succ _)
    simp [Turn.withTimer, Occurrence.isKeyed]
  | dialed =>
    refine keyed_of_same ?_ rfl rfl (Nat.le_succ _)
    simp [Turn.dialing, Occurrence.isKeyed]
  | unreached => exact Turn.keyed_of_failFor (.none _) rfl (by simp) (Nat.le_refl _)
  | begun _ hBegun => exact keyed_begun hBegun
  | stuck _ hBegun => exact keyed_stuck hBegun
  | live _ hConnection hCourse => exact h.keyed_live hConnection hCourse

theorem keyed_handle (host : Host) (command : Command) :
    Keyed host c { channel := (c.handle host command).1, log := (c.handle host command).2 } := by
  by_cases hPhase : c.phase = .shutdown
  · rw [handle_of_shutdown hPhase]
    exact keyed_of_same (by simp) rfl rfl (Nat.le_refl _)
  · rw [handle_eq hPhase]
    exact h.keyed_of_deed (h.deed_obey hPhase command)

end Settled

end Channel

end DeviceUplink
