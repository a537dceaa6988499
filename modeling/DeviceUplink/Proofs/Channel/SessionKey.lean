import DeviceUplink.Proofs.Channel.Keying
import DeviceUplink.Proofs.Crypto.Handshake

/-!
# The key of a connection

A connection lives from its CONNECT to its end under one session key, which is drawn in the command
that opens it and wrapped in that CONNECT. What replaces the session of a channel in between ends
the connection first.
-/

namespace DeviceUplink

/-- The response in the clear. One that the key does not open means as little as a ping request. -/
def Frame.openedBy (suite : Suite) (session : CryptoSession) : Frame → Frame
  | .syncResponse body =>
    if body.isEncrypted then
      match session.decrypt suite body.payload with
      | .ok plain => .syncResponse (.plain plain)
      | .error _ => .pingReq
    else .syncResponse body
  | frame => frame

/-- The command at a place of the run opens the connection. -/
inductive Opens : (c : Channel) → List (Host × Command) → (place connection : Nat) →
    CryptoSession → Connect → Prop
  | now {c : Channel} {host : Host} {command : Command} {rest : List (Host × Command)}
      {connection : Nat} {session : CryptoSession} {connect : Connect}
      (h : Opening host c (c.handle host command).2 connection session connect) :
      Opens c ((host, command) :: rest) 0 connection session connect
  | later {c : Channel} {host : Host} {command : Command} {rest : List (Host × Command)}
      {place connection : Nat} {session : CryptoSession} {connect : Connect}
      (h : Opens (c.handle host command).1 rest place connection session connect) :
      Opens c ((host, command) :: rest) (place + 1) connection session connect

namespace Opening

variable {host : Host} {c : Channel} {log : List Occurrence} {connection : Nat}
  {session : CryptoSession} {connect : Connect}

theorem mem_log (h : Opening host c log connection session connect) {o : Occurrence} (ho : o ∈ log)
    (hKeyed : o.isKeyed = true) :
    o = .started connection ∨ o = .sent connection (.connect connect) := by
  rw [h.log] at ho
  simp only [List.mem_cons, List.not_mem_nil, or_false] at ho
  rcases ho with rfl | rfl | ho | ho
  · cases hKeyed
  · cases hKeyed
  · exact .inr ho
  · exact .inl ho

theorem unique (h : Opening host c log connection session connect) {session' : CryptoSession}
    {connect' : Connect} (h' : Opening host c log connection session' connect') :
    session' = session ∧ connect' = connect := by
  have hLog := h'.log.symm.trans h.log
  simp only [List.cons.injEq, Occurrence.sessionMade.injEq, Occurrence.sent.injEq,
    Frame.connect.injEq] at hLog
  exact ⟨hLog.1, hLog.2.2.1.2⟩

end Opening

namespace Channel.Settled

variable {c : Channel} (h : c.Settled)

include h

theorem lastId_le_handle (host : Host) (command : Command) :
    c.lastId ≤ (c.handle host command).1.lastId := by
  cases h.keyed_handle host command with
  | opened hOpening _ _ hLast =>
    have hNumber := hOpening.number
    simp only at hLast
    omega
  | kept _ _ hLast => exact hLast

end Channel.Settled

namespace Opens

variable {c : Channel} {commands : List (Host × Command)} {place connection : Nat}
  {session : CryptoSession} {connect : Connect}

/-- A run opens connections that are new. -/
theorem lastId_lt (h : Opens c commands place connection session connect) (hc : c.Settled) :
    c.lastId < connection := by
  induction h with
  | now hOpening =>
    rw [hOpening.number]
    exact Nat.lt_succ_self _
  | @later c host command _ _ _ _ _ _ ih =>
    exact Nat.lt_of_le_of_lt (hc.lastId_le_handle host command)
      (ih (Channel.settled_handle host hc command))

theorem lastId_of_opening {host : Host} {command : Command} (hc : c.Settled)
    (h : Opening host c (c.handle host command).2 connection session connect) :
    (c.handle host command).1.lastId = connection := by
  cases hc.keyed_handle host command with
  | opened hOpening _ _ hLast =>
    rw [h.number, ← hOpening.number]
    exact hLast
  | kept hLog =>
    have hMem : .started connection ∈ (c.handle host command).2 := by rw [h.log]; simp
    obtain ⟨_, _, _, _, _, _, hRequest⟩ := hLog _ hMem rfl
    cases hRequest

/-- The connections of a run are opened at different places, each once. -/
theorem place_eq_iff (h : Opens c commands place connection session connect) (hc : c.Settled)
    {place' connection' : Nat} {session' : CryptoSession} {connect' : Connect}
    (h' : Opens c commands place' connection' session' connect') :
    place' = place ↔ connection' = connection := by
  induction h generalizing place' with
  | @now c host command _ _ _ _ hOpening =>
    cases h' with
    | now hOpening' => simp [hOpening.number, hOpening'.number]
    | later hOpens' =>
      have hLater := hOpens'.lastId_lt (Channel.settled_handle host hc command)
      rw [lastId_of_opening hc hOpening] at hLater
      simp [Nat.ne_of_gt hLater]
  | @later c host command _ _ _ _ _ hOpens ih =>
    have hNext := Channel.settled_handle host hc command
    cases h' with
    | now hOpening' =>
      have hLater := hOpens.lastId_lt hNext
      rw [lastId_of_opening hc hOpening'] at hLater
      simp [Nat.ne_of_lt hLater]
    | later hOpens' => simpa using ih hNext hOpens'

theorem unique (h : Opens c commands place connection session connect)
    {connection' : Nat} {session' : CryptoSession} {connect' : Connect}
    (h' : Opens c commands place connection' session' connect') :
    session' = session ∧ connect' = connect := by
  induction h with
  | now hOpening =>
    cases h' with
    | now hOpening' =>
      obtain rfl := hOpening'.number.trans hOpening.number.symm
      exact hOpening.unique hOpening'
  | later _ ih =>
    cases h' with
    | later hOpens' => exact ih hOpens'

theorem append (h : Opens c commands place connection session connect)
    (more : List (Host × Command)) :
    Opens c (commands ++ more) place connection session connect := by
  induction h with
  | now hOpening => exact .now hOpening
  | later _ ih => exact .later ih

end Opens

namespace Channel

variable {c : Channel} {host : Host} {connection : Nat}

/-- The start of a connection and its CONNECT come from the command that opens it. -/
theorem opens_of_mem {commands : List (Host × Command)} (h : c.Settled) {o : Occurrence}
    (ho : o ∈ (c.run commands).2)
    (hGreets : o = .started connection ∨ ∃ connect, o = .sent connection (.connect connect)) :
    ∃ place session connect, Opens c commands place connection session connect ∧
      (o = .started connection ∨ o = .sent connection (.connect connect)) := by
  have hKeyed : o.isKeyed = true := by rcases hGreets with rfl | ⟨_, rfl⟩ <;> rfl
  induction commands generalizing c with
  | nil => cases ho
  | cons command rest ih =>
    rcases List.mem_append.mp ho with ho | ho
    · cases h.keyed_handle command.1 command.2 with
      | @opened other session connect hOpening =>
        have hIs := hOpening.mem_log ho hKeyed
        have hSame : connection = other := by
          rcases hGreets with rfl | ⟨_, rfl⟩
          · simpa using hIs
          · exact (by simpa using hIs : connection = other ∧ _).1
        subst hSame
        exact ⟨0, session, connect, .now hOpening, hIs⟩
      | kept hLog =>
        obtain ⟨_, _, _, _, _, _, rfl⟩ := hLog o ho hKeyed
        simp [CryptoSession.requestFrame] at hGreets
    · obtain ⟨place, session, connect, hOpens, hIs⟩ :=
        ih (settled_handle command.1 h command.2) ho
      exact ⟨place + 1, session, connect, .later hOpens, hIs⟩

/-- The session of a channel is that of its live connection. -/
theorem session_of_run {commands : List (Host × Command)} (h : c.Settled)
    (hConnection : (c.run commands).1.connection = some connection) :
    (∃ place session connect, Opens c commands place connection session connect ∧
      (c.run commands).1.session = some session) ∨
      c.connection = some connection ∧ (c.run commands).1.session = c.session := by
  induction commands generalizing c with
  | nil => exact .inr ⟨hConnection, rfl⟩
  | cons command rest ih =>
    have hNext := settled_handle command.1 h command.2
    rcases ih hNext hConnection with ⟨place, session, connect, hOpens, hSession⟩ | ⟨hSame, hSession⟩
    · exact .inl ⟨place + 1, session, connect, .later hOpens, hSession⟩
    · cases h.keyed_handle command.1 command.2 with
      | opened hOpening hNew hMade =>
        cases hNew.symm.trans hSame
        exact .inl ⟨_, _, _, .now hOpening, hSession.trans hMade⟩
      | kept _ hKept =>
        obtain ⟨hBefore, hUnchanged⟩ := hKept connection hSame
        exact .inr ⟨hBefore, hSession.trans hUnchanged⟩

end Channel

namespace Turn

variable {host : Host} {t : Turn} {session : CryptoSession}

theorem inputOfFrame_openedBy {suite : Suite} {c : Channel} (h : c.session = some session)
    (frame : Frame) :
    inputOfFrame suite c (frame.openedBy suite session) = inputOfFrame suite c frame := by
  cases frame with
  | syncResponse body =>
    by_cases hEncrypted : body.isEncrypted = true
    · simp only [Frame.openedBy, hEncrypted, if_true]
      cases hPlain : session.decrypt suite body.payload with
      | ok plain =>
        have hPlainly : (SyncBody.plain plain).isEncrypted = false := by
          simp [SyncBody.plain, SyncBody.isEncrypted]
        simp only [inputOfFrame, openPayload, h, hEncrypted, hPlain, hPlainly]
        rfl
      | error error => simp [inputOfFrame, openPayload, h, hEncrypted, hPlain, Except.toOption]
    · simp only [Frame.openedBy, hEncrypted]
      rfl
  | _ => rfl

/-- Frames are taken in as if the key of the session had opened them all beforehand. -/
theorem receiveAll_openedBy (h : t.channel.Equipped) {connection : Nat}
    (hConnection : t.channel.connection = some connection)
    (hSession : t.channel.session = some session) (frames : List Frame) :
    t.receiveAll host connection (frames.map (Frame.openedBy host.suite session)) =
      t.receiveAll host connection frames := by
  induction frames generalizing t with
  | nil => rfl
  | cons frame rest ih =>
    have hReceive : t.receive host connection (frame.openedBy host.suite session) =
        t.receive host connection frame := by
      simp only [receive]
      rw [inputOfFrame_openedBy (by exact hSession)]
    rw [List.map_cons, receiveAll_cons host hConnection, receiveAll_cons host hConnection, hReceive]
    have hCourse := course_receive host h hConnection frame
    generalize t.receive host connection frame = received at hCourse ⊢
    cases hCourse with
    | kept hMoves =>
      obtain ⟨_, _, _, _, hSame⟩ := channel_of_moves h.connected hMoves
      refine ih (equipped_of_moves h hMoves) ?_ ?_
      · rw [hSame]
        exact hConnection
      · rw [hSame]
        exact hSession
    | failed =>
      have hNone : ∀ before symptoms cause,
          (failFor host before symptoms cause).channel.connection ≠ some connection := by
        simp [failFor, (unlinked_failServer host _).1]
      rw [receiveAll_of_ne host (hNone _ _ _), receiveAll_of_ne host (hNone _ _ _)]
    | left =>
      rw [receiveAll_of_ne host (by simp [connection_teardown]),
        receiveAll_of_ne host (by simp [connection_teardown])]

end Turn

/-- A CONNECT of the suite in use has an encoding as long as its request is not huge. -/
theorem Connect.encode_ofSession (session : CryptoSession) (fresh : Fresh) (request : Bytes)
    (keepAlive : UInt16) (hKey : session.key.length = sessionKeySize)
    (hWrap : fresh.wrapNonce.length = nonceSize) (hPayload : fresh.payloadNonce.length = nonceSize)
    (hRequest : request.length ≤ 268435260) :
    ∃ bytes, (Frame.connect (ofSession Suite.standard session keepAlive fresh request)).encode =
      .ok bytes := by
  have hEncodable := isEncodable_ofSession hKey hWrap hPayload keepAlive
    (Nat.add_le_of_le_sub (by decide) hRequest)
  exact ⟨_, Frame.encode_of_isEncodable hEncodable⟩

/-- The same for a SYNC-REQUEST. -/
theorem CryptoSession.encode_requestFrame (session : CryptoSession) (nonce request : Bytes)
    (hNonce : nonce.length = nonceSize) (hRequest : request.length ≤ 268435260) :
    ∃ bytes, (session.requestFrame Suite.standard nonce request).encode = .ok bytes := by
  have hSealed : (session.encrypt Suite.standard nonce request).length = request.length + 28 := by
    rw [encrypt, Suite.isLawful_standard.length_sealWith, hNonce, nonceSize, Sealing.tagSize]
    omega
  have hFits : ¬ (session.requestFrame Suite.standard nonce request).bodyLength >
      RemainingLength.maxValue := by
    simp only [requestFrame, Frame.bodyLength, SyncBody.encrypted, hSealed,
      RemainingLength.maxValue]
    omega
  simp only [Frame.encode, hFits]
  exact ⟨_, rfl⟩

def Host.steady : Host where
  suite := Suite.standard
  now := 0
  identity _ := {
    privateKey := List.replicate 32 7
    publicKey := Suite.standard.signatureKey (List.replicate 32 7) }
  draw _ := {
    sessionKey := List.replicate sessionKeySize 1
    ephemeral := List.replicate 32 2
    wrapNonce := List.replicate nonceSize 3
    payloadNonce := List.replicate nonceSize 4 }
  compile _ _ := .ok [1, 2, 3]
  digest _ _ := .ok ()
  write _ _ := .ok ()
  isOnline _ := true
  decide _ _ := .noop

def Host.dialing (host : Host) (server : Server) : List (Host × Command) :=
  [.bindMultiplexer, .bindDemultiplexer, .setServer server, .timerFired 1, .dialEnded 2 none].map
    fun command => (host, command)

/-- A session opens, although the payload that opens it cannot be processed, is kept alive and is
ended by the application. -/
def sessionOf (server : Server) : List (Host × Command) :=
  Host.steady.dialing server ++
    [({ Host.steady with digest := fun _ _ => .error ["no such profile"] },
        .inbound 3 [.syncResponse (.plain [])] 9),
      (Host.steady, .keepAliveTick 3), (Host.steady, .shutdown)]

namespace Channel

/-- For each command the connection that it finds and what occurs. -/
def chronicle (c : Channel) : List (Host × Command) → List (Option Nat × List Occurrence)
  | [] => []
  | (host, command) :: rest =>
    (c.connection, (c.handle host command).2) :: (c.handle host command).1.chronicle rest

theorem length_chronicle (c : Channel) (commands : List (Host × Command)) :
    (c.chronicle commands).length = commands.length := by
  induction commands generalizing c with
  | nil => rfl
  | cons command rest ih => rw [chronicle, List.length_cons, ih, List.length_cons]

theorem chronicle_append (c : Channel) (first rest : List (Host × Command)) :
    c.chronicle (first ++ rest) = c.chronicle first ++ (c.run first).1.chronicle rest := by
  induction first generalizing c with
  | nil => rfl
  | cons command first ih => rw [List.cons_append, chronicle, ih, chronicle, run, List.cons_append]

theorem log_run_eq (c : Channel) (commands : List (Host × Command)) :
    (c.run commands).2 = (c.chronicle commands).flatMap Prod.snd := by
  induction commands generalizing c with
  | nil => rfl
  | cons command rest ih => rw [chronicle, List.flatMap_cons, ← ih, run]

theorem chronicle_sessionOf {server : Server}
    (hKey : server.publicKey.length = agreementKeySize) :
    let session : CryptoSession :=
      ⟨List.replicate sessionKeySize 1, server.publicKey, List.replicate 32 7⟩
    let fresh := Host.steady.draw []
    (start {} .empty).chronicle (sessionOf server) =
      [(none, []), (none, []), (none, [.sessionMade session, .scheduled 1 .zero]),
        (none, [.dialed 2 server]),
        (none, [.sessionMade session, .compiled .empty,
          .sent 3 (.connect (Connect.ofSession Suite.standard session 200 fresh [1, 2, 3])),
          .started 3]),
        (some 3, [.deliveryBegun, .delivered [], .deliveryFailed ["no such profile"],
          .deliveryEnded, .serverConnected server, .compiled .empty,
          .sent 3 (session.requestFrame Suite.standard fresh.payloadNonce [1, 2, 3])]),
        (some 3, [.sent 3 .pingReq]), (some 3, [.sent 3 Turn.farewell, .closed 3])] := by
  intro session fresh
  obtain ⟨connectBytes, hConnect⟩ := Connect.encode_ofSession session fresh [1, 2, 3] 200 rfl rfl
    rfl (by decide)
  obtain ⟨syncBytes, hSync⟩ := session.encode_requestFrame fresh.payloadNonce [1, 2, 3] rfl
    (by decide)
  obtain ⟨pingBytes, hPing⟩ : ∃ bytes, Frame.pingReq.encode = .ok bytes := ⟨_, rfl⟩
  simp only [Host.steady, session, fresh, CryptoSession.requestFrame] at hConnect hSync ⊢
  simp [-List.reduceReplicate, chronicle, sessionOf, Host.dialing, Host.steady, start, handle,
    Turn.obey, Turn.setServer, Turn.makeSession, CryptoSession.new, hKey, Turn.update, Turn.note,
    Turn.setPhase, Turn.teardown, Turn.cancelReconnect, Turn.closeConnection, Phase.isConnected,
    Turn.scheduleOpen, Turn.takeId, Turn.timerFired, Turn.dial, Turn.dialEnded, Turn.establish,
    Connect.ofCompiled, Turn.greet, Turn.send, Turn.countSent, hConnect, hSync, hPing,
    Turn.inbound, Turn.countBytes, Turn.receiveAll, Turn.receive, Turn.countReceived,
    Turn.inputOfFrame, Turn.openPayload, SyncBody.plain, SyncBody.isEncrypted, Turn.notePart,
    Turn.input, Phase.step, Turn.perform, Turn.deliver, Turn.syncAll, Turn.canSync, Turn.sendSync,
    Turn.buildSync, Turn.ping, Turn.shutdown]

theorem run_dialing {server : Server} (hKey : server.publicKey.length = agreementKeySize) :
    let dialed := (start {} .empty).run (Host.steady.dialing server)
    dialed.1.connection = some 3 ∧ .started 3 ∈ dialed.2 := by
  intro dialed
  have hAll := chronicle_sessionOf hKey
  have hLength : ((start {} .empty).chronicle (Host.steady.dialing server)).length = 5 :=
    length_chronicle _ _
  rw [sessionOf, chronicle_append] at hAll
  have hFirst := congrArg (List.take 5) hAll
  have hRest := congrArg (List.drop 5) hAll
  rw [List.take_left' hLength] at hFirst
  rw [List.drop_left' hLength] at hRest
  refine ⟨Option.some.inj (congrArg (fun talk => talk.head?.map Prod.fst) hRest), ?_⟩
  simp only [dialed, log_run_eq, hFirst]
  simp

theorem started_of_dialing {server : Server}
    (hKey : server.publicKey.length = agreementKeySize) (rest : List (Host × Command)) :
    .started 3 ∈ ((start {} .empty).run (Host.steady.dialing server ++ rest)).2 := by
  rw [run_append]
  exact List.mem_append_left _ (run_dialing hKey).2

theorem Settled.handle_openedBy {c : Channel} (h : c.Settled) (host : Host) {connection : Nat}
    {session : CryptoSession}
    (hSession : c.connection = some connection → c.session = some session) (frames : List Frame)
    (size : Nat) :
    c.handle host (.inbound connection (frames.map (Frame.openedBy host.suite session)) size) =
      c.handle host (.inbound connection frames size) := by
  by_cases hPhase : c.phase = .shutdown
  · rw [handle_of_shutdown hPhase, handle_of_shutdown hPhase]
  · rw [handle_eq hPhase, handle_eq hPhase]
    simp only [Turn.obey, Turn.inbound]
    split
    · next hConnection =>
      have hEquipped := h.equipped (Option.isSome_of_eq_some hConnection)
      rw [Turn.receiveAll_openedBy (by exact { hEquipped with }) hConnection
        (hSession hConnection)]
    · rfl

/-- Every connection of every run has one key: it is drawn by the command that opens this
connection and no other, for the server that the channel is set to by then, it is wrapped in the
only CONNECT of the connection, and whatever else happens, the requests on the connection are
sealed under it and what comes in on it is opened with it. -/
theorem one_key_per_connection {settings : ChannelSettings} {supported : DirectionMap}
    {commands : List (Host × Command)} {connection : Nat}
    (hStarted : .started connection ∈ ((Channel.start settings supported).run commands).2) :
    let start := Channel.start settings supported
    ∃ place session connect, Opens start commands place connection session connect ∧
      (∀ other otherConnection otherSession otherConnect,
        Opens start commands other otherConnection otherSession otherConnect →
          (other = place ↔ otherConnection = connection)) ∧
      (∀ other, .sent connection (.connect other) ∈ (start.run commands).2 → other = connect) ∧
      ∀ first host command rest, commands = first ++ (host, command) :: rest →
        let c := (start.run first).1
        (c.connection = some connection → c.session = some session) ∧
        (∀ body, .sent connection (.syncRequest body) ∈ (c.handle host command).2 →
          ∃ nonce request, body = .encrypted (session.encrypt host.suite nonce request)) ∧
        ∀ frames size, command = .inbound connection frames size →
          c.handle host command = c.handle host
            (.inbound connection (frames.map (Frame.openedBy host.suite session)) size) := by
  intro start
  have hStart : start.Settled := .start settings supported
  obtain ⟨place, session, connect, hOpens, _⟩ := opens_of_mem hStart hStarted (.inl rfl)
  refine ⟨place, session, connect, hOpens, fun _ _ _ _ h => hOpens.place_eq_iff hStart h, ?_, ?_⟩
  · intro other hOther
    obtain ⟨_, _, _, hOpens', hIs⟩ := opens_of_mem hStart hOther (.inr ⟨other, rfl⟩)
    obtain rfl := (hOpens.place_eq_iff hStart hOpens').mpr rfl
    obtain ⟨_, rfl⟩ := hOpens.unique hOpens'
    simpa using hIs
  · intro first host command rest hCommands c
    have hSettled : c.Settled := settled_run hStart first
    have hSession : c.connection = some connection → c.session = some session := by
      intro hConnection
      rcases session_of_run hStart hConnection with ⟨_, _, _, hOpens', hSession⟩ | ⟨hNone, _⟩
      · have hLater := hOpens'.append ((host, command) :: rest)
        rw [← hCommands] at hLater
        obtain rfl := (hOpens.place_eq_iff hStart hLater).mpr rfl
        obtain ⟨rfl, _⟩ := hOpens.unique hLater
        exact hSession
      · cases hNone
    refine ⟨hSession, ?_, ?_⟩
    · intro body hBody
      cases hSettled.keyed_handle host command with
      | opened hOpening =>
        have hIs := hOpening.mem_log hBody rfl
        simp at hIs
      | kept hLog =>
        obtain ⟨_, made, nonce, request, hConnection, hMade, hIs⟩ := hLog _ hBody rfl
        obtain ⟨rfl, hBody⟩ := Occurrence.sent.inj hIs
        obtain rfl := Option.some.inj ((hSession hConnection).symm.trans hMade)
        exact ⟨nonce, request, Frame.syncRequest.inj hBody⟩
    · rintro frames size rfl
      exact (hSettled.handle_openedBy host hSession frames size).symm

/-- The descriptor is replaced under a live connection, by one whose key is none. -/
theorem one_key_under_new_descriptor :
    let server := Server.operations "10.0.0.1" 1 (List.replicate 32 9)
    let commands := Host.steady.dialing server ++
      [(Host.steady, .setServer { server with publicKey := [] })]
    .started 3 ∈ ((Channel.start {} .empty).run commands).2 ∧
      ∃ place session connect,
        Opens (Channel.start {} .empty) commands place 3 session connect := by
  intro server commands
  have hStarted : .started 3 ∈ ((Channel.start {} .empty).run commands).2 :=
    started_of_dialing (by rfl) _
  obtain ⟨place, session, connect, hOpens, _⟩ := one_key_per_connection hStarted
  exact ⟨hStarted, place, session, connect, hOpens⟩

end Channel

end DeviceUplink
