import Mathlib.Logic.Relation
import DeviceUplink.Proofs.Channel.Teardown

/-!
# The course of a live connection

An operation on a live connection is made of few moves. `Move` lists them, each with all that it
does to the channel and adds to the log; `Broken` lists the failures that end a connection, and
`Course` says that an operation makes moves and then goes on, or fails, or lets the server leave.
What holds of connections is proved from these three, and the handlers are not opened again.
-/

namespace DeviceUplink

structure Channel.Equipped (c : Channel) : Prop where
  connected : c.phase.isConnected = true
  connection : c.connection.isSome = true
  server : c.server.isSome = true
  session : c.session.isSome = true
  multiplexer : c.hasMultiplexer = true

namespace Occurrence

def cleaning : Occurrence → List Occurrence
  | refused _ .refuseBadCredentials => [identityCleaned]
  | _ => []

end Occurrence

def CryptoSession.requestFrame (suite : Suite) (s : CryptoSession) (nonce request : Bytes) :
    Frame :=
  .syncRequest (.encrypted (s.encrypt suite nonce request))

def Occurrence.isDelivery : Occurrence → Bool
  | deliveryBegun | delivered _ | deliveryFailed _ | deliveryEnded => true
  | _ => false

def Occurrence.isNotice : Occurrence → Bool
  | serverFailed _ | asked _ _ | scheduled _ _ | fatal _ => true
  | _ => false

namespace Turn

def noteAll (t : Turn) (occurrences : List Occurrence) : Turn :=
  { t with log := t.log ++ occurrences }

@[simp] theorem noteAll_nil (t : Turn) : t.noteAll [] = t := by
  simp [noteAll]

def failFor (host : Host) (t : Turn) (symptoms : List Occurrence) (cause : Occurrence) : Turn :=
  (t.noteAll (symptoms ++ cause :: cause.cleaning)).failServer host

def opened (host : Host) (t : Turn) (payload? : Option Bytes) (server : Server) : Turn :=
  (payload?.elim (t.setPhase .opened) ((t.setPhase .opened).deliver host)).note
    (.serverConnected server)

end Turn

/-- A sync that does not fail: it is not due, or there is no request, or its request is sent. -/
inductive Synced (host : Host) (directions : DirectionMap) (t : Turn) : Turn → Prop
  | undue (h : Turn.canSync t.channel = false) : Synced host directions t t
  | dropped {causes : List String} (h : host.compile t.log directions = .error causes) :
      Synced host directions t
        ((t.note (.compiled directions)).note (.syncDropped (.multiplexer causes)))
  | sent {connection : Nat} {session : CryptoSession} {request nonce bytes : Bytes}
      (hConnection : t.channel.connection = some connection)
      (hSession : t.channel.session = some session)
      (hRequest : host.compile t.log directions = .ok request)
      (hBytes : (session.requestFrame host.suite nonce request).encode = .ok bytes) :
      Synced host directions t
        (((t.note (.compiled directions)).countSent host.now bytes.length).note
          (.sent connection (session.requestFrame host.suite nonce request)))

/-- One thing that is done on a live connection and leaves it alive. -/
inductive Move (host : Host) (t : Turn) : Turn → Prop
  | counted (size : Nat) : Move host t (t.countBytes size)
  | received : Move host t (t.countReceived host.now)
  | named (transport : Transport) : Move host t (t.note (.unsupported transport))
  | delivered (payload : Bytes) (hPhase : t.channel.phase = .opened) :
      Move host t (t.deliver host payload)
  | ponged : Move host t (t.recordPong host)
  | pinged {connection : Nat} {bytes : Bytes} (hConnection : t.channel.connection = some connection)
      (hBytes : Frame.pingReq.encode = .ok bytes) :
      Move host t (((t.countSent host.now bytes.length).note (.sent connection .pingReq)).update
        fun c => { c with roundTrip := c.roundTrip.recordPing host.now })
  | synced {directions : DirectionMap} {u : Turn} (hPhase : t.channel.phase = .opened)
      (h : Synced host directions t u) : Move host t u
  /-- The opening and its sync are one move: nothing comes between them. -/
  | opened {payload? : Option Bytes} {server : Server} {u : Turn}
      (hPhase : t.channel.phase = .connecting) (hServer : t.channel.server = some server)
      (h : Synced host t.channel.supported (t.opened host payload? server) u) : Move host t u

abbrev Moves (host : Host) : Turn → Turn → Prop :=
  Relation.ReflTransGen (Move host)

/-- A failure that ends a connection: what is done of a move by then, what shows of the failure,
and its cause. -/
inductive Broken (host : Host) (connection : Nat) (t : Turn) :
    (before : Turn) → (symptoms : List Occurrence) → (cause : Occurrence) → Prop
  | read (error : ChannelError) : Broken host connection t t [] (.readFailed connection error)
  | refused {code : ReturnCode} (h : code ≠ .accepted) :
      Broken host connection t t [] (.refused connection code)
  | disconnected {reason : DisconnectReason} (h : reason ≠ .graceful) :
      Broken host connection t t [] (.disconnected connection reason)
  | ping (error : ChannelError) :
      Broken host connection t t [.sendFailed connection .pingReq] (.pingFailed connection error)
  | sync (directions : DirectionMap) (body : SyncBody) {error : ChannelError}
      (hError : error ≠ .notConnected) :
      Broken host connection t (t.note (.compiled directions))
        [.sendFailed connection (.syncRequest body)] (.syncFailed error)
  | opening (payload? : Option Bytes) (server : Server) (body : SyncBody) {error : ChannelError}
      (hError : error ≠ .notConnected) :
      Broken host connection t
        ((t.opened host payload? server).note (.compiled t.channel.supported))
        [.sendFailed connection (.syncRequest body)] (.syncFailed error)

/-- What an operation on a live connection comes to. -/
inductive Course (host : Host) (connection : Nat) (t : Turn) : Turn → Prop
  | kept {u : Turn} (h : Moves host t u) : Course host connection t u
  | failed {u before : Turn} {symptoms : List Occurrence} {cause : Occurrence} (h : Moves host t u)
      (hBroken : Broken host connection u before symptoms cause) :
      Course host connection t (before.failFor host symptoms cause)
  | left {u : Turn} (h : Moves host t u) :
      Course host connection t ((u.note (.disconnected connection .graceful)).teardown host)

theorem Course.of_moves {host : Host} {connection : Nat} {t u v : Turn} (h : Moves host t u)
    (hv : Course host connection u v) : Course host connection t v := by
  cases hv with
  | kept h' => exact .kept (h.trans h')
  | failed h' hBroken => exact .failed (h.trans h') hBroken
  | left h' => exact .left (h.trans h')

namespace Turn

variable {host : Host} {t u : Turn}

/-- Handing over a payload keeps whatever its notes keep, however it is processed. -/
theorem deliver_induction {motive : Turn → Prop} (host : Host) (payload : Bytes) (hStart : motive t)
    (hNote : ∀ (u : Turn) (o : Occurrence), o.isDelivery = true → motive u → motive (u.note o)) :
    motive (t.deliver host payload) := by
  unfold deliver
  split
  · have hGiven := hNote _ (.delivered payload) rfl (hNote t .deliveryBegun rfl hStart)
    dsimp only
    split
    · exact hNote _ _ rfl hGiven
    · exact hNote _ _ rfl (hNote _ _ rfl hGiven)
  · exact hStart

theorem channel_deliver (host : Host) (t : Turn) (payload : Bytes) :
    (t.deliver host payload).channel = t.channel :=
  deliver_induction (motive := fun u => u.channel = t.channel) host payload rfl fun _ _ _ h => h

theorem log_deliver (host : Host) (t : Turn) (payload : Bytes) :
    ∃ handed, (t.deliver host payload).log = t.log ++ handed ∧
      ∀ o ∈ handed, o.isDelivery = true := by
  refine deliver_induction (motive := fun u => ∃ handed, u.log = t.log ++ handed ∧
    ∀ o ∈ handed, o.isDelivery = true) host payload ⟨[], by simp, by simp⟩ ?_
  rintro u o ho ⟨handed, hLog, hHanded⟩
  refine ⟨handed ++ [o], by rw [log_note, hLog, List.append_assoc], ?_⟩
  intro made hMade
  rcases List.mem_append.mp hMade with hBefore | hNow
  · exact hHanded made hBefore
  · rw [List.mem_singleton.mp hNow]
    exact ho

theorem channel_opened (host : Host) (t : Turn) (payload? : Option Bytes) (server : Server) :
    (t.opened host payload? server).channel = { t.channel with phase := .opened } := by
  cases payload? with
  | none => rfl
  | some payload => exact channel_deliver host _ payload

theorem setPhase_self {phase : Phase} (h : t.channel.phase = phase) : t.setPhase phase = t := by
  subst h
  rfl

/-- Of the channel no move changes more than this. -/
theorem channel_of_synced {directions : DirectionMap} (h : Synced host directions t u) :
    ∃ statistics, u.channel = { t.channel with statistics } := by
  cases h with
  | undue => exact ⟨_, rfl⟩
  | dropped => exact ⟨_, rfl⟩
  | sent => exact ⟨_, rfl⟩

theorem channel_of_move (hConnected : t.channel.phase.isConnected = true) (h : Move host t u) :
    ∃ phase statistics roundTrip, phase.isConnected = true ∧
      u.channel = { t.channel with phase, statistics, roundTrip } := by
  cases h with
  | counted => exact ⟨_, _, _, hConnected, rfl⟩
  | received => exact ⟨_, _, _, hConnected, rfl⟩
  | named => exact ⟨_, _, _, hConnected, rfl⟩
  | delivered payload => exact ⟨_, _, _, hConnected, channel_deliver host t payload⟩
  | ponged => exact ⟨_, _, _, hConnected, rfl⟩
  | pinged => exact ⟨_, _, _, hConnected, rfl⟩
  | synced _ hSynced =>
    obtain ⟨_, hu⟩ := channel_of_synced hSynced
    exact ⟨_, _, _, hConnected, hu⟩
  | @opened payload? server _ _ _ hSynced =>
    obtain ⟨statistics, hu⟩ := channel_of_synced hSynced
    rw [channel_opened] at hu
    exact ⟨.opened, statistics, _, rfl, hu⟩

theorem channel_of_moves (hConnected : t.channel.phase.isConnected = true) (h : Moves host t u) :
    ∃ phase statistics roundTrip, phase.isConnected = true ∧
      u.channel = { t.channel with phase, statistics, roundTrip } := by
  induction h with
  | refl => exact ⟨_, _, _, hConnected, rfl⟩
  | tail _ hMove ih =>
    obtain ⟨_, _, _, hPhase, hu⟩ := ih
    obtain ⟨phase, statistics, roundTrip, hPhase', hv⟩ :=
      channel_of_move (by rw [hu]; exact hPhase) hMove
    exact ⟨phase, statistics, roundTrip, hPhase', by rw [hv, hu]⟩

theorem equipped_of_moves (hEquipped : t.channel.Equipped) (h : Moves host t u) :
    u.channel.Equipped := by
  obtain ⟨_, _, _, hPhase, hu⟩ := channel_of_moves hEquipped.connected h
  rw [hu]
  exact ⟨hPhase, hEquipped.connection, hEquipped.server, hEquipped.session, hEquipped.multiplexer⟩

theorem connection_of_moves (hConnected : t.channel.phase.isConnected = true)
    (h : Moves host t u) : u.channel.connection = t.channel.connection := by
  obtain ⟨_, _, _, _, hu⟩ := channel_of_moves hConnected h
  rw [hu]

theorem connection_teardown (host : Host) (t : Turn) :
    (t.teardown host).channel.connection = none := by
  obtain ⟨_, h⟩ := t.channel_teardown host
  rw [h, Channel.idle]

theorem unlinked_failServer (host : Host) (t : Turn) :
    (t.failServer host).channel.connection = none ∧ (t.failServer host).channel.attempt = none := by
  obtain ⟨_, _, _, _, h⟩ := t.channel_failServer host
  rw [h]
  exact ⟨rfl, rfl⟩

theorem log_failServer (host : Host) (t : Turn) :
    ∃ notices, (t.failServer host).log = (t.teardown host).log ++ notices ∧
      ∀ o ∈ notices, o.isNotice = true := by
  have hReported := t.reported_failServer host
  generalize t.failServer host = after, t.teardown host = down at hReported ⊢
  cases hReported with
  | nobody => exact ⟨[], by simp, by simp⟩
  | server | noop => exact ⟨_, rfl, by simp [Occurrence.isNotice]⟩
  | retry => exact ⟨_, List.append_assoc _ _ _, by simp [Occurrence.isNotice]⟩
  | stop => exact ⟨_, List.append_assoc _ _ _, by simp [Occurrence.isNotice]⟩

/-- A frame is sent on a live connection, or there is a reason why not, which is never that there
is no connection. -/
theorem send_cases (host : Host) {connection : Nat} (h : t.channel.connection = some connection)
    (frame : Frame) :
    (∃ bytes, frame.encode = .ok bytes ∧ t.send host frame =
        ((t.countSent host.now bytes.length).note (.sent connection frame), .ok ())) ∨
      ∃ error, t.send host frame = (t.note (.sendFailed connection frame), .error error) ∧
        error ≠ .notConnected := by
  cases hEncode : frame.encode with
  | error error =>
    refine .inr ⟨.frame error, ?_, by simp⟩
    simp only [send, h, hEncode]
  | ok bytes =>
    cases hWrite : host.write t.log frame with
    | error reason =>
      refine .inr ⟨.socket reason, ?_, by simp⟩
      simp only [send, h, hEncode, hWrite]
    | ok _ =>
      refine .inl ⟨bytes, rfl, ?_⟩
      simp only [send, h, hEncode, hWrite]

theorem note_note (t : Turn) (first second : Occurrence) :
    (t.note first).note second = t.noteAll [first, second] := by
  simp only [note, noteAll, List.append_assoc, List.cons_append, List.nil_append]

theorem failServer_noteAll_note (host : Host) (t : Turn) (symptoms : List Occurrence)
    {cause : Occurrence} (h : cause.cleaning = []) :
    ((t.noteAll symptoms).note cause).failServer host = t.failFor host symptoms cause := by
  simp only [failFor, h, noteAll, note, List.append_assoc]

theorem failServer_note (host : Host) (t : Turn) {cause : Occurrence} (h : cause.cleaning = []) :
    (t.note cause).failServer host = t.failFor host [] cause := by
  rw [← failServer_noteAll_note host t [] h, noteAll_nil]

theorem failServer_note_note (host : Host) (t : Turn) (symptom : Occurrence) {cause : Occurrence}
    (h : cause.cleaning = []) :
    ((t.note symptom).note cause).failServer host = t.failFor host [symptom] cause :=
  failServer_noteAll_note host t [symptom] h

theorem failFor_noteAll (host : Host) (t : Turn) (symptoms : List Occurrence)
    (cause : Occurrence) :
    (t.noteAll symptoms).failFor host [] cause = t.failFor host symptoms cause := by
  simp only [failFor, noteAll, List.nil_append, List.append_assoc]

theorem failServer_setPhase_closed (host : Host) (h : t.channel.phase.isConnected = true) :
    (t.setPhase .closed).failServer host = t.failServer host := by
  unfold failServer
  rw [teardown_setPhase_closed host h]

theorem input_connectionLost (host : Host) (h : t.channel.phase.isConnected = true) :
    t.input host .connectionLost = t.failServer host := by
  simp only [input, Phase.step, h, if_true, List.foldl_cons, List.foldl_nil, perform]
  exact failServer_setPhase_closed host h

theorem input_graceful (host : Host) (h : t.channel.phase.isConnected = true) :
    t.input host (.disconnect .graceful) = t.teardown host := by
  simp only [input, Phase.step, h, if_true, List.foldl_cons, List.foldl_nil, perform]
  exact teardown_setPhase_closed host h

theorem input_disconnect (host : Host) (h : t.channel.phase.isConnected = true)
    {reason : DisconnectReason} (hReason : reason ≠ .graceful) :
    t.input host (.disconnect reason) = t.failServer host := by
  rw [← failServer_setPhase_closed host h]
  cases reason with
  | graceful => exact absurd rfl hReason
  | _ => simp [input, Phase.step, h, perform]

/-- The identity is cleaned before the failure is reported. -/
theorem input_refused (host : Host) (h : t.channel.phase.isConnected = true) {code : ReturnCode}
    (hCode : code ≠ .accepted) (connection : Nat) :
    (t.note (.refused connection code)).input host (.connAck code) =
      t.failFor host [] (.refused connection code) := by
  cases code with
  | accepted => exact absurd rfl hCode
  | refuseBadCredentials =>
    simp only [input, Phase.step, channel_note, h, if_true, List.foldl_cons, List.foldl_nil,
      perform, failFor, Occurrence.cleaning, List.nil_append]
    rw [← note_note]
    exact failServer_setPhase_closed host
      (t := (t.note (.refused connection .refuseBadCredentials)).note .identityCleaned) h
  | _ =>
    simp only [input, Phase.step, channel_note, h, if_true, List.foldl_cons, List.foldl_nil,
      perform, failFor, noteAll, Occurrence.cleaning]
    exact failServer_setPhase_closed host h

/-- A sync that is due on a live connection, if it does not fail, or else with its failure. -/
theorem synced_sendSync (host : Host) (h : t.channel.Equipped) {connection : Nat}
    (hConnection : t.channel.connection = some connection) (directions : DirectionMap) :
    Synced host directions t (t.sendSync host directions) ∨
      ∃ body error, error ≠ .notConnected ∧ t.sendSync host directions =
        (t.note (.compiled directions)).failFor host [.sendFailed connection (.syncRequest body)]
          (.syncFailed error) := by
  obtain ⟨session, hSession⟩ := Option.isSome_iff_exists.mp h.session
  simp only [sendSync, buildSync, h.multiplexer, if_true, hSession]
  cases hCompile : host.compile t.log directions with
  | error causes => exact .inl (.dropped hCompile)
  | ok request =>
    rcases send_cases (t := t.note (.compiled directions)) host hConnection
      (session.requestFrame host.suite
        (host.draw (t.note (.compiled directions)).log).payloadNonce request) with
      ⟨bytes, hBytes, hSend⟩ | ⟨error, hSend, hError⟩
    · simp only [CryptoSession.requestFrame] at hSend
      simp only [hSend]
      exact .inl (.sent hConnection hSession hCompile hBytes)
    · simp only [CryptoSession.requestFrame] at hSend
      simp only [hSend]
      rw [failServer_note_note host _ _ rfl]
      exact .inr ⟨_, error, hError, rfl⟩

theorem phase_of_canSync (h : canSync t.channel = true) : t.channel.phase = .opened := by
  simp only [canSync, Bool.and_eq_true, decide_eq_true_eq] at h
  exact h.1.1.1.1

theorem course_sendSync (host : Host) (h : t.channel.Equipped) {connection : Nat}
    (hConnection : t.channel.connection = some connection) (hPhase : t.channel.phase = .opened)
    (directions : DirectionMap) : Course host connection t (t.sendSync host directions) := by
  rcases synced_sendSync host h hConnection directions with hSynced | ⟨body, error, hError, hFailed⟩
  · exact .kept (.single (.synced hPhase hSynced))
  · rw [hFailed]
    exact .failed .refl (.sync directions body hError)

theorem moves_named (host : Host) (t : Turn) (transports : List Transport) :
    Moves host t (transports.foldl (fun t u => t.note (.unsupported u)) t) := by
  induction transports generalizing t with
  | nil => exact .refl
  | cons transport rest ih => exact .head (.named transport) (ih (t.note (.unsupported transport)))

theorem channel_named (t : Turn) (transports : List Transport) :
    (transports.foldl (fun t u => t.note (.unsupported u)) t).channel = t.channel := by
  induction transports generalizing t with
  | nil => rfl
  | cons transport rest ih => exact ih (t.note (.unsupported transport))

theorem course_sync (host : Host) (h : t.channel.Equipped) {connection : Nat}
    (hConnection : t.channel.connection = some connection) (requested : TransportSet) :
    Course host connection t (t.sync host requested) := by
  unfold sync
  split
  · next hDue =>
    have hNamed := moves_named host t (t.channel.supported.missing requested)
    refine .of_moves hNamed (course_sendSync host (equipped_of_moves h hNamed) ?_ ?_ _)
    · rw [channel_named, hConnection]
    · rw [channel_named, phase_of_canSync hDue]
  · exact .kept .refl

theorem course_syncAll (host : Host) (h : t.channel.Equipped) {connection : Nat}
    (hConnection : t.channel.connection = some connection) :
    Course host connection t (t.syncAll host) := by
  unfold syncAll
  split
  · next hDue => exact course_sendSync host h hConnection (phase_of_canSync hDue) _
  · exact .kept .refl

theorem perform_notifyConnected {server : Server} (hServer : t.channel.server = some server)
    (host : Host) (payload? : Option Bytes) :
    (payload?.elim (t.setPhase .opened) ((t.setPhase .opened).deliver host)).perform host
      .notifyConnected = t.opened host payload? server := by
  have hChannel := channel_opened host t payload? server
  simp only [opened, channel_note] at hChannel
  simp only [perform, hChannel, hServer, opened]

/-- An opened session is told to the failover and synced at once. -/
theorem synced_open (host : Host) (h : t.channel.Equipped) {connection : Nat}
    (hConnection : t.channel.connection = some connection) (payload? : Option Bytes) :
    ∃ server, t.channel.server = some server ∧
      let opened := (payload?.elim (t.setPhase .opened) ((t.setPhase .opened).deliver host)).perform
        host .notifyConnected
      Synced host t.channel.supported (t.opened host payload? server) (opened.syncAll host) ∨
        ∃ body error, error ≠ .notConnected ∧ opened.syncAll host =
          ((t.opened host payload? server).note (.compiled t.channel.supported)).failFor host
            [.sendFailed connection (.syncRequest body)] (.syncFailed error) := by
  obtain ⟨server, hServer⟩ := Option.isSome_iff_exists.mp h.server
  refine ⟨server, hServer, ?_⟩
  have hChannel := channel_opened host t payload? server
  have hSupported : (t.opened host payload? server).channel.supported = t.channel.supported := by
    rw [hChannel]
  have hEquipped : (t.opened host payload? server).channel.Equipped := by
    rw [hChannel]
    exact ⟨rfl, h.connection, h.server, h.session, h.multiplexer⟩
  simp only [perform_notifyConnected hServer]
  unfold syncAll
  rw [hSupported]
  split
  · exact synced_sendSync host hEquipped (by rw [hChannel]; exact hConnection) t.channel.supported
  · next hUndue => exact .inl (.undue (by simpa using hUndue))

theorem course_open (host : Host) (h : t.channel.Equipped) {connection : Nat}
    (hConnection : t.channel.connection = some connection) (hPhase : t.channel.phase = .connecting)
    (payload? : Option Bytes) :
    Course host connection t
      (((payload?.elim (t.setPhase .opened) ((t.setPhase .opened).deliver host)).perform host
        .notifyConnected).syncAll host) := by
  obtain ⟨server, hServer, hSynced | ⟨body, error, hError, hFailed⟩⟩ :=
    synced_open host h hConnection payload?
  · exact .kept (.single (.opened hPhase hServer hSynced))
  · rw [hFailed]
    exact .failed .refl (.opening payload? server body hError)

theorem isConnected_cases {phase : Phase} (h : phase.isConnected = true) :
    phase = .connecting ∨ phase = .opened := by
  cases phase with
  | connecting => exact .inl rfl
  | opened => exact .inr rfl
  | closed => cases h
  | paused => cases h
  | shutdown => cases h

theorem course_response (host : Host) (h : t.channel.Equipped) {connection : Nat}
    (hConnection : t.channel.connection = some connection) (payload : Bytes) :
    Course host connection t (t.input host (.response payload)) := by
  simp only [input, Phase.step, h.connected, if_true]
  rcases isConnected_cases h.connected with hPhase | hPhase
  · simp only [hPhase, if_true, List.foldl_cons, List.foldl_nil, perform]
    exact course_open host h hConnection hPhase (some payload)
  · simp only [hPhase, reduceCtorEq, if_false, List.foldl_cons, List.foldl_nil, perform]
    rw [setPhase_self hPhase]
    exact .kept (.single (.delivered payload hPhase))

theorem course_syncAck (host : Host) (h : t.channel.Equipped) {connection : Nat}
    (hConnection : t.channel.connection = some connection) (transports : TransportSet) :
    Course host connection t (t.input host (.syncAck transports)) := by
  simp only [input, Phase.step, h.connected, if_true]
  rcases isConnected_cases h.connected with hPhase | hPhase
  · simp only [hPhase, if_true, List.foldl_cons, List.foldl_nil, perform]
    exact course_open host h hConnection hPhase none
  · simp only [hPhase, reduceCtorEq, if_false]
    split
    · simp only [List.foldl_cons, List.foldl_nil, perform]
      rw [setPhase_self hPhase]
      exact course_sync host h hConnection transports
    · simp only [List.foldl_cons, List.foldl_nil, perform]
      rw [setPhase_self hPhase]
      exact course_syncAll host h hConnection

theorem moves_pingResp (host : Host) (h : t.channel.phase.isConnected = true) :
    Moves host t (t.input host .pingResp) := by
  simp only [input, Phase.step, h, if_true, List.foldl_cons, List.foldl_nil, perform]
  rw [setPhase_self rfl]
  exact .single .ponged

theorem input_accepted (host : Host) (h : t.channel.phase.isConnected = true) :
    t.input host (.connAck .accepted) = t := by
  simp only [input, Phase.step, h, if_true, List.foldl_nil]
  exact setPhase_self rfl

/-- What the server says is taken in, and may be its last word. -/
theorem course_notePart (host : Host) (h : t.channel.Equipped) {connection : Nat}
    (hConnection : t.channel.connection = some connection) (i : Phase.Input)
    (hLost : i ≠ .connectionLost) :
    Course host connection t ((t.notePart connection i).input host i) := by
  cases i with
  | connAck code =>
    by_cases hCode : code = .accepted
    · subst hCode
      simp only [notePart, if_true]
      rw [input_accepted host h.connected]
      exact .kept .refl
    · simp only [notePart, hCode, if_false]
      rw [input_refused host h.connected hCode]
      exact .failed .refl (.refused hCode)
  | response payload => exact course_response host h hConnection payload
  | pingResp => exact .kept (moves_pingResp host h.connected)
  | disconnect reason =>
    simp only [notePart]
    by_cases hReason : reason = .graceful
    · subst hReason
      rw [input_graceful host (by exact h.connected)]
      exact .left .refl
    · rw [input_disconnect host (by exact h.connected) hReason, failServer_note host t rfl]
      exact .failed .refl (.disconnected hReason)
  | connectionLost => exact absurd rfl hLost
  | syncAck transports => exact course_syncAck host h hConnection transports

theorem inputOfFrame_ne_connectionLost {suite : Suite} {c : Channel} {frame : Frame}
    {i : Phase.Input} (h : inputOfFrame suite c frame = some i) : i ≠ .connectionLost := by
  rintro rfl
  cases frame <;> simp [inputOfFrame] at h

theorem equipped_countReceived (h : t.channel.Equipped) (now : Nat) :
    (t.countReceived now).channel.Equipped := by
  exact { h with }

/-- What follows when a frame has been counted. -/
theorem course_counted (host : Host) (h : t.channel.Equipped) {connection : Nat}
    (hConnection : t.channel.connection = some connection) (frame : Frame) :
    Course host connection (t.countReceived host.now) (t.receive host connection frame) := by
  have hEquipped := equipped_countReceived h host.now
  simp only [receive]
  split
  · next i hInput =>
    exact course_notePart host hEquipped hConnection i (inputOfFrame_ne_connectionLost hInput)
  · exact .kept .refl

theorem course_receive (host : Host) (h : t.channel.Equipped) {connection : Nat}
    (hConnection : t.channel.connection = some connection) (frame : Frame) :
    Course host connection t (t.receive host connection frame) :=
  .of_moves (.single .received) (course_counted host h hConnection frame)

theorem receiveAll_of_ne (host : Host) {connection : Nat}
    (h : t.channel.connection ≠ some connection) (frames : List Frame) :
    t.receiveAll host connection frames = t := by
  induction frames with
  | nil => rfl
  | cons frame rest ih =>
    simp only [receiveAll, List.foldl_cons, h, if_false]
    exact ih

theorem receiveAll_cons (host : Host) {connection : Nat}
    (h : t.channel.connection = some connection) (frame : Frame) (rest : List Frame) :
    t.receiveAll host connection (frame :: rest) =
      (t.receive host connection frame).receiveAll host connection rest := by
  simp only [receiveAll, List.foldl_cons, h, if_true]

theorem receiveAll_append (host : Host) (t : Turn) (connection : Nat) (first rest : List Frame) :
    t.receiveAll host connection (first ++ rest) =
      (t.receiveAll host connection first).receiveAll host connection rest := by
  simp only [receiveAll, List.foldl_append]

theorem course_receiveAll (host : Host) (h : t.channel.Equipped) {connection : Nat}
    (hConnection : t.channel.connection = some connection) (frames : List Frame) :
    Course host connection t (t.receiveAll host connection frames) := by
  induction frames generalizing t with
  | nil => exact .kept .refl
  | cons frame rest ih =>
    rw [receiveAll_cons host hConnection]
    have hReceive := course_receive host h hConnection frame
    generalize t.receive host connection frame = received at hReceive ⊢
    cases hReceive with
    | kept hMoves =>
      have hSame := connection_of_moves h.connected hMoves
      exact .of_moves hMoves (ih (equipped_of_moves h hMoves) (hSame.trans hConnection))
    | failed hMoves hBroken =>
      rw [receiveAll_of_ne host (by simp [failFor, (unlinked_failServer host _).1])]
      exact .failed hMoves hBroken
    | left hMoves =>
      rw [receiveAll_of_ne host (by simp [connection_teardown])]
      exact .left hMoves

theorem course_inbound (host : Host) (h : t.channel.Equipped) {connection : Nat}
    (hConnection : t.channel.connection = some connection) (frames : List Frame) (size : Nat) :
    Course host connection t (t.inbound host connection frames size) := by
  have hCounted : Moves host t (t.countBytes size) := .single (.counted size)
  simp only [inbound, hConnection, if_true]
  exact .of_moves hCounted
    (course_receiveAll host (equipped_of_moves h hCounted) hConnection frames)

theorem course_ping (host : Host) (h : t.channel.Equipped) {connection : Nat}
    (hConnection : t.channel.connection = some connection) :
    Course host connection t (t.ping host connection) := by
  simp only [ping, hConnection, if_true]
  rcases send_cases host hConnection .pingReq with ⟨bytes, hBytes, hSend⟩ | ⟨error, hSend, _⟩
  · simp only [hSend]
    exact .kept (.single (.pinged hConnection hBytes))
  · simp only [hSend]
    rw [input_connectionLost host (by exact h.connected), failServer_note_note host t _ rfl]
    exact .failed .refl (.ping error)

theorem course_readFailed (host : Host) (h : t.channel.Equipped) {connection : Nat}
    (hConnection : t.channel.connection = some connection) (error : ChannelError) :
    Course host connection t (t.readFailed host connection error) := by
  simp only [readFailed, hConnection, if_true]
  rw [input_connectionLost host (by exact h.connected), failServer_note host t rfl]
  exact .failed .refl (.read error)

end Turn

end DeviceUplink
