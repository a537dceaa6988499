import DeviceUplink.Proofs.Channel.Accounting
import DeviceUplink.Proofs.Channel.Keying

/-!
# What is made known of a session

The payloads that the application gets and the news that a session is open go back, one by one and
in order, to what a connection takes in: responses that can be read, and acknowledgments. `Tells`
says so of every step on a live connection; no other step makes anything known.
-/

namespace DeviceUplink

inductive Tiding
  | payload (bytes : Bytes)
  | opened
deriving DecidableEq

/-- What a connection takes in that matters for its session. -/
inductive Intake
  | response (payload : Bytes)
  | acknowledged

namespace Occurrence

def tiding? : Occurrence → Option Tiding
  | delivered payload => some (.payload payload)
  | serverConnected _ => some .opened
  | _ => none

end Occurrence

def tidings (log : List Occurrence) : List Tiding :=
  log.filterMap Occurrence.tiding?

namespace Intake

/-- Of the frames only responses in the clear and those that the key opens count. -/
def ofFrame? (suite : Suite) (session : CryptoSession) : Frame → Option Intake
  | .syncResponse body => (Turn.openPayload suite (some session) body).map .response
  | _ => none

def tiding? : Intake → Option Tiding
  | response payload => some (.payload payload)
  | acknowledged => none

def payloads (intake : List Intake) : List Tiding :=
  intake.filterMap tiding?

/-- What is made known by a session from its start: the first thing that is taken in opens it. -/
def story : List Intake → List Tiding
  | [] => []
  | first :: rest => payloads [first] ++ .opened :: payloads rest

def storyFrom (phase : Phase) (intake : List Intake) : List Tiding :=
  if phase = .connecting then story intake else payloads intake

theorem opened_notMem_payloads (intake : List Intake) : .opened ∉ payloads intake := by
  intro h
  obtain ⟨i, _, hTiding⟩ := List.mem_filterMap.mp h
  cases i <;> cases hTiding

theorem count_opened_story (intake : List Intake) : (story intake).count .opened ≤ 1 := by
  cases intake with
  | nil => exact Nat.zero_le 1
  | cons first rest =>
    have hNone : ∀ intake, (payloads intake).count .opened = 0 := fun intake =>
      List.count_eq_zero.mpr (opened_notMem_payloads intake)
    simp [story, hNone]

theorem storyFrom_nil (phase : Phase) : storyFrom phase [] = [] := by
  unfold storyFrom
  split <;> rfl

/-- Where the story stands depends only on whether the session has been opened. -/
theorem storyFrom_append (phase : Phase) (first rest : List Intake) :
    storyFrom phase (first ++ rest) = storyFrom phase first ++
      storyFrom (if .opened ∈ storyFrom phase first then .opened else phase) rest := by
  by_cases hPhase : phase = .connecting
  · subst hPhase
    cases first with
    | nil => simp [storyFrom_nil]
    | cons i more => simp [storyFrom, story, payloads]
  · have hRest : (if .opened ∈ payloads first then .opened else phase) = phase :=
      if_neg (opened_notMem_payloads first)
    simp only [storyFrom, hPhase, if_false, hRest]
    exact List.filterMap_append

end Intake

theorem tidings_append (log more : List Occurrence) :
    tidings (log ++ more) = tidings log ++ tidings more :=
  List.filterMap_append

theorem tidings_eq_nil {log : List Occurrence} (h : ∀ o ∈ log, o.tiding? = none) :
    tidings log = [] :=
  List.filterMap_eq_nil_iff.mpr h

namespace Occurrence

theorem tiding?_of_isPrelude {o : Occurrence} (h : o.isPrelude = true) : o.tiding? = none := by
  cases o <;> first | rfl | cases h

theorem tiding?_of_isNotice {o : Occurrence} (h : o.isNotice = true) : o.tiding? = none := by
  cases o <;> first | rfl | cases h

theorem tiding?_of_isFailure {o : Occurrence} (h : o.isFailure = true) : o.tiding? = none := by
  cases o <;> first | rfl | cases h

theorem tiding?_of_isEnding {o : Occurrence} (h : o.isEnding = true) : o.tiding? = none := by
  cases o <;> first | rfl | cases h

end Occurrence

namespace Turn

variable {host : Host} {t u : Turn}

theorem tidings_note {o : Occurrence} (h : o.tiding? = none) :
    tidings (t.note o).log = tidings t.log := by
  have hMute : tidings [o] = [] := tidings_eq_nil (by simpa using h)
  rw [log_note, tidings_append, hMute, List.append_nil]

/-- A payload is made known once, also if the demultiplexer cannot process it. -/
theorem tidings_deliver (hBound : t.channel.hasDemultiplexer = true) (host : Host)
    (payload : Bytes) :
    tidings (t.deliver host payload).log = tidings t.log ++ [.payload payload] := by
  have hGiven : tidings ((t.note .deliveryBegun).note (.delivered payload)).log =
      tidings t.log ++ [.payload payload] := by
    rw [log_note, tidings_append, tidings_note rfl]
    rfl
  simp only [deliver, hBound, if_true]
  rw [tidings_note rfl]
  split
  · exact hGiven
  · rw [tidings_note rfl, hGiven]

theorem tidings_teardown (host : Host) (t : Turn) :
    tidings (t.teardown host).log = tidings t.log := by
  obtain ⟨endings, hLog, hEndings⟩ := t.log_teardown host
  have hMute : tidings endings = [] :=
    tidings_eq_nil fun o ho => Occurrence.tiding?_of_isEnding (hEndings o ho)
  rw [hLog, tidings_append, hMute, List.append_nil]

theorem tidings_failServer (host : Host) (t : Turn) :
    tidings (t.failServer host).log = tidings t.log := by
  obtain ⟨notices, hLog, hNotices⟩ := t.log_failServer host
  have hMute : tidings notices = [] :=
    tidings_eq_nil fun o ho => Occurrence.tiding?_of_isNotice (hNotices o ho)
  rw [hLog, tidings_append, hMute, List.append_nil, tidings_teardown]

theorem tidings_failFor (host : Host) (t : Turn) {symptoms : List Occurrence} {cause : Occurrence}
    (hSymptoms : Symptoms cause symptoms) (hFailure : cause.isFailure = true) :
    tidings (t.failFor host symptoms cause).log = tidings t.log := by
  have hMute : tidings (symptoms ++ cause :: cause.cleaning) = [] := by
    apply tidings_eq_nil
    intro o ho
    rcases hSymptoms.mem_cases hFailure ho with hFailed | rfl | ⟨_, _, rfl⟩
    · exact Occurrence.tiding?_of_isFailure hFailed
    · rfl
    · rfl
  rw [failFor, tidings_failServer, noteAll, tidings_append, hMute, List.append_nil]

theorem tidings_synced {directions : DirectionMap} (h : Synced host directions t u) :
    tidings u.log = tidings t.log := by
  cases h with
  | undue => rfl
  | dropped => rw [tidings_note rfl, tidings_note rfl]
  | sent =>
    rw [tidings_note rfl]
    exact tidings_note (t := t) rfl

end Turn

/-- A turn goes on and makes this known meanwhile. If its connection lives on, then under the same
session, which is open if that has become known. -/
structure Tells (t : Turn) (said : List Tiding) (u : Turn) : Prop where
  log : tidings u.log = tidings t.log ++ said
  connection : u.channel.connection.isSome = true → u.channel.connection = t.channel.connection
  session : u.channel.connection.isSome = true → u.channel.session = t.channel.session
  demultiplexer : u.channel.connection.isSome = true →
    u.channel.hasDemultiplexer = t.channel.hasDemultiplexer
  phase : u.channel.connection.isSome = true →
    u.channel.phase = if .opened ∈ said then .opened else t.channel.phase

namespace Tells

variable {host : Host} {t u v : Turn} {said more : List Tiding}

theorem of_ended (hLog : tidings u.log = tidings t.log ++ said)
    (hEnded : u.channel.connection = none) : Tells t said u := by
  constructor
  · exact hLog
  all_goals
    intro hLive
    rw [hEnded] at hLive
    cases hLive

theorem of_same (hLog : tidings u.log = tidings t.log)
    (hConnection : u.channel.connection = t.channel.connection)
    (hSession : u.channel.session = t.channel.session)
    (hDemultiplexer : u.channel.hasDemultiplexer = t.channel.hasDemultiplexer)
    (hPhase : u.channel.phase = t.channel.phase) : Tells t [] u := by
  constructor
  · rw [hLog, List.append_nil]
  · exact fun _ => hConnection
  · exact fun _ => hSession
  · exact fun _ => hDemultiplexer
  · exact fun _ => hPhase

theorem refl (t : Turn) : Tells t [] t :=
  .of_same rfl rfl rfl rfl rfl

theorem trans (h : Tells t said u) (h' : Tells u more v) : Tells t (said ++ more) v := by
  have hBefore : v.channel.connection.isSome = true → u.channel.connection.isSome = true := by
    intro hLive
    rw [← h'.connection hLive]
    exact hLive
  constructor
  · rw [h'.log, h.log, List.append_assoc]
  · intro hLive
    exact (h'.connection hLive).trans (h.connection (hBefore hLive))
  · intro hLive
    exact (h'.session hLive).trans (h.session (hBefore hLive))
  · intro hLive
    exact (h'.demultiplexer hLive).trans (h.demultiplexer (hBefore hLive))
  · intro hLive
    rw [h'.phase hLive, h.phase (hBefore hLive)]
    by_cases hMore : Tiding.opened ∈ more
    · simp [hMore]
    · simp [hMore]

theorem note {o : Occurrence} (h : Tells t said u) (ho : o.tiding? = none) :
    Tells t said (u.note o) := by
  constructor
  · rw [Turn.tidings_note ho, h.log]
  · exact h.connection
  · exact h.session
  · exact h.demultiplexer
  · exact h.phase

theorem failFor {symptoms : List Occurrence} {cause : Occurrence} (h : Tells t said u)
    (hSymptoms : Symptoms cause symptoms) (hFailure : cause.isFailure = true) :
    Tells t said (u.failFor host symptoms cause) := by
  apply of_ended
  · rw [Turn.tidings_failFor host u hSymptoms hFailure, h.log]
  · exact (Turn.unlinked_failServer host _).1

theorem synced {directions : DirectionMap} (h : Synced host directions t u) : Tells t [] u := by
  obtain ⟨_, hu⟩ := Turn.channel_of_synced h
  apply of_same (Turn.tidings_synced h)
  all_goals rw [hu]

theorem opened (hBound : t.channel.hasDemultiplexer = true) (payload? : Option Bytes)
    (server : Server) :
    Tells t ((payload?.map Tiding.payload).toList ++ [.opened])
      (t.opened host payload? server) := by
  have hChannel := Turn.channel_opened host t payload? server
  constructor
  · cases payload? with
    | none => simp [Turn.opened, tidings, Occurrence.tiding?]
    | some payload =>
      have hGiven := Turn.tidings_deliver (t := t.setPhase .opened) hBound host payload
      rw [Turn.opened, Option.elim_some, Turn.log_note, tidings_append, hGiven]
      simp [tidings, Occurrence.tiding?]
  all_goals
    intro _
    rw [hChannel]
  simp

end Tells

namespace Turn

variable {host : Host} {t : Turn} {connection : Nat}

theorem tells_sendSync (host : Host) (h : t.channel.Equipped)
    (hConnection : t.channel.connection = some connection) (directions : DirectionMap) :
    Tells t [] (t.sendSync host directions) := by
  rcases synced_sendSync host h hConnection directions with hSynced | ⟨body, error, _, hFailed⟩
  · exact .synced hSynced
  · rw [hFailed]
    exact ((Tells.refl t).note rfl).failFor (.sync connection body error) rfl

theorem tells_syncAll (host : Host) (h : t.channel.Equipped)
    (hConnection : t.channel.connection = some connection) : Tells t [] (t.syncAll host) := by
  unfold syncAll
  split
  · exact tells_sendSync host h hConnection _
  · exact .refl t

theorem tells_named (t : Turn) (transports : List Transport) :
    Tells t [] (transports.foldl (fun t u => t.note (.unsupported u)) t) := by
  induction transports generalizing t with
  | nil => exact .refl t
  | cons transport rest ih =>
    exact ((Tells.refl t).note rfl).trans (ih (t.note (.unsupported transport)))

theorem tells_sync (host : Host) (h : t.channel.Equipped)
    (hConnection : t.channel.connection = some connection) (requested : TransportSet) :
    Tells t [] (t.sync host requested) := by
  unfold sync
  split
  · have hSame := channel_named t (t.channel.supported.missing requested)
    rw [← hSame] at h hConnection
    exact (tells_named t _).trans (tells_sendSync host h hConnection _)
  · exact .refl t

/-- The session opens, whatever becomes of the sync that goes with that. -/
theorem tells_open (host : Host) (h : t.channel.Equipped)
    (hConnection : t.channel.connection = some connection)
    (hBound : t.channel.hasDemultiplexer = true) (payload? : Option Bytes) :
    Tells t ((payload?.map Tiding.payload).toList ++ [.opened])
      (((payload?.elim (t.setPhase .opened) ((t.setPhase .opened).deliver host)).perform host
        .notifyConnected).syncAll host) := by
  obtain ⟨server, _, hSynced | ⟨body, error, _, hFailed⟩⟩ :=
    synced_open host h hConnection payload?
  · have hTells := (Tells.opened hBound payload? server).trans (.synced hSynced)
    rwa [List.append_nil] at hTells
  · rw [hFailed]
    exact ((Tells.opened hBound payload? server).note rfl).failFor (.sync connection body error) rfl

theorem tells_response (host : Host) (h : t.channel.Equipped)
    (hConnection : t.channel.connection = some connection)
    (hBound : t.channel.hasDemultiplexer = true) (payload : Bytes) :
    Tells t (Intake.storyFrom t.channel.phase [.response payload])
      (t.input host (.response payload)) := by
  simp only [input, Phase.step, h.connected, if_true]
  rcases isConnected_cases h.connected with hPhase | hPhase
  · simp only [hPhase, if_true, List.foldl_cons, List.foldl_nil, perform]
    exact tells_open host h hConnection hBound (some payload)
  · simp only [hPhase, reduceCtorEq, if_false, List.foldl_cons, List.foldl_nil, perform]
    rw [setPhase_self hPhase]
    constructor
    · rw [tidings_deliver hBound]
      simp [Intake.storyFrom, Intake.payloads, Intake.tiding?]
    all_goals
      intro _
      rw [channel_deliver]
    simp [Intake.storyFrom, Intake.opened_notMem_payloads]

theorem tells_syncAck (host : Host) (h : t.channel.Equipped)
    (hConnection : t.channel.connection = some connection)
    (hBound : t.channel.hasDemultiplexer = true) (transports : TransportSet) :
    Tells t (Intake.storyFrom t.channel.phase [.acknowledged])
      (t.input host (.syncAck transports)) := by
  simp only [input, Phase.step, h.connected, if_true]
  rcases isConnected_cases h.connected with hPhase | hPhase
  · simp only [hPhase, if_true, List.foldl_cons, List.foldl_nil, perform]
    exact tells_open host h hConnection hBound none
  · simp only [hPhase, reduceCtorEq, if_false]
    split
    · simp only [List.foldl_cons, List.foldl_nil, perform]
      rw [setPhase_self hPhase]
      exact tells_sync host h hConnection transports
    · simp only [List.foldl_cons, List.foldl_nil, perform]
      rw [setPhase_self hPhase]
      exact tells_syncAll host h hConnection

theorem tells_readFailed (host : Host) (h : t.channel.Equipped)
    (hConnection : t.channel.connection = some connection) (error : ChannelError) :
    Tells t [] (t.readFailed host connection error) := by
  simp only [readFailed, hConnection, if_true]
  rw [input_connectionLost host (by exact h.connected), failServer_note host t rfl]
  exact (Tells.refl t).failFor (.none _) rfl

theorem tells_ping (host : Host) (h : t.channel.Equipped)
    (hConnection : t.channel.connection = some connection) :
    Tells t [] (t.ping host connection) := by
  simp only [ping, hConnection, if_true]
  rcases send_cases host hConnection .pingReq with ⟨bytes, _, hSend⟩ | ⟨error, hSend, _⟩
  · simp only [hSend]
    exact .of_same (tidings_note (t := t.countSent host.now bytes.length) rfl) rfl rfl rfl rfl
  · simp only [hSend]
    rw [input_connectionLost host (by exact h.connected), failServer_note_note host t _ rfl]
    exact (Tells.refl t).failFor (.ping connection error) rfl

theorem tells_notePart (host : Host) (h : t.channel.Equipped) {i : Phase.Input}
    (hOther : ∀ payload, i ≠ .response payload) (hAck : ∀ transports, i ≠ .syncAck transports)
    (hLost : i ≠ .connectionLost) : Tells t [] ((t.notePart connection i).input host i) := by
  cases i with
  | connAck code =>
    by_cases hCode : code = .accepted
    · subst hCode
      simp only [notePart, if_true]
      rw [input_accepted host h.connected]
      exact .refl t
    · simp only [notePart, hCode, if_false]
      rw [input_refused host h.connected hCode]
      exact (Tells.refl t).failFor (.none _) rfl
  | response payload => exact absurd rfl (hOther payload)
  | pingResp =>
    simp only [notePart, input, Phase.step, h.connected, if_true, List.foldl_cons, List.foldl_nil,
      perform]
    exact .of_same rfl rfl rfl rfl rfl
  | disconnect reason =>
    simp only [notePart]
    by_cases hReason : reason = .graceful
    · subst hReason
      rw [input_graceful host (by exact h.connected)]
      apply Tells.of_ended
      · rw [tidings_teardown, tidings_note rfl, List.append_nil]
      · exact connection_teardown host _
    · rw [input_disconnect host (by exact h.connected) hReason, failServer_note host t rfl]
      exact (Tells.refl t).failFor (.none _) (by simpa [Occurrence.isFailure] using hReason)
  | connectionLost => exact absurd rfl hLost
  | syncAck transports => exact absurd rfl (hAck transports)

theorem tells_receive (host : Host) (h : t.channel.Equipped)
    (hConnection : t.channel.connection = some connection) {session : CryptoSession}
    (hSession : t.channel.session = some session) (hBound : t.channel.hasDemultiplexer = true)
    (frame : Frame) :
    Tells t (Intake.storyFrom t.channel.phase (Intake.ofFrame? host.suite session frame).toList)
      (t.receive host connection frame) := by
  have hCounted : Tells t [] (t.countReceived host.now) := .of_same rfl rfl rfl rfl rfl
  have hEquipped := equipped_countReceived h host.now
  have hNone := Intake.storyFrom_nil t.channel.phase
  simp only [receive]
  cases frame with
  | syncResponse body =>
    have hOpen : openPayload host.suite (t.countReceived host.now).channel.session body =
        openPayload host.suite (some session) body := by rw [← hSession]; rfl
    simp only [inputOfFrame, Intake.ofFrame?, hOpen]
    cases openPayload host.suite (some session) body with
    | none =>
      simp only [Option.map_none, Option.toList_none, hNone]
      exact hCounted
    | some payload =>
      simp only [Option.map_some, Option.toList_some, notePart]
      exact hCounted.trans (tells_response host hEquipped hConnection hBound payload)
  | connAck | pingResp | disconnect =>
    simp only [inputOfFrame, Intake.ofFrame?, Option.toList_none, hNone]
    exact hCounted.trans (tells_notePart host hEquipped (by simp) (by simp) (by simp))
  | connect | syncRequest | pingReq =>
    simp only [inputOfFrame, Intake.ofFrame?, Option.toList_none, hNone]
    exact hCounted

/-- The frames of one read that find the connection alive. -/
def taken (host : Host) (connection : Nat) (t : Turn) : List Frame → List Frame
  | [] => []
  | frame :: rest =>
    if t.channel.connection = some connection then
      frame :: (t.receive host connection frame).taken host connection rest
    else []

theorem taken_of_ne (h : t.channel.connection ≠ some connection) (frames : List Frame) :
    t.taken host connection frames = [] := by
  cases frames with
  | nil => rfl
  | cons frame rest => simp only [taken, h, if_false]

theorem taken_cons (h : t.channel.connection = some connection) (frame : Frame)
    (rest : List Frame) :
    t.taken host connection (frame :: rest) =
      frame :: (t.receive host connection frame).taken host connection rest := by
  simp only [taken, h, if_true]

theorem connection_receive (host : Host) (h : t.channel.Equipped)
    (hConnection : t.channel.connection = some connection) (frame : Frame) :
    (t.receive host connection frame).channel.connection = some connection ∧
        (t.receive host connection frame).channel.Equipped ∨
      (t.receive host connection frame).channel.connection = none := by
  have hCourse := course_receive host h hConnection frame
  generalize t.receive host connection frame = received at hCourse ⊢
  cases hCourse with
  | kept hMoves =>
    have hSame := connection_of_moves h.connected hMoves
    exact .inl ⟨hSame.trans hConnection, equipped_of_moves h hMoves⟩
  | failed => exact .inr (unlinked_failServer host _).1
  | left => exact .inr (connection_teardown host _)

theorem tells_receiveAll (host : Host) (h : t.channel.Equipped)
    (hConnection : t.channel.connection = some connection) {session : CryptoSession}
    (hSession : t.channel.session = some session) (hBound : t.channel.hasDemultiplexer = true)
    (frames : List Frame) :
    Tells t (Intake.storyFrom t.channel.phase
        ((t.taken host connection frames).filterMap (Intake.ofFrame? host.suite session)))
      (t.receiveAll host connection frames) := by
  induction frames generalizing t with
  | nil =>
    simp only [taken, List.filterMap_nil, Intake.storyFrom_nil]
    exact .refl t
  | cons frame rest ih =>
    have hFirst := tells_receive host h hConnection hSession hBound frame
    have hHead : ∀ more : List Frame,
        (frame :: more).filterMap (Intake.ofFrame? host.suite session) =
          (Intake.ofFrame? host.suite session frame).toList ++
            more.filterMap (Intake.ofFrame? host.suite session) := by
      intro more
      cases hIntake : Intake.ofFrame? host.suite session frame <;> simp [hIntake]
    rw [receiveAll_cons host hConnection, taken_cons hConnection, hHead]
    rcases connection_receive host h hConnection frame with ⟨hLive, hEquipped⟩ | hEnded
    · have hSome := Option.isSome_of_eq_some hLive
      have hRest := ih hEquipped hLive ((hFirst.session hSome).trans hSession)
        ((hFirst.demultiplexer hSome).trans hBound)
      rw [hFirst.phase hSome] at hRest
      rw [Intake.storyFrom_append]
      exact hFirst.trans hRest
    · have hOther : (t.receive host connection frame).channel.connection ≠ some connection := by
        simp [hEnded]
      rw [receiveAll_of_ne host hOther, taken_of_ne hOther, List.filterMap_nil, List.append_nil]
      exact hFirst

end Turn

namespace Channel

def hears (session : CryptoSession) (host : Host) (c : Channel) : Command → List Intake
  | .inbound connection frames size =>
    ((Turn.countBytes { channel := c } size).taken host connection frames).filterMap
      (Intake.ofFrame? host.suite session)
  | .syncAck _ => [.acknowledged]
  | _ => []

end Channel

end DeviceUplink
