import DeviceUplink.Proofs.Channel.Asking
import DeviceUplink.Proofs.Channel.Effects
import DeviceUplink.Proofs.Crypto.Sealing

/-!
# What a sync does

A sync that is due names what the channel does not carry, has one request compiled and sends it
sealed; the request gets out if it is compiled and the socket takes it. In every other state a sync
does nothing, and one for which there is no request only says so.
-/

namespace DeviceUplink

def syncRequests (log : List Occurrence) : List (Nat × SyncBody) :=
  log.filterMap fun
    | .sent connection (.syncRequest body) => some (connection, body)
    | _ => none

theorem syncRequests_eq_nil {log : List Occurrence}
    (h : ∀ o ∈ log, o.isEnding = true ∨ o.isNotice = true) : syncRequests log = [] := by
  refine List.filterMap_eq_nil_iff.mpr fun o ho => ?_
  rcases h o ho with hEnding | hNotice
  · obtain ⟨_, rfl | rfl | rfl | rfl⟩ := Occurrence.eq_of_isEnding hEnding <;> rfl
  · cases o <;> first | rfl | cases hNotice

def Host.takes (host : Host) (log : List Occurrence) (frame : Frame) : Bool :=
  frame.encode.isOk && (host.write log frame).isOk

theorem SyncBody.isEncrypted_encrypted (payload : Bytes) :
    (SyncBody.encrypted payload).isEncrypted = true := by
  simp only [encrypted, isEncrypted, encryptedBit]
  decide

def Channel.isSyncable (c : Channel) : Bool :=
  c.phase = .opened && c.hasMultiplexer && c.hasDemultiplexer

def DirectionMap.unmet (m : DirectionMap) (selection? : Option TransportSet) : List Transport :=
  selection?.elim [] m.missing

theorem DirectionMap.unmet_sublist (m : DirectionMap) (selection? : Option TransportSet) :
    (m.unmet selection?).Sublist Transport.all := by
  cases selection? with
  | none => exact List.nil_sublist _
  | some requested => exact List.filter_sublist.trans List.filter_sublist

theorem DirectionMap.mem_unmet {m : DirectionMap} {selection? : Option TransportSet}
    {t : Transport} :
    t ∈ m.unmet selection? ↔ selection?.any (fun s => s.has t) = true ∧ m.find? t = none := by
  cases selection? with
  | none => simp [unmet]
  | some requested => simp [unmet, missing, TransportSet.mem_toList, carries]

namespace Turn

def syncFor (host : Host) (t : Turn) (selection? : Option TransportSet) : Turn :=
  selection?.elim (t.syncAll host) (t.sync host)

variable {host : Host} {t : Turn}

theorem foldl_unsupported (t : Turn) (transports : List Transport) :
    transports.foldl (fun t u => t.note (.unsupported u)) t =
      t.noteAll (transports.map .unsupported) := by
  induction transports generalizing t with
  | nil => exact (noteAll_nil t).symm
  | cons transport rest ih =>
    rw [List.foldl_cons, ih]
    simp [note, noteAll]

theorem syncFor_of_undue (h : canSync t.channel = false) (selection? : Option TransportSet) :
    t.syncFor host selection? = t := by
  cases selection? with
  | none => simp [syncFor, syncAll, h]
  | some requested => simp [syncFor, sync, h]

theorem syncFor_of_due (host : Host) (h : canSync t.channel = true)
    (selection? : Option TransportSet) :
    t.syncFor host selection? =
      (t.noteAll ((t.channel.supported.unmet selection?).map .unsupported)).sendSync host
        (t.channel.supported.selected selection?) := by
  cases selection? with
  | none => simp [syncFor, syncAll, h, DirectionMap.unmet, DirectionMap.selected]
  | some requested =>
    simp [syncFor, sync, h, foldl_unsupported, DirectionMap.unmet, DirectionMap.selected]

/-- A failure sends nothing more but a farewell. -/
theorem syncRequests_failServer (host : Host) (t : Turn) :
    ∃ more, (t.failServer host).log = t.log ++ more ∧ syncRequests more = [] := by
  obtain ⟨endings, hDown, hEndings⟩ := t.log_teardown host
  obtain ⟨notices, hLog, hNotices⟩ := t.log_failServer host
  refine ⟨endings ++ notices, by rw [hLog, hDown, List.append_assoc], ?_⟩
  apply syncRequests_eq_nil
  intro o ho
  exact (List.mem_append.mp ho).imp (hEndings o) (hNotices o)

/-- A frame gets out if the socket takes it, and otherwise not. -/
theorem send_of_takes {connection : Nat} (hConnection : t.channel.connection = some connection)
    {frame : Frame} (h : host.takes t.log frame = true) :
    ∃ counted : Turn, counted.log = t.log ∧
      t.send host frame = (counted.note (.sent connection frame), .ok ()) := by
  simp only [send, hConnection]
  unfold Host.takes at h
  cases hBytes : frame.encode with
  | error error => simp [hBytes, Except.isOk, Except.toBool] at h
  | ok bytes =>
    cases hWrite : host.write t.log frame with
    | error reason => simp [hWrite, Except.isOk, Except.toBool] at h
    | ok _ => exact ⟨t.countSent host.now bytes.length, rfl, rfl⟩

theorem send_of_not_takes {connection : Nat} (hConnection : t.channel.connection = some connection)
    {frame : Frame} (h : host.takes t.log frame = false) :
    ∃ error, t.send host frame = (t.note (.sendFailed connection frame), .error error) := by
  simp only [send, hConnection]
  unfold Host.takes at h
  cases hBytes : frame.encode with
  | error error => exact ⟨_, rfl⟩
  | ok bytes =>
    cases hWrite : host.write t.log frame with
    | error reason => exact ⟨_, rfl⟩
    | ok _ => simp [hBytes, hWrite, Except.isOk, Except.toBool] at h

end Turn

/-- What a sync that is due comes to when it asks for these directions. Without a request the
channel stays as it is and nothing is sent; with one, a single SYNC-REQUEST gets out that opens to
it, if the socket takes that. -/
structure Turn.SyncOutcome (host : Host) (t : Turn) (directions : DirectionMap) (synced : Turn) :
    Prop where
  dropped : ∀ causes, host.compile t.log directions = .error causes →
    synced = t.noteAll [.compiled directions, .syncDropped (.multiplexer causes)]
  requested : ∀ request, host.compile t.log directions = .ok request →
    let asked := t.log ++ [.compiled directions]
    let nonce := (host.draw asked).payloadNonce
    ∃ connection session, t.channel.connection = some connection ∧
      t.channel.session = some session ∧
      let body := SyncBody.encrypted (session.encrypt host.suite nonce request)
      body.isEncrypted = true ∧
      (host.suite.IsLawful → nonce.length = nonceSize →
        session.decrypt host.suite body.payload = .ok request) ∧
      ∃ more, synced.log = asked ++ more ∧ syncRequests more =
        if host.takes asked (.syncRequest body) then [(connection, body)] else []

namespace Turn

variable {host : Host} {t : Turn}

/-- A built request is all that is sent, if the socket takes it. -/
theorem sendSync_of_built {directions : DirectionMap} {asked : Turn} {body : SyncBody}
    (hBuilt : t.buildSync host directions = (asked, .ok body)) {connection : Nat}
    (hConnection : asked.channel.connection = some connection) :
    ∃ more, (t.sendSync host directions).log = asked.log ++ more ∧ syncRequests more =
      if host.takes asked.log (.syncRequest body) then [(connection, body)] else [] := by
  simp only [sendSync, hBuilt]
  cases hTakes : host.takes asked.log (.syncRequest body) with
  | true =>
    obtain ⟨counted, hLog, hSent⟩ := send_of_takes hConnection hTakes
    rw [hSent]
    exact ⟨[.sent connection (.syncRequest body)], by simp [hLog], rfl⟩
  | false =>
    obtain ⟨error, hFailed⟩ := send_of_not_takes hConnection hTakes
    obtain ⟨more, hLog, hMore⟩ :=
      ((asked.note (.sendFailed connection (.syncRequest body))).note (.syncFailed error))
        |>.syncRequests_failServer host
    rw [hFailed]
    refine ⟨.sendFailed connection (.syncRequest body) :: .syncFailed error :: more, ?_, hMore⟩
    simp [hLog]

theorem syncOutcome (h : t.channel.Equipped) (host : Host) (directions : DirectionMap) :
    t.SyncOutcome host directions (t.sendSync host directions) := by
  obtain ⟨connection, hConnection⟩ := Option.isSome_iff_exists.mp h.connection
  obtain ⟨session, hSession⟩ := Option.isSome_iff_exists.mp h.session
  constructor
  · intro causes hCompiled
    rw [← note_note]
    simp only [sendSync, buildSync, h.multiplexer, hSession, hCompiled, if_true]
  · intro request hCompiled asked nonce
    have hBuilt : t.buildSync host directions = (t.note (.compiled directions),
        .ok (.encrypted (session.encrypt host.suite nonce request))) := by
      simp only [buildSync, h.multiplexer, hSession, hCompiled, if_true]
      rfl
    refine ⟨connection, session, hConnection, hSession, SyncBody.isEncrypted_encrypted _, ?_, ?_⟩
    · exact fun hLawful hNonce => hLawful.openWith_sealWith hNonce _ _
    · exact sendSync_of_built hBuilt hConnection

end Turn

theorem Channel.Settled.equipped_of_isSyncable {c : Channel} (h : c.Settled)
    (hSyncable : c.isSyncable = true) : c.Equipped := by
  simp only [isSyncable, Bool.and_eq_true, decide_eq_true_eq] at hSyncable
  refine h.equipped ?_
  rw [h.connected, hSyncable.1.1]
  rfl

theorem Channel.Settled.canSync_eq {c : Channel} (h : c.Settled) :
    Turn.canSync c = c.isSyncable := by
  cases hSyncable : c.isSyncable with
  | true =>
    have hEquipped := h.equipped_of_isSyncable hSyncable
    simp only [isSyncable] at hSyncable
    simp [Turn.canSync, hSyncable, hEquipped.server, hEquipped.connection]
  | false =>
    simp only [isSyncable] at hSyncable
    simp [Turn.canSync, hSyncable]

/-- A sync on its own, where the command does not open the session. -/
def Command.isSync (phase : Phase) : Command → Bool
  | .sync _ | .syncAll => true
  | .syncAck _ => phase = .opened
  | _ => false

theorem Turn.syncFor_of_phase (host : Host) {t : Turn} (h : t.channel.phase ≠ .opened)
    (selection? : Option TransportSet) : t.syncFor host selection? = t :=
  syncFor_of_undue (by simp [canSync, h]) selection?

/-- An opening is followed by a sync of everything, on a channel that is settled again. -/
theorem Turn.input_of_opening {t : Turn} (h : t.channel.Settled)
    (hPhase : t.channel.phase = .connecting) {i : Phase.Input} {payload? : Option Bytes}
    (hOpening : i.opening? = some payload?) (host : Host) :
    ∃ server, t.channel.server = some server ∧ (t.opened host payload? server).channel.Settled ∧
      (t.opened host payload? server).channel.supported = t.channel.supported ∧
      t.input host i = (t.opened host payload? server).syncFor host none := by
  have hConnection : t.channel.connection.isSome = true := by rw [h.connected, hPhase]; rfl
  have hEquipped := h.equipped hConnection
  obtain ⟨hAttempt, hReconnect⟩ := h.alone hConnection
  obtain ⟨server, hServer⟩ := Option.isSome_iff_exists.mp hEquipped.server
  have hChannel := channel_opened host t payload? server
  refine ⟨server, hServer, ?_, by rw [hChannel], ?_⟩
  · rw [hChannel]
    exact .of_equipped { hEquipped with connected := rfl } hAttempt hReconnect
  · have hOpened := perform_notifyConnected hServer host payload?
    cases i with
    | response payload | syncAck transports =>
      cases hOpening
      rw [← hOpened]
      simp only [input, Phase.step, hPhase, Phase.isConnected, if_true, List.foldl_cons,
        List.foldl_nil]
      rfl
    | _ => cases hOpening

namespace Channel

theorem handle_of_isSync {c : Channel} {command : Command} (h : command.isSync c.phase = true)
    (host : Host) :
    let synced := Turn.syncFor host { channel := c } (command.selection? c.phase)
    c.handle host command = (synced.channel, synced.log) := by
  intro synced
  by_cases hPhase : c.phase = .shutdown
  · have hSynced : synced = { channel := c } := Turn.syncFor_of_phase host (by simp [hPhase]) _
    rw [handle_of_shutdown hPhase, hSynced]
  · rw [handle_eq hPhase]
    cases command with
    | sync transports => rfl
    | syncAll => rfl
    | syncAck transports =>
      have hOpened : c.phase = .opened := of_decide_eq_true h
      have hSame : Turn.setPhase { channel := c } .opened = { channel := c } :=
        Turn.setPhase_self hOpened
      have hSynced : Turn.obey host { channel := c } (.syncAck transports) = synced := by
        simp only [Turn.obey, Turn.input, Phase.step, hOpened, Phase.isConnected, if_true,
          reduceCtorEq, if_false, synced, Command.selection?, true_and]
        by_cases hOne : transports.size = 1
        · simp only [hOne, if_true, List.foldl_cons, List.foldl_nil, Turn.perform, hSame]
          rfl
        · simp only [hOne, if_false, List.foldl_cons, List.foldl_nil, Turn.perform, hSame]
          rfl
      rw [hSynced]
    | _ => cases h

/-- In every run the multiplexer is asked for exactly the transports that the channel carries: in
their declared directions, but turned down where a command selects others. A sync, wherever it is
made, does nothing unless the session is open and both collaborators are bound; then it names what
is selected and not carried, each once and in order, and asks for its directions. Without a request
it changes nothing; with one, exactly one SYNC-REQUEST gets out if the socket takes it, and none
otherwise, and it opens to the request. -/
theorem sync_asks_and_writes_once (settings : ChannelSettings) (supported : DirectionMap)
    (before : List (Host × Command)) :
    let c := ((Channel.start settings supported).run before).1
    (∀ directions, .compiled directions ∈ ((Channel.start settings supported).run before).2 →
      directions.keys = supported.keys) ∧
    (∀ host command directions, .compiled directions ∈ (c.handle host command).2 →
      ∀ transport, directions.find? transport = (supported.find? transport).map fun d =>
        if (command.selection? c.phase).all fun s => s.has transport then d else .down) ∧
    (c.Settled ∧ c.supported = supported ∧
      ∀ host command, command.isSync c.phase = true →
        let synced := Turn.syncFor host { channel := c } (command.selection? c.phase)
        c.handle host command = (synced.channel, synced.log)) ∧
    (∀ (host : Host) (t : Turn) (i : Phase.Input) (payload? : Option Bytes), t.channel.Settled →
      t.channel.phase = .connecting → i.opening? = some payload? → ∃ server,
        t.channel.server = some server ∧ (t.opened host payload? server).channel.Settled ∧
        (t.opened host payload? server).channel.supported = t.channel.supported ∧
        t.input host i = (t.opened host payload? server).syncFor host none) ∧
    ∀ (host : Host) (t : Turn) (selection? : Option TransportSet), t.channel.Settled →
      t.channel.supported = supported →
      let synced := t.syncFor host selection?
      let unmet := supported.unmet selection?
      unmet.Sublist Transport.all ∧
        (∀ u, u ∈ unmet ↔ selection?.any (fun s => s.has u) = true ∧ supported.find? u = none) ∧
        (t.channel.isSyncable = false → synced = t) ∧
        (t.channel.isSyncable = true →
          (t.noteAll (unmet.map .unsupported)).SyncOutcome host (supported.selected selection?)
            synced) := by
  intro c
  have hSettled : c.Settled := settled_run (.start settings supported) before
  have hSupported : c.supported = supported := supported_run _ before
  refine ⟨fun directions h => keys_of_compiled h, ?_, ⟨hSettled, hSupported, ?_⟩,
    fun host t i payload? ht hPhase hOpening => Turn.input_of_opening ht hPhase hOpening host, ?_⟩
  · intro host command directions h transport
    rw [compiled_handle h, hSupported]
    exact supported.find?_selected _ transport
  · exact fun host command h => handle_of_isSync h host
  · intro host t selection? ht hCarried synced unmet
    refine ⟨supported.unmet_sublist selection?, fun u => DirectionMap.mem_unmet, ?_, ?_⟩
    · intro hUndue
      exact Turn.syncFor_of_undue (ht.canSync_eq.trans hUndue) selection?
    · intro hDue
      have hSynced : synced = _ :=
        Turn.syncFor_of_due host (ht.canSync_eq.trans hDue) selection?
      rw [hCarried] at hSynced
      have hEquipped := ht.equipped_of_isSyncable hDue
      rw [hSynced]
      exact Turn.syncOutcome (by exact hEquipped) host _

end Channel

end DeviceUplink
