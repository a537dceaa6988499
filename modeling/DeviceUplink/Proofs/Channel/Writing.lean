import DeviceUplink.Proofs.Channel.Conversation
import DeviceUplink.Proofs.Channel.Keying

/-!
# A channel writes in order

Every command continues the conversation of a channel, as long as writes succeed and requests are
compiled: it starts where the channel stands and ends where the command leaves it.
-/

namespace DeviceUplink

/-- The body is sealed around what the multiplexer has compiled for these directions. -/
def Host.Made (host : Host) (directions : DirectionMap) (body : SyncBody) : Prop :=
  ∃ log session nonce request, host.compile log directions = .ok request ∧
    body = .encrypted (CryptoSession.encrypt host.suite session nonce request)

def Smooth (log : List Occurrence) : Prop :=
  ∀ o ∈ log, o.isMishap = false

theorem Smooth.left {log more : List Occurrence} (h : Smooth (log ++ more)) : Smooth log :=
  fun o ho => h o (List.mem_append_left more ho)

theorem Smooth.right {log more : List Occurrence} (h : Smooth (log ++ more)) : Smooth more :=
  fun o ho => h o (List.mem_append_right log ho)

structure Line.Fits (line : Line) (c : Channel) : Prop where
  free : line.isFree = true
  connection : line.connection = c.connection
  last : line.last ≤ c.lastId
  opened : line.isOpened = true ↔ c.phase = .opened

namespace Line.Fits

variable {line : Line} {c : Channel} {connection : Nat}

theorem idle {last : Nat} (hConnection : c.connection = none) (hPhase : c.phase ≠ .opened)
    (hLast : last ≤ c.lastId) : (Line.idle last).Fits c where
  free := rfl
  connection := hConnection.symm
  last := hLast
  opened := by simp [Line.isOpened, hPhase]

theorem eq_idle (h : line.Fits c) (hConnection : c.connection = none) :
    ∃ last, line = .idle last ∧ last ≤ c.lastId := by
  have hSame := h.connection
  rw [hConnection] at hSame
  cases line with
  | idle last => exact ⟨last, rfl, h.last⟩
  | _ => cases hSame

theorem eq_opened (h : line.Fits c) (hConnection : c.connection = some connection)
    (hPhase : c.phase = .opened) : line = .opened connection := by
  have hSame := h.connection
  have hOpened := h.opened.mpr hPhase
  rw [hConnection] at hSame
  cases line with
  | opened other => rw [Option.some.inj hSame]
  | _ => cases hOpened

theorem eq_greeted (h : line.Fits c) (hConnection : c.connection = some connection)
    (hPhase : c.phase ≠ .opened) : line = .greeted connection := by
  have hSame := h.connection
  have hFree := h.free
  rw [hConnection] at hSame
  cases line with
  | greeted other => rw [Option.some.inj hSame]
  | opened other => exact absurd (h.opened.mp rfl) hPhase
  | idle => cases hSame
  | announced => cases hFree
  | asked => cases hFree

end Line.Fits

/-- The log of a turn is a conversation from this line to where the channel stands now. -/
def Turn.Converses (host : Host) (supported : DirectionMap) (line : Line) (t : Turn) : Prop :=
  ∃ now, Conversation supported (host.Made supported) line t.log now ∧ now.Fits t.channel

namespace Turn

variable {host : Host} {supported : DirectionMap} {line : Line} {t u : Turn}

/-- Something else occurs, and the connection is left alone. -/
theorem Converses.asides (h : t.Converses host supported line) (more : List Occurrence)
    (hMore : ∀ o ∈ more, o.isSpoken = false) (hLog : u.log = t.log ++ more)
    (hConnection : u.channel.connection = t.channel.connection)
    (hLast : t.channel.lastId ≤ u.channel.lastId) (hPhase : u.channel.phase = t.channel.phase) :
    u.Converses host supported line := by
  obtain ⟨now, hNow, hFits⟩ := h
  refine ⟨now, ?_, hFits.free, ?_, Nat.le_trans hFits.last hLast, ?_⟩
  · rw [hLog]
    exact hNow.append (.asides hFits.free hMore)
  · rw [hConnection, hFits.connection]
  · rw [hPhase]
    exact hFits.opened

theorem Converses.aside (h : t.Converses host supported line) {o : Occurrence}
    (ho : o.isSpoken = false) : (t.note o).Converses host supported line :=
  h.asides [_] (by simpa using ho) rfl rfl (Nat.le_refl _) rfl

/-- Nothing occurs that the line depends on. -/
theorem Converses.of_eq (h : t.Converses host supported line) (hLog : u.log = t.log)
    (hConnection : u.channel.connection = t.channel.connection)
    (hLast : u.channel.lastId = t.channel.lastId) (hPhase : u.channel.phase = t.channel.phase) :
    u.Converses host supported line :=
  h.asides [] (by simp) (by rw [hLog, List.append_nil]) hConnection
    (Nat.le_of_eq hLast.symm) hPhase

theorem isSpoken_of_isDelivery {o : Occurrence} (h : o.isDelivery = true) :
    o.isSpoken = false := by
  cases o <;> first | rfl | cases h

theorem converses_deliver (h : t.Converses host supported line) (payload : Bytes) :
    (t.deliver host payload).Converses host supported line :=
  deliver_induction host payload h fun _ _ ho hConverses =>
    hConverses.aside (isSpoken_of_isDelivery ho)

theorem converses_pinged (h : t.Converses host supported line) {connection size : Nat}
    (hConnection : t.channel.connection = some connection) :
    ((t.countSent host.now size).note (.sent connection .pingReq)).Converses host supported
      line := by
  obtain ⟨now, hLog, hFits⟩ := h
  have hStep : now.Step supported (host.Made supported) (.sent connection .pingReq) now := by
    by_cases hPhase : t.channel.phase = .opened
    · rw [hFits.eq_opened hConnection hPhase]
      exact .ping connection
    · rw [hFits.eq_greeted hConnection hPhase]
      exact .early connection
  exact ⟨now, hLog.append (.single hStep), hFits.free, hFits.connection, hFits.last, hFits.opened⟩

theorem converses_synced (h : t.Converses host supported line) {directions : DirectionMap}
    (hPhase : t.channel.phase = .opened) (hSynced : Synced host directions t u)
    (hSmooth : Smooth u.log) : u.Converses host supported line := by
  cases hSynced with
  | undue => exact h
  | dropped => cases hSmooth.right _ (List.mem_singleton_self _)
  | @sent connection session request nonce _ hConnection =>
    obtain ⟨now, hLog, hFits⟩ := h.aside (o := .compiled directions) rfl
    obtain rfl := hFits.eq_opened hConnection hPhase
    have hStep : (Line.opened connection).Step supported (host.Made supported)
        (.sent connection (session.requestFrame host.suite nonce request)) (.opened connection) :=
      .sync connection (.encrypted (session.encrypt host.suite nonce request))
    exact ⟨.opened connection, hLog.append (.single hStep), rfl, hFits.connection, hFits.last,
      hFits.opened⟩

theorem canSync_opened (h : t.channel.Equipped) (hDemultiplexer : t.channel.hasDemultiplexer = true)
    (payload? : Option Bytes) (server : Server) :
    canSync (t.opened host payload? server).channel = true := by
  simp [canSync, channel_opened, h.multiplexer, hDemultiplexer, h.server, h.connection]

theorem log_opened (host : Host) (t : Turn) (payload? : Option Bytes) (server : Server) :
    ∃ more, (∀ o ∈ more, o.isSpoken = false) ∧
      (t.opened host payload? server).log = t.log ++ more ++ [.serverConnected server] := by
  cases payload? with
  | none => exact ⟨[], by simp, by simp [opened]⟩
  | some payload =>
    obtain ⟨handed, hLog, hHanded⟩ := log_deliver host (t.setPhase .opened) payload
    refine ⟨handed, fun o ho => isSpoken_of_isDelivery (hHanded o ho), ?_⟩
    rw [opened, Option.elim_some, log_note, hLog, log_setPhase]

/-- The failover is told and the first request goes out, both at once. -/
theorem converses_opened (h : t.Converses host supported line) (hEquipped : t.channel.Equipped)
    (hSupported : t.channel.supported = supported)
    (hDemultiplexer : t.channel.hasDemultiplexer = true) (hPhase : t.channel.phase = .connecting)
    {payload? : Option Bytes} {server : Server}
    (hSynced : Synced host t.channel.supported (t.opened host payload? server) u)
    (hSmooth : Smooth u.log) : u.Converses host supported line := by
  subst hSupported
  cases hSynced with
  | undue hUndue =>
    rw [canSync_opened hEquipped hDemultiplexer] at hUndue
    cases hUndue
  | dropped => cases hSmooth.right _ (List.mem_singleton_self _)
  | @sent connection session request nonce _ hConnection _ hRequest =>
    rw [channel_opened] at hConnection
    obtain ⟨now, hLog, hFits⟩ := h
    obtain rfl := hFits.eq_greeted hConnection (by simp [hPhase])
    obtain ⟨more, hMore, hOpened⟩ := t.log_opened host payload? server
    have hFirst : Conversation t.channel.supported (host.Made t.channel.supported)
        (.greeted connection) [.serverConnected server, .compiled t.channel.supported,
          .sent connection (session.requestFrame host.suite nonce request)] (.opened connection) :=
      .cons (.announce connection server) (.cons (.ask connection)
        (.single (.first connection ⟨_, session, nonce, request, hRequest, rfl⟩)))
    refine ⟨.opened connection, ?_, rfl, ?_, ?_, ?_⟩
    · have hAll := (hLog.append (.asides rfl hMore)).append hFirst
      simpa [hOpened, countSent] using hAll
    · simp only [channel_note, countSent, channel_update, channel_opened]
      exact hFits.connection
    · simp only [channel_note, countSent, channel_update, channel_opened]
      exact hFits.last
    · simp [countSent, channel_opened, Line.isOpened]

theorem converses_move (h : t.Converses host supported line) (hEquipped : t.channel.Equipped)
    (hSupported : t.channel.supported = supported)
    (hDemultiplexer : t.channel.hasDemultiplexer = true) (hMove : Move host t u)
    (hSmooth : Smooth u.log) : u.Converses host supported line := by
  cases hMove with
  | counted => exact h.of_eq rfl rfl rfl rfl
  | received => exact h.of_eq rfl rfl rfl rfl
  | named => exact h.aside rfl
  | delivered payload => exact converses_deliver h payload
  | ponged => exact h.of_eq rfl rfl rfl rfl
  | pinged hConnection => exact (converses_pinged h hConnection).of_eq rfl rfl rfl rfl
  | synced hPhase hSynced => exact converses_synced h hPhase hSynced hSmooth
  | opened hPhase _ hSynced =>
    exact converses_opened h hEquipped hSupported hDemultiplexer hPhase hSynced hSmooth

theorem log_of_moves (hConnected : t.channel.phase.isConnected = true) (h : Moves host t u) :
    ∃ more, u.log = t.log ++ more := by
  obtain ⟨more, hLog, _⟩ := (Kept.of_moves hConnected h).log
  exact ⟨more, hLog⟩

theorem converses_moves (h : t.Converses host supported line) (hEquipped : t.channel.Equipped)
    (hSupported : t.channel.supported = supported)
    (hDemultiplexer : t.channel.hasDemultiplexer = true) (hMoves : Moves host t u)
    (hSmooth : Smooth u.log) : u.Converses host supported line := by
  induction hMoves with
  | refl => exact h
  | @tail before after hMoves hMove ih =>
    have hBefore := equipped_of_moves hEquipped hMoves
    obtain ⟨_, _, _, _, hSame⟩ := channel_of_moves hEquipped.connected hMoves
    obtain ⟨more, hLog⟩ := log_of_moves hBefore.connected (.single hMove)
    have hSmoothBefore : Smooth before.log := by
      rw [hLog] at hSmooth
      exact hSmooth.left
    refine converses_move (ih hSmoothBefore) hBefore ?_ ?_ hMove hSmooth
    · rw [hSame]
      exact hSupported
    · rw [hSame]
      exact hDemultiplexer

theorem conversation_parting {made : SyncBody → Prop} {now : Line} (hFree : now.isFree = true)
    {log : List Occurrence} (hSmooth : Smooth (Occurrence.parting host log now.connection)) :
    Conversation supported made now (Occurrence.parting host log now.connection)
      (.idle now.last) := by
  unfold Occurrence.parting at hSmooth ⊢
  cases hWrite : host.write log farewell with
  | ok =>
    cases now with
    | idle last => exact .nil _
    | greeted connection => exact .cons (.unopened connection) (.single (.aside rfl rfl))
    | opened connection => exact .cons (.farewell connection) (.single (.aside rfl rfl))
    | announced => cases hFree
    | asked => cases hFree
  | error =>
    rw [hWrite] at hSmooth
    cases now with
    | idle last => exact .nil _
    | _ => cases hSmooth _ (List.mem_cons_self ..)

theorem phase_idle_ne_opened (c : Channel) (farewells : Nat) :
    (c.idle farewells).phase ≠ .opened := by
  intro hOpened
  have hConnected := Channel.Settled.isConnected_idle c farewells
  rw [hOpened] at hConnected
  cases hConnected

/-- However the phase has been set before. -/
theorem converses_teardown {now : Line}
    (hLog : Conversation supported (host.Made supported) line t.log now)
    (hFree : now.isFree = true) (hConnection : now.connection = t.channel.connection)
    (hLast : now.last ≤ t.channel.lastId) (hSmooth : Smooth (t.teardown host).log) :
    (t.teardown host).Converses host supported line := by
  rw [teardown_eq] at hSmooth ⊢
  simp only [logAtClosing, ← hConnection] at hSmooth ⊢
  have hCancelling : ∀ o ∈ Occurrence.cancelling t.channel.reconnect, o.isSpoken = false := by
    cases t.channel.reconnect <;> simp [Occurrence.cancelling, Occurrence.isSpoken]
  have hParting : Conversation supported (host.Made supported) now _ (.idle now.last) :=
    conversation_parting hFree hSmooth.right
  exact ⟨.idle now.last, (hLog.append (.asides hFree hCancelling)).append hParting,
    .idle rfl (phase_idle_ne_opened _ _) hLast⟩

theorem isSpoken_of_isNotice {o : Occurrence} (h : o.isNotice = true) : o.isSpoken = false := by
  cases o <;> first | rfl | cases h

theorem converses_failServer {now : Line}
    (hLog : Conversation supported (host.Made supported) line t.log now)
    (hFree : now.isFree = true) (hConnection : now.connection = t.channel.connection)
    (hLast : now.last ≤ t.channel.lastId) (hSmooth : Smooth (t.failServer host).log) :
    (t.failServer host).Converses host supported line := by
  obtain ⟨more, hMore, hNotices⟩ := t.log_failServer host
  obtain ⟨farewells, _, _, hGrown, hChannel⟩ := t.channel_failServer host
  rw [hMore] at hSmooth
  obtain ⟨idle, hDown, hFits⟩ := converses_teardown hLog hFree hConnection hLast hSmooth.left
  obtain ⟨last, rfl, hLast⟩ := hFits.eq_idle (connection_teardown host t)
  rw [lastId_teardown] at hLast
  refine ⟨.idle last, ?_, ?_⟩
  · rw [hMore]
    exact hDown.append (.asides rfl fun o ho => isSpoken_of_isNotice (hNotices o ho))
  · rw [hChannel]
    exact .idle rfl (phase_idle_ne_opened _ farewells) (Nat.le_trans hLast hGrown)

theorem isSpoken_of_failure {symptoms : List Occurrence} {cause : Occurrence}
    (hSymptoms : Symptoms cause symptoms) (hFailure : cause.isFailure = true) :
    ∀ o ∈ symptoms ++ cause :: cause.cleaning, o.isSpoken = false := by
  intro o ho
  rcases hSymptoms.mem_cases hFailure ho with hFailed | rfl | ⟨_, _, rfl⟩
  · cases o <;> first | rfl | cases hFailed
  · rfl
  · rfl

theorem converses_failFor {now : Line} {symptoms : List Occurrence} {cause : Occurrence}
    (hSymptoms : Symptoms cause symptoms) (hFailure : cause.isFailure = true)
    (hLog : Conversation supported (host.Made supported) line t.log now)
    (hFree : now.isFree = true) (hConnection : now.connection = t.channel.connection)
    (hLast : now.last ≤ t.channel.lastId) (hSmooth : Smooth (t.failFor host symptoms cause).log) :
    (t.failFor host symptoms cause).Converses host supported line :=
  converses_failServer (t := t.noteAll (symptoms ++ cause :: cause.cleaning))
    (hLog.append (.asides hFree (isSpoken_of_failure hSymptoms hFailure))) hFree hConnection hLast
    hSmooth

/-- What is done before a failure is reported is in the log. -/
theorem smooth_of_failFor {symptoms : List Occurrence} {cause : Occurrence}
    (h : Smooth (t.failFor host symptoms cause).log) : Smooth t.log ∧ Smooth symptoms := by
  obtain ⟨more, hMore, _⟩ := log_failServer host (t.noteAll (symptoms ++ cause :: cause.cleaning))
  obtain ⟨parting, hParting, _⟩ :=
    Orderly.teardown host (t.noteAll (symptoms ++ cause :: cause.cleaning))
  rw [failFor, hMore, hParting] at h
  exact ⟨h.left.left.left, h.left.left.right.left⟩

end Turn

/-- A failure of a write shows. -/
theorem Broken.before_eq {host : Host} {connection : Nat} {t before : Turn}
    {symptoms : List Occurrence} {cause : Occurrence}
    (h : Broken host connection t before symptoms cause) (hSmooth : Smooth symptoms) :
    before = t := by
  cases h with
  | ping | sync | opening => cases hSmooth _ (List.mem_singleton_self _)
  | _ => rfl

theorem Course.converses {host : Host} {connection : Nat} {supported : DirectionMap} {line : Line}
    {t u : Turn} (h : Course host connection t u) (ht : t.Converses host supported line)
    (hEquipped : t.channel.Equipped) (hSupported : t.channel.supported = supported)
    (hDemultiplexer : t.channel.hasDemultiplexer = true) (hSmooth : Smooth u.log) :
    u.Converses host supported line := by
  cases h with
  | kept hMoves =>
    exact Turn.converses_moves ht hEquipped hSupported hDemultiplexer hMoves hSmooth
  | failed hMoves hBroken =>
    obtain ⟨hSmoothBefore, hSmoothSymptoms⟩ := Turn.smooth_of_failFor hSmooth
    obtain ⟨hSymptoms, hFailure, _⟩ := hBroken.symptoms
    obtain rfl := hBroken.before_eq hSmoothSymptoms
    obtain ⟨now, hLog, hFits⟩ :=
      Turn.converses_moves ht hEquipped hSupported hDemultiplexer hMoves hSmoothBefore
    exact Turn.converses_failFor hSymptoms hFailure hLog hFits.free hFits.connection hFits.last
      hSmooth
  | @left u hMoves =>
    obtain ⟨parting, hParting, _⟩ :=
      Orderly.teardown host (u.note (.disconnected connection .graceful))
    have hSmoothBefore : Smooth u.log := by
      rw [hParting] at hSmooth
      exact hSmooth.left.left
    obtain ⟨now, hLog, hFits⟩ :=
      Turn.converses_moves ht hEquipped hSupported hDemultiplexer hMoves hSmoothBefore
    refine Turn.converses_teardown (hLog.append (.single (.aside hFits.free rfl))) hFits.free
      hFits.connection hFits.last hSmooth

theorem Occurrence.isSpoken_of_isPrelude {o : Occurrence} (h : o.isPrelude = true) :
    o.isSpoken = false := by
  cases o <;> first | rfl | cases h

namespace Channel

variable {c : Channel} {host : Host} {line : Line}

theorem converses_retargeted {server : Server} (hFits : line.Fits c)
    (hSmooth : Smooth (((Turn.keyed host c server).teardown host).withTimer .zero).log) :
    (((Turn.keyed host c server).teardown host).withTimer .zero).Converses host c.supported
      line := by
  obtain ⟨session, more, hKeyed, hMore⟩ := Turn.keyed_eq host c server
  rw [hKeyed] at hSmooth ⊢
  have hPrelude : Conversation c.supported (host.Made c.supported) line more line :=
    .asides hFits.free fun o ho => Occurrence.isSpoken_of_isPrelude (hMore o ho)
  have hDown := Turn.converses_teardown hPrelude hFits.free hFits.connection hFits.last hSmooth.left
  exact hDown.asides [_] (by simp [Occurrence.isSpoken]) rfl rfl (Nat.le_succ _) rfl

theorem converses_begun {after : Turn} (hFits : line.Fits c) (hConnection : c.connection = none)
    (h : Begun host { channel := { c with attempt := none } } (after, .ok ())) :
    after.Converses host c.supported line := by
  obtain ⟨last, rfl, hLast⟩ := hFits.eq_idle hConnection
  cases h with
  | @live session connect bytes =>
    have hConnect : (Line.idle last).Step c.supported (host.Made c.supported)
        (.sent (c.lastId + 1) (.connect connect)) (.greeted (c.lastId + 1)) :=
      .connect connect (Nat.lt_succ_of_le hLast)
    refine ⟨.greeted (c.lastId + 1), ?_, rfl, rfl, Nat.le_refl _, ?_⟩
    · have hStarted : Conversation c.supported (host.Made c.supported) (.greeted (c.lastId + 1))
          [.started (c.lastId + 1)] (.greeted (c.lastId + 1)) := .single (.aside rfl rfl)
      exact .cons (.aside rfl rfl) (.cons (.aside rfl rfl) (.cons hConnect hStarted))
    · simp [Turn.greeted, Line.isOpened]

theorem converses_stuck {attempt : Nat} {before : Turn} {error : ChannelError}
    (hFits : line.Fits c)
    (h : Begun host { channel := { c with attempt := none } } (before, .error error))
    (hSmooth : Smooth (before.failFor host [] (.sessionFailed attempt error)).log) :
    (before.failFor host [] (.sessionFailed attempt error)).Converses host c.supported line := by
  cases h with
  | unready _ hBefore hMore =>
    subst hBefore
    refine Turn.converses_failFor (.none _) rfl (.asides hFits.free ?_) hFits.free hFits.connection
      hFits.last hSmooth
    intro o ho
    exact Occurrence.isSpoken_of_isPrelude (hMore o ho)
  | unsent =>
    obtain ⟨hBefore, _⟩ := Turn.smooth_of_failFor hSmooth
    cases hBefore.right _ (List.mem_singleton_self _)

/-- Every command continues the conversation. -/
theorem Settled.converses_of_deed (h : c.Settled) (hFits : line.Fits c)
    (hServed : c.server.isSome = true → c.hasDemultiplexer = true) {command : Command}
    {after : Turn} (hDeed : Deed host c command after) (hSmooth : Smooth after.log) :
    after.Converses host c.supported line := by
  have hStart : Turn.Converses host c.supported line { channel := c } := ⟨line, .nil line, hFits⟩
  cases hDeed with
  | nothing | boundMultiplexer | boundDemultiplexer | boundChecker | redescribed | unaimed =>
    exact hStart.of_eq rfl rfl rfl rfl
  | rekeyed =>
    obtain ⟨session, more, hKeyed, hMore⟩ := Turn.keyed_eq host c _
    rw [hKeyed]
    refine hStart.asides more ?_ rfl rfl (Nat.le_refl _) rfl
    intro o ho
    exact Occurrence.isSpoken_of_isPrelude (hMore o ho)
  | retargeted => exact converses_retargeted hFits hSmooth
  | suspended | stopped =>
    exact Turn.converses_teardown (.nil line) hFits.free hFits.connection hFits.last hSmooth
  | resumed hPhase =>
    have hConnection := h.connection_eq_none (by rw [hPhase]; rfl)
    obtain ⟨last, rfl, hLast⟩ := hFits.eq_idle hConnection
    refine ⟨.idle last, .single (.aside rfl rfl), .idle hConnection ?_ (Nat.le_succ_of_le hLast)⟩
    exact Phase.noConfusion
  | dialed =>
    refine hStart.asides [_] ?_ rfl rfl (Nat.le_succ _) rfl
    simp [Occurrence.isSpoken]
  | unreached =>
    exact Turn.converses_failFor (.none _) rfl (.nil line) hFits.free hFits.connection hFits.last
      hSmooth
  | begun hAttempt hBegun =>
    have hClosed := h.waiting (.inl (Option.isSome_of_eq_some hAttempt))
    exact converses_begun hFits (h.connection_eq_none (by rw [hClosed]; rfl)) hBegun
  | stuck _ hBegun => exact converses_stuck hFits hBegun hSmooth
  | live _ hConnection hCourse =>
    have hEquipped := h.equipped (Option.isSome_of_eq_some hConnection)
    exact hCourse.converses hStart hEquipped rfl (hServed hEquipped.server) hSmooth

end Channel

end DeviceUplink
