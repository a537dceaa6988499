import DeviceUplink.Proofs.Channel.Tidings

/-!
# The ping that waits

A channel has one place for the ping that waits, and all its connections share it. Whatever ends a
connection empties the place, and nothing but a ping that got out fills it: `Turn.Calm` is what
every operation does that neither sends a ping nor takes in an answer.
-/

namespace DeviceUplink

def Occurrence.pinged? : Occurrence → Option Nat
  | sent connection .pingReq => some connection
  | _ => none

def pinged (log : List Occurrence) : List Nat :=
  log.filterMap Occurrence.pinged?

theorem pinged_append (log more : List Occurrence) :
    pinged (log ++ more) = pinged log ++ pinged more :=
  List.filterMap_append

theorem pinged_eq_nil {log : List Occurrence} (h : ∀ o ∈ log, o.pinged? = none) :
    pinged log = [] :=
  List.filterMap_eq_nil_iff.mpr h

namespace Occurrence

theorem pinged?_of_isPrelude {o : Occurrence} (h : o.isPrelude = true) : o.pinged? = none := by
  cases o <;> first | rfl | cases h

theorem pinged?_of_isFailure {o : Occurrence} (h : o.isFailure = true) : o.pinged? = none := by
  cases o <;> first | rfl | cases h

theorem pinged?_of_isDelivery {o : Occurrence} (h : o.isDelivery = true) : o.pinged? = none := by
  cases o <;> first | rfl | cases h

theorem pinged?_of_isEnding {o : Occurrence} (h : o.isEnding = true) : o.pinged? = none := by
  obtain ⟨_, rfl | rfl | rfl | rfl⟩ := eq_of_isEnding h <;> rfl

end Occurrence

/-- A turn goes on to another without a ping and without an answer. Either the connection is as it
was and waits for what it has waited for, or it is gone and nothing waits. -/
structure Turn.Calm (t u : Turn) : Prop where
  pinged : pinged u.log = pinged t.log
  last : u.channel.roundTrip.last = t.channel.roundTrip.last
  shown : u.channel.statistics.lastRoundTrip = t.channel.statistics.lastRoundTrip
  lastId : t.channel.lastId ≤ u.channel.lastId
  outstanding : u.channel.connection = t.channel.connection ∧
      u.channel.roundTrip.outstanding = t.channel.roundTrip.outstanding ∨
    u.channel.connection = none ∧ u.channel.roundTrip.outstanding = none

namespace Turn.Calm

variable {host : Host} {t u v : Turn}

theorem of_asides {more : List Occurrence} (hMore : ∀ o ∈ more, o.pinged? = none)
    (hLog : u.log = t.log ++ more) (hConnection : u.channel.connection = t.channel.connection)
    (hRoundTrip : u.channel.roundTrip = t.channel.roundTrip)
    (hShown : u.channel.statistics.lastRoundTrip = t.channel.statistics.lastRoundTrip)
    (hLast : t.channel.lastId ≤ u.channel.lastId) : t.Calm u where
  pinged := by rw [hLog, pinged_append, pinged_eq_nil hMore, List.append_nil]
  last := by rw [hRoundTrip]
  shown := hShown
  lastId := hLast
  outstanding := .inl ⟨hConnection, by rw [hRoundTrip]⟩

theorem of_same (hLog : u.log = t.log) (hConnection : u.channel.connection = t.channel.connection)
    (hRoundTrip : u.channel.roundTrip = t.channel.roundTrip)
    (hShown : u.channel.statistics.lastRoundTrip = t.channel.statistics.lastRoundTrip)
    (hLast : u.channel.lastId = t.channel.lastId) : t.Calm u :=
  of_asides (List.forall_mem_nil _) (by rw [hLog, List.append_nil]) hConnection hRoundTrip hShown
    (Nat.le_of_eq hLast.symm)

theorem refl (t : Turn) : t.Calm t :=
  of_same rfl rfl rfl rfl rfl

theorem trans (h : t.Calm u) (h' : u.Calm v) : t.Calm v where
  pinged := h'.pinged.trans h.pinged
  last := h'.last.trans h.last
  shown := h'.shown.trans h.shown
  lastId := Nat.le_trans h.lastId h'.lastId
  outstanding := by
    rcases h'.outstanding with ⟨hConnection, hOutstanding⟩ | hGone
    · rw [hConnection, hOutstanding]
      exact h.outstanding
    · exact .inr hGone

theorem note {o : Occurrence} (h : o.pinged? = none) (t : Turn) : t.Calm (t.note o) :=
  of_asides (by simpa using h) rfl rfl rfl rfl (Nat.le_refl _)

theorem teardown (host : Host) (t : Turn) : t.Calm (t.teardown host) := by
  obtain ⟨endings, hLog, hEndings⟩ := t.log_teardown host
  obtain ⟨farewells, hChannel⟩ := t.channel_teardown host
  have hPinged := pinged_eq_nil fun o ho => Occurrence.pinged?_of_isEnding (hEndings o ho)
  refine ⟨?_, ?_, ?_, ?_, .inr ?_⟩
  · rw [hLog, pinged_append, hPinged, List.append_nil]
  all_goals
    rw [hChannel]
  · rfl
  · rfl
  · exact Nat.le_refl _
  · exact ⟨rfl, rfl⟩

theorem withTimer (t : Turn) (delay : Duration) : t.Calm (t.withTimer delay) :=
  of_asides (by simp [Occurrence.pinged?]) rfl rfl rfl rfl (Nat.le_succ _)

theorem reported (h : Reported host t u) : t.Calm u := by
  cases h with
  | nobody => exact refl t
  | server => exact note rfl t
  | noop => exact note rfl t
  | retry => exact (note rfl t).trans (withTimer _ _)
  | stop => exact (note rfl t).trans (note rfl _)

theorem failFor {symptoms : List Occurrence} {cause : Occurrence}
    (hSymptoms : Symptoms cause symptoms) (hFailure : cause.isFailure = true) (host : Host)
    (t : Turn) : t.Calm (t.failFor host symptoms cause) := by
  have hFound : t.Calm (t.noteAll (symptoms ++ cause :: cause.cleaning)) := by
    refine of_asides ?_ rfl rfl rfl rfl (Nat.le_refl _)
    intro o ho
    rcases hSymptoms.mem_cases hFailure ho with hFailed | rfl | ⟨_, _, rfl⟩
    · exact Occurrence.pinged?_of_isFailure hFailed
    · rfl
    · rfl
  exact (hFound.trans (teardown host _)).trans (reported (reported_failServer host _))

theorem ended_failFor (host : Host) (t : Turn) (symptoms : List Occurrence) (cause : Occurrence) :
    let after := t.failFor host symptoms cause
    after.channel.connection = none ∧ after.channel.roundTrip.outstanding = none := by
  obtain ⟨_, _, _, _, hChannel⟩ :=
    (t.noteAll (symptoms ++ cause :: cause.cleaning)).channel_failServer host
  simp only [Turn.failFor, hChannel]
  exact ⟨rfl, rfl⟩

theorem of_prelude {more : List Occurrence} (hMore : ∀ o ∈ more, o.isPrelude = true)
    (session : Option CryptoSession) (t : Turn) :
    t.Calm { channel := { t.channel with session }, log := t.log ++ more } :=
  of_asides (fun o ho => Occurrence.pinged?_of_isPrelude (hMore o ho)) rfl rfl rfl rfl
    (Nat.le_refl _)

theorem stuck {before : Turn} {error : ChannelError} (h : Begun host t (before, .error error))
    (attempt : Nat) : t.Calm (before.failFor host [] (.sessionFailed attempt error)) := by
  cases h with
  | unready _ hBefore hMore =>
    subst hBefore
    exact (of_prelude hMore _ t).trans (failFor (.none _) rfl host _)
  | unsent session connect =>
    -- There is a connection for a moment, with nothing to wait for, so `trans` does not apply.
    rw [failFor_noteAll]
    have hFailed := failFor (.connect (t.channel.lastId + 1) attempt connect error) rfl host
      (t.ungreeted session)
    have hPinged : DeviceUplink.pinged (t.ungreeted session).log = DeviceUplink.pinged t.log := by
      simp [ungreeted, DeviceUplink.pinged, Occurrence.pinged?]
    exact
      { pinged := hFailed.pinged.trans hPinged
        last := hFailed.last
        shown := hFailed.shown
        lastId := Nat.le_trans (Nat.le_succ _) hFailed.lastId
        outstanding := .inr (ended_failFor host _ _ _) }

theorem deliver (host : Host) (t : Turn) (payload : Bytes) : t.Calm (t.deliver host payload) :=
  deliver_induction host payload (refl t) fun u _ ho h =>
    h.trans (note (Occurrence.pinged?_of_isDelivery ho) u)

theorem opened (host : Host) (t : Turn) (payload? : Option Bytes) (server : Server) :
    t.Calm (t.opened host payload? server) := by
  have hOpened : t.Calm (t.setPhase .opened) := of_same rfl rfl rfl rfl rfl
  cases payload? with
  | none => exact hOpened.trans (note rfl _)
  | some payload => exact (hOpened.trans (deliver host _ payload)).trans (note rfl _)

theorem synced {directions : DirectionMap} (h : Synced host directions t u) : t.Calm u := by
  cases h with
  | undue => exact refl t
  | dropped => exact (note rfl t).trans (note rfl _)
  | sent =>
    exact of_asides (by simp [Occurrence.pinged?, CryptoSession.requestFrame])
      (List.append_assoc _ _ _) rfl rfl rfl (Nat.le_refl _)

theorem named (t : Turn) (transports : List Transport) :
    t.Calm (transports.foldl (fun t u => t.note (.unsupported u)) t) := by
  induction transports generalizing t with
  | nil => exact refl t
  | cons transport rest ih => exact (note rfl t).trans (ih (t.note (.unsupported transport)))

section Live

variable (host) (h : t.channel.Equipped) {connection : Nat}
  (hConnection : t.channel.connection = some connection)

include h

theorem connectionLost {symptoms : List Occurrence} {cause : Occurrence}
    (hSymptoms : Symptoms cause symptoms) (hFailure : cause.isFailure = true)
    (hClean : cause.cleaning = []) :
    t.Calm (((t.noteAll symptoms).note cause).input host .connectionLost) := by
  rw [input_connectionLost host (by exact h.connected), failServer_noteAll_note host t _ hClean]
  exact failFor hSymptoms hFailure host t

include hConnection

theorem sendSync (directions : DirectionMap) : t.Calm (t.sendSync host directions) := by
  rcases synced_sendSync host h hConnection directions with hSynced | ⟨body, error, _, hFailed⟩
  · exact synced hSynced
  · rw [hFailed]
    exact (note rfl t).trans (failFor (.sync connection body error) rfl host _)

theorem sync (requested : TransportSet) : t.Calm (t.sync host requested) := by
  unfold Turn.sync
  split
  · have hNamed := channel_named t (t.channel.supported.missing requested)
    refine (named t _).trans (sendSync host (by rwa [hNamed]) (by rw [hNamed, hConnection]) _)
  · exact refl t

theorem syncAll : t.Calm (t.syncAll host) := by
  unfold Turn.syncAll
  split
  · exact sendSync host h hConnection _
  · exact refl t

theorem opening (payload? : Option Bytes) :
    t.Calm (((payload?.elim (t.setPhase .opened) ((t.setPhase .opened).deliver host)).perform host
      .notifyConnected).syncAll host) := by
  obtain ⟨server, _, hSynced | ⟨body, error, _, hFailed⟩⟩ :=
    synced_open host h hConnection payload?
  · exact (opened host t payload? server).trans (synced hSynced)
  · rw [hFailed]
    exact ((opened host t payload? server).trans (note rfl _)).trans
      (failFor (.sync connection body error) rfl host _)

theorem response (payload : Bytes) : t.Calm (t.input host (.response payload)) := by
  simp only [input, Phase.step, h.connected, if_true]
  rcases isConnected_cases h.connected with hPhase | hPhase
  · simp only [hPhase, if_true, List.foldl_cons, List.foldl_nil, perform]
    exact opening host h hConnection (some payload)
  · simp only [hPhase, reduceCtorEq, if_false, List.foldl_cons, List.foldl_nil, perform]
    rw [setPhase_self hPhase]
    exact deliver host t payload

theorem syncAck (transports : TransportSet) : t.Calm (t.input host (.syncAck transports)) := by
  simp only [input, Phase.step, h.connected, if_true]
  rcases isConnected_cases h.connected with hPhase | hPhase
  · simp only [hPhase, if_true, List.foldl_cons, List.foldl_nil, perform]
    exact opening host h hConnection none
  · simp only [hPhase, reduceCtorEq, if_false]
    split
    all_goals
      simp only [List.foldl_cons, List.foldl_nil, perform]
      rw [setPhase_self hPhase]
    · exact sync host h hConnection transports
    · exact syncAll host h hConnection

theorem receive {frame : Frame} (hFrame : frame ≠ .pingResp) :
    t.Calm (t.receive host connection frame) := by
  have hCounted : t.Calm (t.countReceived host.now) := of_same rfl rfl rfl rfl rfl
  have hEquipped := equipped_countReceived h host.now
  have hSame : (t.countReceived host.now).channel.connection = some connection := hConnection
  refine hCounted.trans ?_
  simp only [Turn.receive]
  generalize t.countReceived host.now = counted at hEquipped hSame ⊢
  cases frame with
  | connAck code =>
    simp only [inputOfFrame, notePart]
    split
    · next hCode =>
      subst hCode
      rw [input_accepted host hEquipped.connected]
      exact refl counted
    · next hCode =>
      rw [input_refused host hEquipped.connected hCode]
      exact failFor (.none _) rfl host counted
  | syncResponse body =>
    simp only [inputOfFrame]
    cases openPayload host.suite counted.channel.session body with
    | none => exact refl counted
    | some payload => exact response host hEquipped hSame payload
  | pingResp => exact absurd rfl hFrame
  | disconnect reason =>
    simp only [inputOfFrame, notePart]
    by_cases hReason : reason = .graceful
    · subst hReason
      rw [input_graceful host (by exact hEquipped.connected)]
      exact (note rfl counted).trans (teardown host _)
    · rw [input_disconnect host (by exact hEquipped.connected) hReason,
        failServer_note host counted rfl]
      exact failFor (.none _) (by simpa [Occurrence.isFailure] using hReason) host counted
  | connect | syncRequest | pingReq => exact refl counted

end Live

end Turn.Calm

end DeviceUplink
