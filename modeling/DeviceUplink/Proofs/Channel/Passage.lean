import DeviceUplink.Proofs.Channel.Course

/-!
# What becomes of a live connection

An operation on a live connection keeps it, or fails it, or lets it go. `Passage` says so for every
such operation, and says also what the log gains meanwhile: nothing but orderly occurrences up to
the one that ends the connection.
-/

namespace DeviceUplink

namespace Occurrence

/-- An attempt or a connection cannot go on. -/
def isFailure : Occurrence → Bool
  | dialFailed _ _ | sessionFailed _ _ | readFailed _ _ | pingFailed _ _ | syncFailed _
  | refused _ _ => true
  | disconnected _ reason => reason ≠ .graceful
  | _ => false

def isReport : Occurrence → Bool
  | asked _ _ | serverFailed _ => true
  | _ => false

/-- Nothing but a failure brings this about. -/
def isAftermath : Occurrence → Bool
  | identityCleaned | fatal _ => true
  | o => o.isReport

def isUnequipped : Occurrence → Bool
  | syncDropped (.multiplexer _) => false
  | syncDropped _ => true
  | syncFailed error => error = .notConnected
  | _ => false

def isDial : Occurrence → Bool
  | dialed _ _ => true
  | _ => false

def isLeave : Occurrence → Bool
  | disconnected _ reason => reason = .graceful
  | _ => false

def isUnsent : Occurrence → Bool
  | sendFailed _ frame => frame ≠ Turn.farewell
  | _ => false

def isOrderly (o : Occurrence) : Bool :=
  !o.isFailure && !o.isAftermath && !o.isUnequipped && !o.isDial && !o.isLeave && !o.isUnsent

theorem isOrderly_iff {o : Occurrence} :
    o.isOrderly = true ↔
      o.isFailure = false ∧ o.isAftermath = false ∧ o.isUnequipped = false ∧ o.isDial = false ∧
        o.isLeave = false ∧ o.isUnsent = false := by
  simp [isOrderly, and_assoc]

theorem isOrderly_of_isDelivery {o : Occurrence} (h : o.isDelivery = true) :
    o.isOrderly = true := by
  cases o <;> first | rfl | cases h

theorem isOrderly_of_isEnding {o : Occurrence} (h : o.isEnding = true) : o.isOrderly = true := by
  obtain ⟨_, rfl | rfl | rfl | rfl⟩ := eq_of_isEnding h <;> rfl

end Occurrence

def Orderly (log : List Occurrence) : Prop :=
  ∀ o ∈ log, o.isOrderly = true

namespace Orderly

theorem nil : Orderly [] := by
  intro o ho
  cases ho

theorem append {log more : List Occurrence} (h : Orderly log) (hMore : Orderly more) :
    Orderly (log ++ more) := by
  intro o ho
  rcases List.mem_append.mp ho with ho | ho
  · exact h o ho
  · exact hMore o ho

theorem singleton {o : Occurrence} (h : o.isOrderly = true) : Orderly [o] := by
  intro other hOther
  rwa [List.mem_singleton.mp hOther]

theorem of_endings {log : List Occurrence} (h : ∀ o ∈ log, o.isEnding = true) : Orderly log :=
  fun o ho => Occurrence.isOrderly_of_isEnding (h o ho)

theorem teardown (host : Host) (t : Turn) :
    ∃ parting, (t.teardown host).log = t.log ++ parting ∧ Orderly parting := by
  obtain ⟨endings, hLog, hEndings⟩ := t.log_teardown host
  exact ⟨endings, hLog, of_endings hEndings⟩

end Orderly

/-- What shows of a failure before the channel finds out about it. -/
inductive Symptoms : (cause : Occurrence) → List Occurrence → Prop
  | none (cause : Occurrence) : Symptoms cause []
  | connect (connection attempt : Nat) (body : Connect) (error : ChannelError) :
      Symptoms (.sessionFailed attempt error) [.sendFailed connection (.connect body)]
  | ping (connection : Nat) (error : ChannelError) :
      Symptoms (.pingFailed connection error) [.sendFailed connection .pingReq]
  | sync (connection : Nat) (body : SyncBody) (error : ChannelError) :
      Symptoms (.syncFailed error) [.sendFailed connection (.syncRequest body)]

/-- What a failure puts into the log. -/
theorem Symptoms.mem_cases {cause : Occurrence} {symptoms : List Occurrence}
    (h : Symptoms cause symptoms) (hFailure : cause.isFailure = true) {o : Occurrence}
    (ho : o ∈ symptoms ++ cause :: cause.cleaning) :
    o.isFailure = true ∨ o = .identityCleaned ∨
      ∃ connection frame, o = .sendFailed connection frame := by
  rw [List.mem_append, List.mem_cons] at ho
  rcases ho with ho | rfl | ho
  · cases h with
    | none => cases ho
    | _ => exact .inr (.inr ⟨_, _, List.mem_singleton.mp ho⟩)
  · exact .inl hFailure
  · unfold Occurrence.cleaning at ho
    split at ho
    · exact .inr (.inl (List.mem_singleton.mp ho))
    · cases ho

/-- A turn has gone on with the connection as it was. -/
structure Kept (t u : Turn) : Prop where
  channel : ∃ phase statistics roundTrip, phase.isConnected = true ∧
    u.channel = { t.channel with phase, statistics, roundTrip }
  log : ∃ more, u.log = t.log ++ more ∧ Orderly more

namespace Kept

variable {t u v : Turn}

theorem refl (h : t.channel.phase.isConnected = true) : Kept t t where
  channel := ⟨_, _, _, h, rfl⟩
  log := ⟨[], by rw [List.append_nil], .nil⟩

theorem trans (h : Kept t u) (h' : Kept u v) : Kept t v where
  channel := by
    obtain ⟨_, _, _, _, hu⟩ := h.channel
    obtain ⟨phase, statistics, roundTrip, hPhase, hv⟩ := h'.channel
    exact ⟨phase, statistics, roundTrip, hPhase, by rw [hv, hu]⟩
  log := by
    obtain ⟨more, hu, hMore⟩ := h.log
    obtain ⟨rest, hv, hRest⟩ := h'.log
    exact ⟨more ++ rest, by rw [hv, hu, List.append_assoc], hMore.append hRest⟩

theorem note (h : Kept t u) {o : Occurrence} (ho : o.isOrderly = true) : Kept t (u.note o) where
  channel := h.channel
  log := by
    obtain ⟨more, hu, hMore⟩ := h.log
    exact ⟨more ++ [o], by rw [Turn.log_note, hu, List.append_assoc], hMore.append (.singleton ho)⟩

theorem setPhase (h : Kept t u) {phase : Phase} (hPhase : phase.isConnected = true) :
    Kept t (u.setPhase phase) where
  channel := by
    obtain ⟨_, statistics, roundTrip, _, hu⟩ := h.channel
    exact ⟨phase, statistics, roundTrip, hPhase, by rw [Turn.channel_setPhase, hu]⟩
  log := h.log

theorem deliver (host : Host) (h : t.channel.phase.isConnected = true) (payload : Bytes) :
    Kept t (t.deliver host payload) :=
  Turn.deliver_induction host payload (.refl h) fun _ _ ho hKept =>
    hKept.note (Occurrence.isOrderly_of_isDelivery ho)

theorem connection_eq (h : Kept t u) : u.channel.connection = t.channel.connection := by
  obtain ⟨_, _, _, _, hu⟩ := h.channel
  rw [hu]

theorem server_eq (h : Kept t u) : u.channel.server = t.channel.server := by
  obtain ⟨_, _, _, _, hu⟩ := h.channel
  rw [hu]

theorem hasChecker_eq (h : Kept t u) : u.channel.hasChecker = t.channel.hasChecker := by
  obtain ⟨_, _, _, _, hu⟩ := h.channel
  rw [hu]

theorem isConnected (h : Kept t u) : u.channel.phase.isConnected = true := by
  obtain ⟨_, _, _, hPhase, hu⟩ := h.channel
  rwa [hu]

theorem equipped (h : Kept t u) (ht : t.channel.Equipped) : u.channel.Equipped := by
  obtain ⟨_, _, _, hPhase, hu⟩ := h.channel
  rw [hu]
  exact ⟨hPhase, ht.connection, ht.server, ht.session, ht.multiplexer⟩

end Kept

inductive Passage (host : Host) (t : Turn) : Turn → Prop
  | kept {u : Turn} (h : Kept t u) : Passage host t u
  | failed {u : Turn} {symptoms : List Occurrence} {cause : Occurrence} (h : Kept t u)
      (hSymptoms : Symptoms cause symptoms) (hFailure : cause.isFailure = true)
      (hEquipped : cause.isUnequipped = false) : Passage host t (u.failFor host symptoms cause)
  | left {u : Turn} {connection : Nat} (h : Kept t u) :
      Passage host t ((u.note (.disconnected connection .graceful)).teardown host)

theorem Kept.of_synced {host : Host} {directions : DirectionMap} {t u : Turn}
    (hConnected : t.channel.phase.isConnected = true) (h : Synced host directions t u) :
    Kept t u := by
  have hAsked : Kept t (t.note (.compiled directions)) := (Kept.refl hConnected).note rfl
  cases h with
  | undue => exact .refl hConnected
  | dropped => exact hAsked.note rfl
  | @sent _ _ _ _ bytes =>
    have hCounted : Kept t ((t.note (.compiled directions)).countSent host.now bytes.length) :=
      ⟨⟨_, _, _, hConnected, rfl⟩, hAsked.log⟩
    exact hCounted.note rfl

theorem Kept.of_opened (host : Host) {t : Turn} (hConnected : t.channel.phase.isConnected = true)
    (payload? : Option Bytes) (server : Server) : Kept t (t.opened host payload? server) := by
  have hOpened : Kept t (t.setPhase .opened) := (Kept.refl hConnected).setPhase rfl
  cases payload? with
  | none => exact hOpened.note rfl
  | some payload => exact (hOpened.trans (.deliver host hOpened.isConnected payload)).note rfl

theorem Kept.of_move {host : Host} {t u : Turn} (hConnected : t.channel.phase.isConnected = true)
    (h : Move host t u) : Kept t u := by
  cases h with
  | counted => exact ⟨⟨_, _, _, hConnected, rfl⟩, [], by simp [Turn.countBytes], .nil⟩
  | received => exact ⟨⟨_, _, _, hConnected, rfl⟩, [], by simp [Turn.countReceived], .nil⟩
  | named => exact (Kept.refl hConnected).note rfl
  | delivered payload => exact .deliver host hConnected payload
  | ponged => exact ⟨⟨_, _, _, hConnected, rfl⟩, [], by simp [Turn.recordPong], .nil⟩
  | pinged => exact ⟨⟨_, _, _, hConnected, rfl⟩, _, rfl, .singleton rfl⟩
  | synced _ hSynced => exact .of_synced hConnected hSynced
  | @opened payload? server _ _ _ hSynced =>
    have hOpened := Kept.of_opened host hConnected payload? server
    exact hOpened.trans (.of_synced hOpened.isConnected hSynced)

theorem Kept.of_moves {host : Host} {t u : Turn} (hConnected : t.channel.phase.isConnected = true)
    (h : Moves host t u) : Kept t u := by
  induction h with
  | refl => exact .refl hConnected
  | tail _ hMove ih => exact ih.trans (.of_move ih.isConnected hMove)

/-- What is done of a move that fails keeps the connection so far. -/
theorem Broken.kept {host : Host} {connection : Nat} {t before : Turn}
    {symptoms : List Occurrence} {cause : Occurrence}
    (h : Broken host connection t before symptoms cause)
    (hConnected : t.channel.phase.isConnected = true) : Kept t before := by
  cases h with
  | sync => exact (Kept.refl hConnected).note rfl
  | opening payload? server => exact (Kept.of_opened host hConnected payload? server).note rfl
  | _ => exact .refl hConnected

theorem Broken.symptoms {host : Host} {connection : Nat} {t before : Turn}
    {symptoms : List Occurrence} {cause : Occurrence}
    (h : Broken host connection t before symptoms cause) :
    Symptoms cause symptoms ∧ cause.isFailure = true ∧ cause.isUnequipped = false := by
  cases h with
  | read => exact ⟨.none _, rfl, rfl⟩
  | refused => exact ⟨.none _, rfl, rfl⟩
  | disconnected hReason =>
    exact ⟨.none _, by simpa [Occurrence.isFailure] using hReason, rfl⟩
  | ping error => exact ⟨.ping connection error, rfl, rfl⟩
  | @sync _ body error hError =>
    exact ⟨.sync connection body error, rfl, by simpa [Occurrence.isUnequipped] using hError⟩
  | @opening _ _ body error hError =>
    exact ⟨.sync connection body error, rfl, by simpa [Occurrence.isUnequipped] using hError⟩

theorem Course.passage {host : Host} {connection : Nat} {t u : Turn}
    (h : Course host connection t u) (hConnected : t.channel.phase.isConnected = true) :
    Passage host t u := by
  cases h with
  | kept hMoves => exact .kept (.of_moves hConnected hMoves)
  | failed hMoves hBroken =>
    have hKept := Kept.of_moves hConnected hMoves
    obtain ⟨hSymptoms, hFailure, hEquipped⟩ := hBroken.symptoms
    exact .failed (hKept.trans (hBroken.kept hKept.isConnected)) hSymptoms hFailure hEquipped
  | left hMoves => exact .left (.of_moves hConnected hMoves)

theorem Passage.equipped {host : Host} {t u : Turn} (h : Passage host t u)
    (hLive : u.channel.connection.isSome = true) (ht : t.channel.Equipped) :
    u.channel.Equipped := by
  cases h with
  | kept hKept => exact hKept.equipped ht
  | failed =>
    rw [Turn.failFor, (Turn.unlinked_failServer host _).1] at hLive
    cases hLive
  | left =>
    rw [Turn.connection_teardown] at hLive
    cases hLive

theorem Turn.equipped_receiveAll (host : Host) {t : Turn} (h : t.channel.Equipped)
    {connection : Nat} (hConnection : t.channel.connection = some connection)
    (frames : List Frame)
    (hLive : (t.receiveAll host connection frames).channel.connection.isSome = true) :
    (t.receiveAll host connection frames).channel.Equipped :=
  ((course_receiveAll host h hConnection frames).passage h.connected).equipped hLive h

end DeviceUplink
