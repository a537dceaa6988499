import DeviceUplink.Proofs.Channel.Invariant

/-!
# Where events come from

Connections, attempts and timers are numbered together, in the order in which a run brings them up.
What is present was brought up once, and what has gone never comes back.
-/

namespace DeviceUplink

/-- What an event can be of. -/
inductive Origin
  | connection (number : Nat)
  | attempt (number : Nat)
  | timer (number : Nat)
deriving DecidableEq

namespace Origin

def number : Origin → Nat
  | connection n | attempt n | timer n => n

end Origin

def Command.origin? : Command → Option Origin
  | .timerFired timer => some (.timer timer)
  | .dialEnded attempt _ => some (.attempt attempt)
  | .inbound connection _ _ | .readFailed connection _ | .keepAliveTick connection =>
    some (.connection connection)
  | _ => none

/-- What comes up with an occurrence. A connection does with its CONNECT, sent or not. -/
def Occurrence.origin? : Occurrence → Option Origin
  | .scheduled timer _ => some (.timer timer)
  | .dialed attempt _ => some (.attempt attempt)
  | .sent connection (.connect _) | .sendFailed connection (.connect _) =>
    some (.connection connection)
  | _ => none

def origins (log : List Occurrence) : List Origin :=
  log.filterMap Occurrence.origin?

theorem origins_append (log more : List Occurrence) :
    origins (log ++ more) = origins log ++ origins more :=
  List.filterMap_append

theorem origins_eq_nil {log : List Occurrence} (h : ∀ o ∈ log, o.origin? = none) :
    origins log = [] :=
  List.filterMap_eq_nil_iff.mpr h

namespace Occurrence

theorem origin?_of_isPrelude {o : Occurrence} (h : o.isPrelude = true) : o.origin? = none := by
  cases o <;> first | rfl | cases h

theorem origin?_of_isFailure {o : Occurrence} (h : o.isFailure = true) : o.origin? = none := by
  cases o <;> first | rfl | cases h

theorem origin?_of_isDelivery {o : Occurrence} (h : o.isDelivery = true) : o.origin? = none := by
  cases o <;> first | rfl | cases h

theorem origin?_of_isEnding {o : Occurrence} (h : o.isEnding = true) : o.origin? = none := by
  obtain ⟨_, rfl | rfl | rfl | rfl⟩ := eq_of_isEnding h <;> rfl

theorem origins_cleaning (cause : Occurrence) : origins cause.cleaning = [] := by
  unfold cleaning
  split <;> rfl

end Occurrence

namespace Channel

def origins (c : Channel) : List Origin :=
  c.connection.toList.map .connection ++ c.attempt.toList.map .attempt
    ++ c.reconnect.toList.map .timer

variable {c next last : Channel} {news more : List Origin}

@[simp] theorem connection_mem_origins {n : Nat} :
    .connection n ∈ c.origins ↔ c.connection = some n := by
  simp [origins]

@[simp] theorem attempt_mem_origins {n : Nat} : .attempt n ∈ c.origins ↔ c.attempt = some n := by
  simp [origins]

@[simp] theorem timer_mem_origins {n : Nat} : .timer n ∈ c.origins ↔ c.reconnect = some n := by
  simp [origins]

/-- The channel goes on to the next and brings up `news` meanwhile, with the next free numbers. -/
structure Brings (c : Channel) (news : List Origin) (next : Channel) : Prop where
  numbers : news.map Origin.number = List.range' (c.lastId + 1) news.length
  lastId : next.lastId = c.lastId + news.length
  origins : ∀ origin ∈ next.origins, origin ∈ c.origins ∨ origin ∈ news

namespace Brings

theorem nothing (hLast : next.lastId = c.lastId)
    (hOrigins : ∀ origin ∈ next.origins, origin ∈ c.origins) : c.Brings [] next where
  numbers := rfl
  lastId := hLast
  origins origin hOrigin := .inl (hOrigins origin hOrigin)

theorem one {origin : Origin} (hNumber : origin.number = c.lastId + 1)
    (hLast : next.lastId = c.lastId + 1)
    (hOrigins : ∀ other ∈ next.origins, other ∈ c.origins ∨ other = origin) :
    c.Brings [origin] next where
  numbers := by simp [hNumber]
  lastId := hLast
  origins := by simpa using hOrigins

theorem trans (h : c.Brings news next) (h' : next.Brings more last) :
    c.Brings (news ++ more) last where
  numbers := by
    have hStart : next.lastId + 1 = c.lastId + 1 + news.length := by
      rw [h.lastId]
      omega
    rw [List.map_append, List.length_append, h.numbers, h'.numbers, hStart, List.range'_append_1]
  lastId := by
    rw [h'.lastId, h.lastId, List.length_append, Nat.add_assoc]
  origins := by
    intro origin hOrigin
    rw [List.mem_append]
    rcases h'.origins origin hOrigin with hOld | hNew
    · rcases h.origins origin hOld with hOld | hNew
      · exact .inl hOld
      · exact .inr (.inl hNew)
    · exact .inr (.inr hNew)

theorem lt_number (h : c.Brings news next) {origin : Origin} (hOrigin : origin ∈ news) :
    c.lastId < origin.number := by
  have hNumber : origin.number ∈ news.map Origin.number := List.mem_map_of_mem hOrigin
  rw [h.numbers, List.mem_range'_1] at hNumber
  omega

end Brings

end Channel

def Turn.Brings (t u : Turn) : Prop :=
  ∃ news, origins u.log = origins t.log ++ news ∧ t.channel.Brings news u.channel

namespace Turn

variable {host : Host} {t u v : Turn}

namespace Brings

theorem of_same (hLog : origins u.log = origins t.log)
    (hLast : u.channel.lastId = t.channel.lastId)
    (hOrigins : ∀ origin ∈ u.channel.origins, origin ∈ t.channel.origins) : t.Brings u :=
  ⟨[], by rw [hLog, List.append_nil], .nothing hLast hOrigins⟩

theorem trans (h : t.Brings u) (h' : u.Brings v) : t.Brings v := by
  obtain ⟨news, hLog, hNews⟩ := h
  obtain ⟨more, hLog', hMore⟩ := h'
  exact ⟨news ++ more, by rw [hLog', hLog, List.append_assoc], hNews.trans hMore⟩

theorem refl (t : Turn) : t.Brings t :=
  of_same rfl rfl fun _ => id

theorem noteAll {occurrences : List Occurrence} (h : origins occurrences = []) (t : Turn) :
    t.Brings (t.noteAll occurrences) := by
  refine of_same ?_ rfl fun _ => id
  simp only [Turn.noteAll, origins_append, h, List.append_nil]

theorem note {o : Occurrence} (h : o.origin? = none) (t : Turn) : t.Brings (t.note o) :=
  noteAll (origins_eq_nil (by simpa using h)) t

/-- What a channel is besides its connection, attempt, timer and last number does not matter. -/
theorem of_channel (hLog : u.log = t.log) (hLast : u.channel.lastId = t.channel.lastId)
    (hConnection : u.channel.connection = t.channel.connection)
    (hAttempt : u.channel.attempt = t.channel.attempt)
    (hReconnect : u.channel.reconnect = t.channel.reconnect) : t.Brings u := by
  refine of_same (by rw [hLog]) hLast ?_
  simp only [Channel.origins, hConnection, hAttempt, hReconnect]
  exact fun _ => id

theorem withTimer (t : Turn) (delay : Duration) : t.Brings (t.withTimer delay) := by
  refine ⟨[.timer (t.channel.lastId + 1)], by simp only [Turn.withTimer, origins_append]; rfl, ?_⟩
  apply Channel.Brings.one
  · rfl
  · rfl
  · rintro (n | n | n)
    · simp [Turn.withTimer]
    · simp [Turn.withTimer]
    · simpa [Turn.withTimer, eq_comm] using .inr

theorem teardown (host : Host) (t : Turn) : t.Brings (t.teardown host) := by
  obtain ⟨endings, hLog, hEndings⟩ := t.log_teardown host
  obtain ⟨farewells, hIdle⟩ := t.channel_teardown host
  have hNone : origins endings = [] :=
    origins_eq_nil fun o ho => Occurrence.origin?_of_isEnding (hEndings o ho)
  refine of_same ?_ ?_ ?_
  · rw [hLog, origins_append, hNone, List.append_nil]
  · rw [hIdle]
    rfl
  · intro origin
    cases origin <;> simp [hIdle, Channel.idle]

/-- A report brings up a timer or nothing. -/
theorem reported (h : Reported host t u) : t.Brings u := by
  cases h with
  | nobody => exact refl t
  | server => exact note rfl t
  | noop => exact note rfl t
  | retry => exact (note rfl t).trans (withTimer _ _)
  | stop => exact (note rfl t).trans (note rfl _)

theorem failServer (host : Host) (t : Turn) : t.Brings (t.failServer host) :=
  (teardown host t).trans (reported (t.reported_failServer host))

theorem failFor (host : Host) {symptoms : List Occurrence} {cause : Occurrence}
    (hSymptoms : origins symptoms = []) (hFailure : cause.isFailure = true) (t : Turn) :
    t.Brings (t.failFor host symptoms cause) := by
  have hCause : origins [cause] = [] :=
    origins_eq_nil (by simpa using Occurrence.origin?_of_isFailure hFailure)
  have hFound : origins (symptoms ++ cause :: cause.cleaning) = [] := by
    rw [← List.singleton_append, origins_append, origins_append, hSymptoms, hCause,
      Occurrence.origins_cleaning]
    rfl
  exact (noteAll hFound t).trans (failServer host _)

theorem deliver (host : Host) (t : Turn) (payload : Bytes) : t.Brings (t.deliver host payload) :=
  deliver_induction host payload (refl t) fun u _ ho h =>
    h.trans (note (Occurrence.origin?_of_isDelivery ho) u)

theorem opened (host : Host) (t : Turn) (payload? : Option Bytes) (server : Server) :
    t.Brings (t.opened host payload? server) := by
  have hOpened : t.Brings (t.setPhase .opened) := of_channel rfl rfl rfl rfl rfl
  cases payload? with
  | none => exact hOpened.trans (note rfl _)
  | some payload => exact (hOpened.trans (deliver host _ payload)).trans (note rfl _)

theorem synced {directions : DirectionMap} (h : Synced host directions t u) : t.Brings u := by
  cases h with
  | undue => exact refl t
  | dropped => exact (note rfl t).trans (note rfl _)
  | @sent _ _ _ _ bytes =>
    have hCounted : t.Brings ((t.note (.compiled directions)).countSent host.now bytes.length) :=
      (note rfl t).trans (of_channel rfl rfl rfl rfl rfl)
    exact hCounted.trans (note rfl _)

theorem move (h : Move host t u) : t.Brings u := by
  cases h with
  | counted | received | ponged => exact of_channel rfl rfl rfl rfl rfl
  | named => exact note rfl t
  | delivered payload => exact deliver host t payload
  | @pinged _ bytes =>
    have hCounted : t.Brings (t.countSent host.now bytes.length) := of_channel rfl rfl rfl rfl rfl
    exact (hCounted.trans (note rfl _)).trans (of_channel rfl rfl rfl rfl rfl)
  | synced _ hSynced => exact synced hSynced
  | opened _ _ hSynced => exact (opened host t _ _).trans (synced hSynced)

theorem moves (h : Moves host t u) : t.Brings u := by
  induction h with
  | refl => exact refl t
  | tail _ hMove ih => exact ih.trans (move hMove)

theorem broken {connection : Nat} {symptoms : List Occurrence} {cause : Occurrence}
    (h : Broken host connection t u symptoms cause) :
    t.Brings u ∧ origins symptoms = [] := by
  cases h with
  | read | refused | disconnected => exact ⟨refl t, rfl⟩
  | ping => exact ⟨refl t, rfl⟩
  | sync => exact ⟨note rfl t, rfl⟩
  | opening => exact ⟨(opened host t _ _).trans (note rfl _), rfl⟩

theorem course {connection : Nat} (h : Course host connection t u) : t.Brings u := by
  cases h with
  | kept hMoves => exact moves hMoves
  | failed hMoves hBroken =>
    obtain ⟨hBefore, hSymptoms⟩ := broken hBroken
    exact ((moves hMoves).trans hBefore).trans (failFor host hSymptoms hBroken.symptoms.2.1 _)
  | left hMoves => exact ((moves hMoves).trans (note rfl _)).trans (teardown host _)

end Brings

/-- The end of an attempt makes room for what may come up. -/
theorem brings_ended (c : Channel) :
    Brings { channel := c } { channel := { c with attempt := none } } := by
  refine .of_same rfl rfl ?_
  rintro (n | n | n) <;> simp

theorem brings_keyed (host : Host) (c : Channel) (server : Server) :
    Brings { channel := c } (keyed host c server) := by
  obtain ⟨session, more, hKeyed, hMore⟩ := keyed_eq host c server
  have hNone : origins more = [] :=
    origins_eq_nil fun o ho => Occurrence.origin?_of_isPrelude (hMore o ho)
  rw [hKeyed]
  exact .of_same hNone rfl fun _ => id

theorem brings_dialing (c : Channel) (server : Server) :
    Brings { channel := c } (dialing c server) := by
  refine ⟨[.attempt (c.lastId + 1)], rfl, ?_⟩
  apply Channel.Brings.one
  · rfl
  · rfl
  · rintro (n | n | n)
    · simp [dialing]
    · simpa [dialing, eq_comm] using .inr
    · simp [dialing]

/-- The next connection, with its CONNECT in the log. -/
theorem brings_connection {log : List Occurrence}
    (hLog : origins log = [.connection (t.channel.lastId + 1)])
    (hAfter : u.log = t.log ++ log) (hLast : u.channel.lastId = t.channel.lastId + 1)
    (hConnection : u.channel.connection = some (t.channel.lastId + 1))
    (hAttempt : u.channel.attempt = t.channel.attempt)
    (hReconnect : u.channel.reconnect = t.channel.reconnect) : t.Brings u := by
  refine ⟨[.connection (t.channel.lastId + 1)], by rw [hAfter, origins_append, hLog], ?_⟩
  apply Channel.Brings.one
  · rfl
  · exact hLast
  · rintro (n | n | n)
    · simpa [hConnection, eq_comm] using .inr
    · simp [hAttempt]
    · simp [hReconnect]

theorem brings_begun {result : Except ChannelError Unit} (h : Begun host t (u, result)) :
    t.Brings u := by
  cases h with
  | live => exact brings_connection rfl rfl rfl rfl rfl rfl
  | unready error hBefore hMore =>
    have hNone := origins_eq_nil fun o ho => Occurrence.origin?_of_isPrelude (hMore o ho)
    subst hBefore
    exact .of_same (by simp [origins_append, hNone]) rfl fun _ => id
  | unsent session connect error =>
    exact brings_connection rfl (List.append_assoc _ _ _) rfl rfl rfl rfl

theorem brings_of_deed {c : Channel} {command : Command} (h : Deed host c command u) :
    Brings { channel := c } u := by
  have hPhase : ∀ phase, Brings { channel := c } (setPhase { channel := c } phase) :=
    fun phase => .of_channel rfl rfl rfl rfl rfl
  cases h with
  | nothing => exact .refl _
  | boundMultiplexer | boundDemultiplexer | boundChecker | redescribed =>
    exact .of_channel rfl rfl rfl rfl rfl
  | rekeyed => exact brings_keyed host c _
  | retargeted => exact ((brings_keyed host c _).trans (.teardown host _)).trans (.withTimer _ _)
  | suspended | stopped => exact (hPhase _).trans (.teardown host _)
  | resumed => exact (hPhase _).trans (.withTimer _ _)
  | unaimed =>
    refine .of_same rfl rfl ?_
    rintro (n | n | n) <;> simp
  | dialed => exact brings_dialing c _
  | unreached => exact (brings_ended c).trans (.failFor host rfl rfl _)
  | begun _ hBegun => exact (brings_ended c).trans (brings_begun hBegun)
  | stuck _ hBegun =>
    exact ((brings_ended c).trans (brings_begun hBegun)).trans (.failFor host rfl rfl _)
  | live _ _ hCourse => exact .course hCourse

end Turn

namespace Channel

variable {c : Channel}

theorem Settled.brings_handle (h : c.Settled) (host : Host) (command : Command) :
    c.Brings (DeviceUplink.origins (c.handle host command).2) (c.handle host command).1 := by
  by_cases hPhase : c.phase = .shutdown
  · rw [handle_of_shutdown hPhase]
    exact .nothing rfl fun _ => id
  · rw [handle_eq hPhase]
    have hDeed : Deed host c command _ := h.deed_obey hPhase command
    obtain ⟨news, hLog, hNews⟩ := Turn.brings_of_deed hDeed
    rwa [hLog]

theorem Settled.brings_run (h : c.Settled) (commands : List (Host × Command)) :
    c.Brings (DeviceUplink.origins (c.run commands).2) (c.run commands).1 := by
  induction commands generalizing c with
  | nil => exact .nothing rfl fun _ => id
  | cons command rest ih =>
    rw [run_cons, origins_append]
    exact (h.brings_handle command.1 command.2).trans (ih (settled_handle command.1 h command.2))

end Channel

end DeviceUplink
