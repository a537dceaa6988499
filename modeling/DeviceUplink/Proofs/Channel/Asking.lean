import DeviceUplink.Proofs.Channel.Invariant

/-!
# What is asked of the multiplexer

Whatever a command does, it hands one map of directions to the multiplexer at most: the one that the
channel declares or, if the command selects transports, that with all others turned down. `Asks`
says so of every operation.
-/

namespace DeviceUplink

namespace DirectionMap

def selected (m : DirectionMap) (selection? : Option TransportSet) : DirectionMap :=
  selection?.elim m m.restrictTo

theorem find?_selected (m : DirectionMap) (selection? : Option TransportSet) (t : Transport) :
    (m.selected selection?).find? t =
      (m.find? t).map fun d => if selection?.all fun s => s.has t then d else .down := by
  cases selection? with
  | none => simp [selected]
  | some requested => rfl

theorem keys_selected (m : DirectionMap) (selection? : Option TransportSet) :
    (m.selected selection?).keys = m.keys := by
  cases selection? with
  | none => rfl
  | some requested => exact m.keys_restrictTo requested

end DirectionMap

/-- Only acknowledgments lead to a sync of some transports. -/
theorem Phase.sync_notMem_step {i : Phase.Input} (h : ∀ transports, i ≠ .syncAck transports)
    (phase : Phase) (transports : TransportSet) : .sync transports ∉ (phase.step i).2 := by
  cases i with
  | syncAck transports => exact absurd rfl (h transports)
  | connAck code => cases code <;> cases phase <;> simp [step, isConnected]
  | disconnect reason => cases reason <;> cases phase <;> simp [step, isConnected]
  | response | pingResp | connectionLost => cases phase <;> simp [step, isConnected]

def Command.selection? (phase : Phase) : Command → Option TransportSet
  | .sync transports => some transports
  | .syncAck transports => if phase = .opened ∧ transports.size = 1 then some transports else none
  | _ => none

/-- A turn goes on to another, and asks for nothing but these directions meanwhile. -/
structure Turn.Asks (directions : DirectionMap) (t u : Turn) : Prop where
  supported : u.channel.supported = t.channel.supported
  log : ∃ more, u.log = t.log ++ more ∧ ∀ other, .compiled other ∈ more → other = directions

namespace Turn.Asks

variable {directions : DirectionMap} {t u v : Turn} (host : Host)

theorem of_silent {more : List Occurrence} (hSupported : u.channel.supported = t.channel.supported)
    (hLog : u.log = t.log ++ more) (hMore : ∀ other, .compiled other ∉ more) :
    t.Asks directions u :=
  ⟨hSupported, more, hLog, fun other hOther => absurd hOther (hMore other)⟩

theorem of_same (hSupported : u.channel.supported = t.channel.supported) (hLog : u.log = t.log) :
    t.Asks directions u :=
  of_silent hSupported (by rw [hLog, List.append_nil]) (by simp)

theorem refl (t : Turn) : t.Asks directions t :=
  of_same rfl rfl

theorem trans (h : t.Asks directions u) (h' : u.Asks directions v) : t.Asks directions v := by
  obtain ⟨more, hLog, hMore⟩ := h.log
  obtain ⟨more', hLog', hMore'⟩ := h'.log
  refine ⟨h'.supported.trans h.supported, more ++ more', ?_, ?_⟩
  · rw [hLog', hLog, List.append_assoc]
  · intro other hOther
    exact (List.mem_append.mp hOther).elim (hMore other) (hMore' other)

/-- What is asked for everything is the same map all the way. -/
theorem next (h : t.Asks t.channel.supported u) (h' : u.Asks u.channel.supported v) :
    t.Asks t.channel.supported v := by
  rw [h.supported] at h'
  exact h.trans h'

theorem note {o : Occurrence} (h : ∀ other, o ≠ .compiled other) (t : Turn) :
    t.Asks directions (t.note o) :=
  of_silent rfl rfl fun other hOther => h other (List.mem_singleton.mp hOther).symm

theorem asked (t : Turn) : t.Asks directions (t.note (.compiled directions)) := by
  refine ⟨rfl, [.compiled directions], rfl, ?_⟩
  intro other hOther
  exact Occurrence.compiled.inj (List.mem_singleton.mp hOther)

theorem send (t : Turn) (frame : Frame) : t.Asks directions (t.send host frame).1 := by
  unfold Turn.send
  cases t.channel.connection with
  | none => exact refl t
  | some connection =>
    cases frame.encode with
    | error error => exact note (by simp) t
    | ok bytes =>
      cases host.write t.log frame with
      | error reason => exact note (by simp) t
      | ok _ => exact of_silent (u := (t.countSent host.now bytes.length).note _) rfl rfl (by simp)

theorem scheduleOpen (t : Turn) (delay : Duration) : t.Asks directions (t.scheduleOpen delay) := by
  unfold Turn.scheduleOpen
  split
  · exact refl t
  · exact ⟨rfl, [_], rfl, by simp⟩

theorem teardown (t : Turn) : t.Asks directions (t.teardown host) := by
  obtain ⟨endings, hLog, hEndings⟩ := t.log_teardown host
  obtain ⟨farewells, hChannel⟩ := t.channel_teardown host
  refine of_silent (by rw [hChannel]; rfl) hLog ?_
  intro other hOther
  cases hEndings _ hOther

theorem failServer (t : Turn) : t.Asks directions (t.failServer host) := by
  obtain ⟨notices, hLog, hNotices⟩ := t.log_failServer host
  obtain ⟨farewells, reconnect, lastId, _, hChannel⟩ := t.channel_failServer host
  obtain ⟨farewells', hDown⟩ := t.channel_teardown host
  refine (teardown host t).trans (of_silent ?_ hLog ?_)
  · rw [hChannel, hDown]
    rfl
  · intro other hOther
    cases hNotices _ hOther

theorem makeSession (t : Turn) (server : Server) :
    t.Asks directions (t.makeSession host server) := by
  cases hNew : t.newSession host server with
  | ok session =>
    rw [makeSession_ok hNew]
    exact of_silent rfl rfl (by simp)
  | error error =>
    rw [makeSession_error hNew]
    exact of_same rfl rfl

theorem buildSync (t : Turn) : t.Asks directions (t.buildSync host directions).1 := by
  unfold Turn.buildSync
  split
  · cases t.channel.session with
    | none => exact refl t
    | some session =>
      cases host.compile t.log directions with
      | error causes => exact asked t
      | ok request => exact asked t
  · exact refl t

theorem sendSync (t : Turn) : t.Asks directions (t.sendSync host directions) := by
  have hBuilt : t.Asks directions (t.buildSync host directions).1 := buildSync host t
  unfold Turn.sendSync
  generalize t.buildSync host directions = result at hBuilt ⊢
  obtain ⟨built, error | body⟩ := result
  · exact hBuilt.trans (note (o := .syncDropped error) (by simp) built)
  · have hSent : built.Asks directions (built.send host (.syncRequest body)).1 := send host built _
    simp only
    generalize built.send host (.syncRequest body) = result at hSent ⊢
    obtain ⟨sent, error | _⟩ := result
    · have hFailed : sent.Asks directions (sent.note (.syncFailed error)) := note (by simp) sent
      exact hBuilt.trans (hSent.trans (hFailed.trans (failServer host _)))
    · exact hBuilt.trans hSent

theorem named (t : Turn) (transports : List Transport) :
    t.Asks directions (transports.foldl (fun t u => t.note (.unsupported u)) t) := by
  induction transports generalizing t with
  | nil => exact refl t
  | cons transport rest ih => exact (note (by simp) t).trans (ih (t.note (.unsupported transport)))

theorem sync (t : Turn) (requested : TransportSet) :
    t.Asks (t.channel.supported.restrictTo requested) (t.sync host requested) := by
  unfold Turn.sync
  split
  · exact (named t _).trans (sendSync host _)
  · exact refl t

theorem syncAll (t : Turn) : t.Asks t.channel.supported (t.syncAll host) := by
  unfold Turn.syncAll
  split
  · exact sendSync host t
  · exact refl t

/-- Every effect but a sync of some transports asks for everything, if it asks at all. -/
theorem perform {effect : Phase.Effect} (h : ∀ transports, effect ≠ .sync transports) (t : Turn) :
    t.Asks t.channel.supported (t.perform host effect) := by
  cases effect with
  | deliver payload =>
    exact Turn.deliver_induction host payload (refl t) fun u o ho h =>
      h.trans (note (by rintro other rfl; cases ho) u)
  | notifyConnected =>
    simp only [Turn.perform]
    cases t.channel.server with
    | none => exact refl t
    | some server => exact note (by simp) t
  | syncAll => exact syncAll host t
  | sync transports => exact absurd rfl (h transports)
  | recordPong => exact of_same rfl rfl
  | cleanIdentity => exact note (by simp) t
  | close => exact teardown host t
  | serverFailed => exact failServer host t

theorem foldl_perform {effects : List Phase.Effect}
    (h : ∀ effect ∈ effects, ∀ transports, effect ≠ .sync transports) (t : Turn) :
    t.Asks t.channel.supported (effects.foldl (Turn.perform host) t) := by
  induction effects generalizing t with
  | nil => exact refl t
  | cons effect rest ih =>
    obtain ⟨hEffect, hRest⟩ := List.forall_mem_cons.mp h
    exact (perform host hEffect t).next (ih hRest (t.perform host effect))

theorem input {i : Phase.Input} (h : ∀ transports, i ≠ .syncAck transports) (t : Turn) :
    t.Asks t.channel.supported (t.input host i) := by
  have hEffects : ∀ effect ∈ (t.channel.phase.step i).2, ∀ transports,
      effect ≠ .sync transports := by
    rintro effect hEffect transports rfl
    exact Phase.sync_notMem_step h _ _ hEffect
  have hPhase : t.Asks t.channel.supported (t.setPhase (t.channel.phase.step i).1) :=
    of_same rfl rfl
  exact hPhase.next (foldl_perform host hEffects (t.setPhase _))

theorem syncAck (t : Turn) (transports : TransportSet) :
    t.Asks (t.channel.supported.selected
      (Command.selection? t.channel.phase (.syncAck transports)))
      (t.input host (.syncAck transports)) := by
  have hPhase : ∀ phase directions, t.Asks directions (t.setPhase phase) :=
    fun phase directions => of_same rfl rfl
  cases hIs : t.channel.phase with
  | closed | paused | shutdown =>
    simp only [Turn.input, Phase.step, hIs, Phase.isConnected]
    exact hPhase _ _
  | connecting =>
    have hSelected : t.channel.supported.selected
        (Command.selection? .connecting (.syncAck transports)) = t.channel.supported := rfl
    have hEffects : ∀ effect ∈ [Phase.Effect.notifyConnected, .syncAll], ∀ transports,
        effect ≠ .sync transports := by simp
    rw [hSelected]
    simp only [Turn.input, Phase.step, hIs, Phase.isConnected, if_true]
    exact (hPhase .opened _).next (foldl_perform host hEffects (t.setPhase .opened))
  | opened =>
    simp only [Turn.input, Phase.step, hIs, Phase.isConnected, if_true, reduceCtorEq, if_false,
      Command.selection?, true_and]
    by_cases hOne : transports.size = 1
    · simp only [hOne, if_true]
      exact (hPhase .opened _).trans (sync host (t.setPhase .opened) transports)
    · simp only [hOne, if_false]
      exact (hPhase .opened _).trans (syncAll host (t.setPhase .opened))

theorem receive (connection : Nat) (t : Turn) (frame : Frame) :
    t.Asks t.channel.supported (t.receive host connection frame) := by
  have hCounted : ∀ directions, t.Asks directions (t.countReceived host.now) :=
    fun _ => of_same rfl rfl
  have hPart : ∀ (u : Turn) (i : Phase.Input) (directions : DirectionMap),
      u.Asks directions (u.notePart connection i) := by
    intro u i directions
    cases i with
    | connAck code =>
      simp only [notePart]
      split
      · exact refl u
      · exact note (by simp) u
    | disconnect reason => exact note (by simp) u
    | _ => exact refl u
  simp only [Turn.receive]
  split
  · next i hInput =>
    have hOther : ∀ transports, i ≠ .syncAck transports := by
      rintro transports rfl
      cases frame <;> simp [inputOfFrame] at hInput
    have hNoted := (hCounted _).trans (hPart (t.countReceived host.now) i t.channel.supported)
    exact hNoted.next (input host hOther _)
  · exact hCounted _

theorem receiveAll (connection : Nat) (t : Turn) (frames : List Frame) :
    t.Asks t.channel.supported (t.receiveAll host connection frames) := by
  induction frames generalizing t with
  | nil => exact refl t
  | cons frame rest ih =>
    by_cases hLive : t.channel.connection = some connection
    · rw [receiveAll_cons host hLive]
      exact (receive host connection t frame).next (ih (t.receive host connection frame))
    · rw [receiveAll_of_ne host hLive]
      exact refl t

theorem connectionLost (t : Turn) :
    t.Asks t.channel.supported (t.input host .connectionLost) :=
  input host (by simp) t

theorem ping (t : Turn) (connection : Nat) :
    t.Asks t.channel.supported (t.ping host connection) := by
  unfold Turn.ping
  split
  · have hSent : t.Asks t.channel.supported (t.send host .pingReq).1 := send host t _
    generalize t.send host .pingReq = result at hSent ⊢
    obtain ⟨sent, error | _⟩ := result
    · have hFailed : t.Asks t.channel.supported (sent.note (.pingFailed connection error)) :=
        hSent.trans (note (by simp) sent)
      exact hFailed.next (connectionLost host _)
    · exact hSent.trans (of_same rfl rfl)
  · exact refl t

theorem greet (t : Turn) (connection : Nat) (connect : Connect) :
    t.Asks directions (t.greet host connection connect).1 := by
  have hLive : t.Asks directions (t.update fun c => { c with connection := some connection }) :=
    of_same rfl rfl
  unfold Turn.greet
  generalize t.update _ = live at hLive ⊢
  have hSent : live.Asks directions (live.send host (.connect connect)).1 := send host live _
  simp only
  generalize live.send host (.connect connect) = result at hSent ⊢
  obtain ⟨sent, error | _⟩ := result
  · exact hLive.trans hSent
  · have hBegun : sent.Asks directions (sent.update fun c => { c with
        phase := .connecting
        statistics := { c.statistics with connections := c.statistics.connections + 1 } }) :=
      of_same rfl rfl
    exact hLive.trans (hSent.trans (hBegun.trans (note (by simp) _)))

theorem establish (t : Turn) : t.Asks t.channel.supported (t.establish host).1 := by
  unfold Turn.establish
  cases t.channel.server with
  | none => exact refl t
  | some server =>
    simp only
    split
    · have hKeyed : t.Asks t.channel.supported (t.makeSession host server) :=
        makeSession host t server
      generalize t.makeSession host server = keyed at hKeyed ⊢
      cases keyed.channel.session with
      | none => exact hKeyed
      | some session =>
        have hAsked := hKeyed.next (asked keyed)
        simp only
        split
        · exact hAsked
        · next connect _ =>
          have hNumbered : (keyed.note _).Asks t.channel.supported
              (keyed.note (.compiled keyed.channel.supported)).takeId.1 := of_same rfl rfl
          exact hAsked.trans (hNumbered.trans (greet host _ _ connect))
    · exact refl t

theorem dialEnded (t : Turn) (attempt : Nat) (error? : Option ChannelError) :
    t.Asks t.channel.supported (t.dialEnded host attempt error?) := by
  unfold Turn.dialEnded
  split
  · have hEnded : t.Asks t.channel.supported (t.update fun c => { c with attempt := none }) :=
      of_same rfl rfl
    simp only
    generalize t.update _ = ended at hEnded ⊢
    cases error? with
    | some error =>
      have hFailed : ended.Asks t.channel.supported (ended.note (.dialFailed attempt error)) :=
        note (by simp) ended
      exact hEnded.trans (hFailed.trans (failServer host _))
    | none =>
      have hBegun := hEnded.next (establish host ended)
      simp only
      generalize ended.establish host = result at hBegun ⊢
      obtain ⟨begun, error | _⟩ := result
      · have hFailed : begun.Asks t.channel.supported (begun.note (.sessionFailed attempt error)) :=
          note (by simp) begun
        exact hBegun.trans (hFailed.trans (failServer host _))
      · exact hBegun
  · exact refl t

theorem setServer (t : Turn) (server : Server) : t.Asks directions (t.setServer host server) := by
  unfold Turn.setServer
  simp only
  split
  · exact of_same rfl rfl
  · have hKeyed : t.Asks directions ((t.makeSession host server).update fun c =>
        { c with server := some server }) :=
      (makeSession host t server).trans (of_same rfl rfl)
    split
    · exact hKeyed
    · exact hKeyed.trans ((teardown host _).trans (scheduleOpen _ _))

theorem dial (t : Turn) : t.Asks directions t.dial := by
  unfold Turn.dial
  simp only
  split
  · exact refl t
  · cases t.channel.server with
    | none => exact refl t
    | some server => exact ⟨rfl, [_], rfl, by simp⟩

theorem timerFired (t : Turn) (timer : Nat) : t.Asks directions (t.timerFired timer) := by
  unfold Turn.timerFired
  split
  · have hFree : t.Asks directions (t.update fun c => { c with reconnect := none }) :=
      of_same rfl rfl
    exact hFree.trans (dial _)
  · exact refl t

theorem pause (t : Turn) : t.Asks directions (t.pause host) := by
  have hPaused : t.Asks directions (t.setPhase .paused) := of_same rfl rfl
  unfold Turn.pause
  split
  · exact refl t
  · exact hPaused.trans (teardown host _)

theorem resume (t : Turn) : t.Asks directions t.resume := by
  have hClosed : t.Asks directions (t.setPhase .closed) := of_same rfl rfl
  unfold Turn.resume
  split
  · exact hClosed.trans (scheduleOpen _ _)
  · exact refl t

theorem shutdown (t : Turn) : t.Asks directions (t.shutdown host) := by
  have hDown : t.Asks directions (t.setPhase .shutdown) := of_same rfl rfl
  exact hDown.trans (teardown host _)

theorem inbound (t : Turn) (connection : Nat) (frames : List Frame) (size : Nat) :
    t.Asks t.channel.supported (t.inbound host connection frames size) := by
  have hCounted : t.Asks t.channel.supported (t.countBytes size) := of_same rfl rfl
  unfold Turn.inbound
  split
  · exact hCounted.next (receiveAll host connection _ frames)
  · exact refl t

theorem readFailed (t : Turn) (connection : Nat) (error : ChannelError) :
    t.Asks t.channel.supported (t.readFailed host connection error) := by
  have hFound : t.Asks t.channel.supported (t.note (.readFailed connection error)) :=
    note (by simp) t
  unfold Turn.readFailed
  split
  · exact hFound.next (connectionLost host _)
  · exact refl t

/-- The map that a command asks for, if it comes to that. -/
theorem obey (t : Turn) (command : Command) :
    t.Asks (t.channel.supported.selected (command.selection? t.channel.phase))
      (t.obey host command) := by
  cases command with
  | setServer server => exact setServer host t server
  | bindMultiplexer | bindDemultiplexer | bindChecker => exact of_same rfl rfl
  | sync transports => exact sync host t transports
  | syncAll => exact syncAll host t
  | syncAck transports => exact syncAck host t transports
  | pause => exact pause host t
  | resume => exact resume t
  | shutdown => exact shutdown host t
  | timerFired timer => exact timerFired t timer
  | dialEnded attempt error? => exact dialEnded host t attempt error?
  | inbound connection frames size => exact inbound host t connection frames size
  | readFailed connection error => exact readFailed host t connection error
  | keepAliveTick connection => exact ping host t connection

end Turn.Asks

namespace Channel

variable {c : Channel}

theorem asks_handle (c : Channel) (host : Host) (command : Command) :
    Turn.Asks (c.supported.selected (command.selection? c.phase)) { channel := c }
      { channel := (c.handle host command).1, log := (c.handle host command).2 } := by
  by_cases hPhase : c.phase = .shutdown
  · rw [handle_of_shutdown hPhase]
    exact .of_same rfl rfl
  · rw [handle_eq hPhase]
    exact .obey host { channel := c } command

theorem supported_handle (c : Channel) (host : Host) (command : Command) :
    (c.handle host command).1.supported = c.supported :=
  (c.asks_handle host command).supported

theorem compiled_handle {host : Host} {command : Command} {directions : DirectionMap}
    (h : .compiled directions ∈ (c.handle host command).2) :
    directions = c.supported.selected (command.selection? c.phase) := by
  obtain ⟨more, hLog, hMore⟩ := (c.asks_handle host command).log
  rw [List.nil_append] at hLog
  exact hMore directions (hLog ▸ h)

theorem supported_run (c : Channel) (commands : List (Host × Command)) :
    (c.run commands).1.supported = c.supported := by
  induction commands generalizing c with
  | nil => rfl
  | cons command rest ih =>
    rw [run_cons, ih, supported_handle]

/-- In a run every map is for the transports that the channel carries. -/
theorem keys_of_compiled {commands : List (Host × Command)} {directions : DirectionMap}
    (h : .compiled directions ∈ (c.run commands).2) : directions.keys = c.supported.keys := by
  induction commands generalizing c with
  | nil => cases h
  | cons command rest ih =>
    rw [run_cons] at h
    rcases List.mem_append.mp h with hNow | hLater
    · rw [compiled_handle hNow, DirectionMap.keys_selected]
    · rw [ih hLater, supported_handle]

end Channel

end DeviceUplink
