import Mathlib.Algebra.GroupWithZero.Nat
import DeviceUplink.Proofs.Channel.SessionKey
import DeviceUplink.Proofs.Channel.Silence

/-!
# What the statistics say of frames sent

Frames get out in two ways, and each of them keeps the statistics by itself. Both count the frame,
but the farewell of a connection is left out of the octets. `Turn.Books` compares what a part of a
turn adds to the statistics with what it adds to the log, for every part that a command can have.
-/

namespace DeviceUplink

theorem Occurrence.isSent_of_isDelivery {o : Occurrence} (h : o.isDelivery = true) :
    o.isSent = false := by
  cases o <;> first | rfl | cases h

def sentFrames (log : List Occurrence) : List Frame :=
  log.filterMap fun
    | .sent _ frame => some frame
    | _ => none

theorem sentFrames_append (log more : List Occurrence) :
    sentFrames (log ++ more) = sentFrames log ++ sentFrames more :=
  List.filterMap_append

theorem sentFrames_eq_nil {log : List Occurrence} (h : ∀ o ∈ log, o.isSent = false) :
    sentFrames log = [] := by
  refine List.filterMap_eq_nil_iff.mpr fun o ho => ?_
  have hNot := h o ho
  cases o <;> first | rfl | cases hNot

theorem mem_sentFrames {log : List Occurrence} {frame : Frame} :
    frame ∈ sentFrames log ↔ ∃ connection, .sent connection frame ∈ log := by
  constructor
  · intro h
    obtain ⟨o, ho, hIs⟩ := List.mem_filterMap.mp h
    cases o <;> cases hIs
    exact ⟨_, ho⟩
  · rintro ⟨connection, h⟩
    exact List.mem_filterMap.mpr ⟨_, h, rfl⟩

theorem sentFrames_parting (host : Host) (log : List Occurrence) (connection : Option Nat) :
    let parting := Occurrence.parting host log connection
    sentFrames parting = List.replicate (parting.countP Occurrence.isSent) Turn.farewell := by
  cases connection with
  | none => rfl
  | some connection =>
    simp only [Occurrence.parting]
    cases host.write log Turn.farewell <;> rfl

namespace Frame

def encodedSize (f : Frame) : Nat :=
  match f.encode with
  | .ok bytes => bytes.length
  | .error _ => 0

theorem encodedSize_of_encode {f : Frame} {bytes : Bytes} (h : f.encode = .ok bytes) :
    f.encodedSize = bytes.length := by
  simp only [encodedSize, h]

def countedSize (f : Frame) : Nat :=
  if f = Turn.farewell then 0 else f.encodedSize

theorem sum_encodedSize (frames : List Frame) :
    (frames.map encodedSize).sum =
      (frames.map countedSize).sum + 3 * frames.count Turn.farewell := by
  induction frames with
  | nil => rfl
  | cons f rest ih =>
    by_cases hFarewell : f = Turn.farewell
    · subst hFarewell
      have hSize : Turn.farewell.encodedSize = 3 := by cbv
      simp only [List.map_cons, List.sum_cons, List.count_cons_self, ih, countedSize, if_true,
        hSize]
      omega
    · simp only [List.map_cons, List.sum_cons, List.count_cons_of_ne hFarewell, ih, countedSize,
        hFarewell, if_false]
      omega

end Frame

structure Statistics.Gains (s : Statistics) (frames : List Frame) (s' : Statistics) : Prop where
  framesSent : s'.framesSent = s.framesSent + frames.length
  bytesOut : s'.bytesOut = s.bytesOut + (frames.map Frame.countedSize).sum
  encodable : ∀ f ∈ frames, ∃ bytes, f.encode = .ok bytes

namespace Statistics.Gains

variable {s s' s'' : Statistics} {frames more : List Frame}

theorem nothing (hSent : s'.framesSent = s.framesSent) (hOctets : s'.bytesOut = s.bytesOut) :
    s.Gains [] s' :=
  ⟨hSent, hOctets, List.forall_mem_nil _⟩

theorem trans (h : s.Gains frames s') (h' : s'.Gains more s'') : s.Gains (frames ++ more) s'' where
  framesSent := by
    rw [h'.framesSent, h.framesSent, List.length_append, Nat.add_assoc]
  bytesOut := by
    rw [h'.bytesOut, h.bytesOut, List.map_append, List.sum_append, Nat.add_assoc]
  encodable f hf := (List.mem_append.mp hf).elim (h.encodable f) (h'.encodable f)

/-- A farewell counts as a frame and not as octets. -/
theorem farewells (s : Statistics) (n : Nat) :
    s.Gains (List.replicate n Turn.farewell) { s with framesSent := s.framesSent + n } where
  framesSent := by rw [List.length_replicate]
  bytesOut := by simp [Frame.countedSize]
  encodable f hf := by
    rw [List.eq_of_mem_replicate hf]
    exact ⟨_, rfl⟩

end Statistics.Gains

/-- A turn goes on to another, and its statistics gain what its log says was sent meanwhile. -/
def Turn.Books (t u : Turn) : Prop :=
  ∃ frames, sentFrames u.log = sentFrames t.log ++ frames ∧
    t.channel.statistics.Gains frames u.channel.statistics

namespace Turn.Books

variable {host : Host} {t u v : Turn}

theorem of_asides {more : List Occurrence} (hMore : ∀ o ∈ more, o.isSent = false)
    (hLog : u.log = t.log ++ more)
    (hSent : u.channel.statistics.framesSent = t.channel.statistics.framesSent)
    (hOctets : u.channel.statistics.bytesOut = t.channel.statistics.bytesOut) : t.Books u := by
  refine ⟨[], ?_, .nothing hSent hOctets⟩
  rw [hLog, sentFrames_append, sentFrames_eq_nil hMore]

/-- What a channel is besides these two numbers does not matter. -/
theorem of_same (hLog : u.log = t.log)
    (hSent : u.channel.statistics.framesSent = t.channel.statistics.framesSent)
    (hOctets : u.channel.statistics.bytesOut = t.channel.statistics.bytesOut) : t.Books u :=
  of_asides (List.forall_mem_nil _) (by rw [hLog, List.append_nil]) hSent hOctets

theorem refl (t : Turn) : t.Books t :=
  of_same rfl rfl rfl

theorem trans (h : t.Books u) (h' : u.Books v) : t.Books v := by
  obtain ⟨frames, hLog, hFrames⟩ := h
  obtain ⟨more, hLog', hMore⟩ := h'
  exact ⟨frames ++ more, by rw [hLog', hLog, List.append_assoc], hFrames.trans hMore⟩

theorem note {o : Occurrence} (h : o.isSent = false) (t : Turn) : t.Books (t.note o) :=
  of_asides (by simpa using h) rfl rfl rfl

theorem sent {now connection : Nat} {frame : Frame} {bytes : Bytes}
    (hBytes : frame.encode = .ok bytes) (hFrame : frame ≠ farewell) (t : Turn) :
    t.Books ((t.countSent now bytes.length).note (.sent connection frame)) := by
  refine ⟨[frame], sentFrames_append _ _, rfl, ?_, ?_⟩
  · simp [countSent, Frame.countedSize, hFrame, Frame.encodedSize_of_encode hBytes]
  · intro f hf
    rw [List.mem_singleton.mp hf]
    exact ⟨bytes, hBytes⟩

theorem teardown (host : Host) (t : Turn) : t.Books (t.teardown host) := by
  have hCancelling : sentFrames (Occurrence.cancelling t.channel.reconnect) = [] := by
    cases t.channel.reconnect <;> rfl
  rw [teardown_eq]
  refine ⟨_, ?_, .farewells _ _⟩
  rw [logAtClosing, sentFrames_append, sentFrames_append, hCancelling, List.append_nil,
    sentFrames_parting]

theorem withTimer (t : Turn) (delay : Duration) : t.Books (t.withTimer delay) :=
  of_asides (by simp [Occurrence.isSent]) rfl rfl rfl

/-- A report sends nothing. -/
theorem reported (h : Reported host t u) : t.Books u := by
  cases h with
  | nobody => exact refl t
  | server => exact note rfl t
  | noop => exact note rfl t
  | retry => exact (note rfl t).trans (withTimer _ _)
  | stop => exact (note rfl t).trans (note rfl _)

theorem failFor {symptoms : List Occurrence} {cause : Occurrence}
    (hSymptoms : Symptoms cause symptoms) (hFailure : cause.isFailure = true) (host : Host)
    (t : Turn) : t.Books (t.failFor host symptoms cause) := by
  have hFound : t.Books (t.noteAll (symptoms ++ cause :: cause.cleaning)) := by
    refine of_asides ?_ rfl rfl rfl
    intro o ho
    rcases hSymptoms.mem_cases hFailure ho with hFailed | rfl | ⟨_, _, rfl⟩
    · cases o <;> first | rfl | cases hFailed
    · rfl
    · rfl
  exact (hFound.trans (teardown host _)).trans (reported (reported_failServer host _))

theorem deliver (host : Host) (t : Turn) (payload : Bytes) : t.Books (t.deliver host payload) :=
  deliver_induction host payload (refl t) fun u _ ho h =>
    h.trans (note (Occurrence.isSent_of_isDelivery ho) u)

theorem opened (host : Host) (t : Turn) (payload? : Option Bytes) (server : Server) :
    t.Books (t.opened host payload? server) := by
  have hOpened : t.Books (t.setPhase .opened) := of_same rfl rfl rfl
  cases payload? with
  | none => exact hOpened.trans (note rfl _)
  | some payload => exact (hOpened.trans (deliver host _ payload)).trans (note rfl _)

theorem synced {directions : DirectionMap} (h : Synced host directions t u) : t.Books u := by
  cases h with
  | undue => exact refl t
  | dropped => exact (note rfl t).trans (note rfl _)
  | sent _ _ _ hBytes => exact (note rfl t).trans (sent hBytes Frame.noConfusion _)

theorem move (h : Move host t u) : t.Books u := by
  cases h with
  | counted | received | ponged => exact of_same rfl rfl rfl
  | named => exact note rfl t
  | delivered payload => exact deliver host t payload
  | pinged _ hBytes => exact (sent hBytes Frame.noConfusion t).trans (of_same rfl rfl rfl)
  | synced _ hSynced => exact synced hSynced
  | opened _ _ hSynced => exact (opened host t _ _).trans (synced hSynced)

theorem moves (h : Moves host t u) : t.Books u := by
  induction h with
  | refl => exact refl t
  | tail _ hMove ih => exact ih.trans (move hMove)

theorem broken {connection : Nat} {symptoms : List Occurrence} {cause : Occurrence}
    (h : Broken host connection t u symptoms cause) : t.Books u := by
  cases h with
  | read | refused | disconnected | ping => exact refl t
  | sync => exact note rfl t
  | opening => exact (opened host t _ _).trans (note rfl _)

theorem course {connection : Nat} (h : Course host connection t u) : t.Books u := by
  cases h with
  | kept hMoves => exact moves hMoves
  | failed hMoves hBroken =>
    obtain ⟨hSymptoms, hFailure, _⟩ := hBroken.symptoms
    exact ((moves hMoves).trans (broken hBroken)).trans (failFor hSymptoms hFailure host _)
  | left hMoves => exact ((moves hMoves).trans (note rfl _)).trans (teardown host _)

theorem of_prelude {more : List Occurrence} (hMore : ∀ o ∈ more, o.isPrelude = true)
    (hLog : u.log = t.log ++ more)
    (hSame : u.channel.statistics = t.channel.statistics) : t.Books u := by
  refine of_asides (fun o ho => ?_) hLog (by rw [hSame]) (by rw [hSame])
  have hPrelude := hMore o ho
  cases o <;> first | rfl | cases hPrelude

theorem keyed (host : Host) (c : Channel) (server : Server) :
    Books { channel := c } (keyed host c server) := by
  obtain ⟨session, more, hKeyed, hMore⟩ := keyed_eq host c server
  rw [hKeyed]
  exact of_prelude hMore rfl rfl

theorem begun {result : Except ChannelError Unit} (h : Begun host t (u, result)) : t.Books u := by
  cases h with
  | @live session connect bytes hGreeting hBytes =>
    refine ⟨[.connect connect], sentFrames_append _ _, rfl, ?_, ?_⟩
    · simp [greeted, Frame.countedSize, farewell, Frame.encodedSize_of_encode hBytes]
    · intro f hf
      rw [List.mem_singleton.mp hf]
      exact ⟨bytes, hBytes⟩
  | unready error hBefore hMore =>
    subst hBefore
    exact of_prelude hMore rfl rfl
  | unsent session connect error =>
    refine of_asides ?_ (List.append_assoc _ _ _) rfl rfl
    simp [Occurrence.isSent]

theorem deed {c : Channel} {command : Command} (h : Deed host c command u) :
    Books { channel := c } u := by
  have hPhase : ∀ phase, Books { channel := c } (setPhase { channel := c } phase) :=
    fun phase => of_same rfl rfl rfl
  have hEnded : Books { channel := c } { channel := { c with attempt := none } } :=
    of_same rfl rfl rfl
  cases h with
  | nothing | boundMultiplexer | boundDemultiplexer | boundChecker | redescribed | unaimed =>
    exact of_same rfl rfl rfl
  | rekeyed => exact keyed host c _
  | retargeted => exact ((keyed host c _).trans (teardown host _)).trans (withTimer _ _)
  | suspended | stopped => exact (hPhase _).trans (teardown host _)
  | resumed => exact (hPhase _).trans (withTimer _ _)
  | dialed => exact of_asides (by simp [Occurrence.isSent]) rfl rfl rfl
  | unreached => exact hEnded.trans (failFor (.none _) rfl host _)
  | begun _ hBegun => exact hEnded.trans (begun hBegun)
  | stuck _ hBegun => exact (hEnded.trans (begun hBegun)).trans (failFor (.none _) rfl host _)
  | live _ _ hCourse => exact course hCourse

end Turn.Books

namespace Channel

variable {c : Channel}

theorem Settled.gains_handle (h : c.Settled) (host : Host) (command : Command) :
    c.statistics.Gains (sentFrames (c.handle host command).2)
      (c.handle host command).1.statistics := by
  by_cases hPhase : c.phase = .shutdown
  · rw [handle_of_shutdown hPhase]
    exact .nothing rfl rfl
  · rw [handle_eq hPhase]
    have hDeed : Deed host c command _ := h.deed_obey hPhase command
    obtain ⟨frames, hLog, hFrames⟩ := Turn.Books.deed hDeed
    rwa [hLog]

theorem Settled.gains_run (h : c.Settled) (commands : List (Host × Command)) :
    c.statistics.Gains (sentFrames (c.run commands).2) (c.run commands).1.statistics := by
  induction commands generalizing c with
  | nil => exact .nothing rfl rfl
  | cons command rest ih =>
    rw [run_cons, sentFrames_append]
    exact (h.gains_handle command.1 command.2).trans (ih (settled_handle command.1 h command.2))

/-- From the start on the statistics have what has been gained. -/
theorem statistics_run (settings : ChannelSettings) (supported : DirectionMap)
    (commands : List (Host × Command)) :
    let statistics := ((Channel.start settings supported).run commands).1.statistics
    let frames := sentFrames ((Channel.start settings supported).run commands).2
    statistics.framesSent = frames.length ∧
      statistics.bytesOut + 3 * frames.count Turn.farewell =
        (frames.map Frame.encodedSize).sum := by
  intro statistics frames
  have hGains := (Settled.start settings supported).gains_run commands
  have hOctets : statistics.bytesOut = (frames.map Frame.countedSize).sum :=
    hGains.bytesOut.trans (Nat.zero_add _)
  refine ⟨hGains.framesSent.trans (Nat.zero_add _), ?_⟩
  rw [hOctets, Frame.sum_encodedSize]

/-- After every run the statistics count each frame that has got out, on any connection, and the
octets of each but the farewells, which have three octets each. So the octets agree with the frames
if and only if no farewell has got out. -/
theorem octets_agree_iff (settings : ChannelSettings) (supported : DirectionMap)
    (commands : List (Host × Command)) :
    let statistics := ((Channel.start settings supported).run commands).1.statistics
    let frames := sentFrames ((Channel.start settings supported).run commands).2
    statistics.framesSent = frames.length ∧
      (∀ frame ∈ frames, ∃ bytes, frame.encode = .ok bytes) ∧
      statistics.bytesOut + 3 * frames.count Turn.farewell =
        (frames.map Frame.encodedSize).sum ∧
      (statistics.bytesOut = (frames.map Frame.encodedSize).sum ↔ Turn.farewell ∉ frames) := by
  intro statistics frames
  obtain ⟨hFrames, hOctets⟩ : statistics.framesSent = frames.length ∧
      statistics.bytesOut + 3 * frames.count Turn.farewell = (frames.map Frame.encodedSize).sum :=
    statistics_run settings supported commands
  refine ⟨hFrames, ((Settled.start settings supported).gains_run commands).encodable, hOctets, ?_⟩
  rw [← hOctets, ← List.count_eq_zero]
  omega

/-- The farewell gets out when the application shuts the channel down. -/
theorem Settled.farewell_of_shutdown (h : c.Settled) {commands : List (Host × Command)}
    {connection : Nat} (hConnection : (c.run commands).1.connection = some connection) {host : Host}
    (hWrite : ∀ log, host.write log Turn.farewell = .ok ()) :
    Turn.farewell ∈ sentFrames (c.run (commands ++ [(host, .shutdown)])).2 := by
  have hSettled := settled_run h commands
  have hSent : Occurrence.sent connection Turn.farewell ∈
      ((c.run commands).1.handle host .shutdown).2 := by
    rw [(hSettled.handle_shutdown host).2]
    simp [lastWords, hConnection, Occurrence.parting, hWrite]
  rw [run_append, run_cons, run_nil, List.append_nil, sentFrames_append]
  exact List.mem_append_right _ (mem_sentFrames.mpr ⟨connection, hSent⟩)

theorem octets_differ_of_farewell {settings : ChannelSettings} {supported : DirectionMap}
    {commands : List (Host × Command)}
    (hFarewell : Turn.farewell ∈ sentFrames ((Channel.start settings supported).run commands).2) :
    ((Channel.start settings supported).run commands).1.statistics.bytesOut ≠
      ((sentFrames ((Channel.start settings supported).run commands).2).map
        Frame.encodedSize).sum := by
  have hOctets := (statistics_run settings supported commands).2
  have hCount := List.count_pos_iff.mpr hFarewell
  omega

/-- A session is opened and ended by the application. -/
theorem farewell_octets_uncounted :
    let server := Server.operations "10.0.0.1" 1 (List.replicate 32 9)
    let commands := Host.steady.dialing server ++ [(Host.steady, .shutdown)]
    let statistics := ((Channel.start {} .empty).run commands).1.statistics
    let frames := sentFrames ((Channel.start {} .empty).run commands).2
    statistics.framesSent = frames.length ∧
      statistics.bytesOut ≠ (frames.map Frame.encodedSize).sum := by
  intro server commands statistics frames
  have hKey : server.publicKey.length = agreementKeySize := rfl
  clear_value server
  have hWrite : ∀ log, Host.steady.write log Turn.farewell = .ok () := fun _ => rfl
  have hFarewell : Turn.farewell ∈ frames :=
    (Settled.start {} .empty).farewell_of_shutdown (run_dialing hKey).1 hWrite
  exact ⟨(statistics_run {} .empty commands).1, octets_differ_of_farewell hFarewell⟩

end Channel

end DeviceUplink
