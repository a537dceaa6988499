import DeviceUplink.Proofs.Channel.Mirror
import DeviceUplink.Proofs.Channel.RoundTrips

/-!
# Frames that do nothing

Some frames a server may send at any time without any effect but that they are counted. With such
frames put in anywhere a run is the same, up to those counts.
-/

namespace DeviceUplink

/-- A frame does nothing to a channel: it is none that a server sends, or says what is known, or
answers no ping, or does not open. -/
inductive Frame.Inert (suite : Suite) (c : Channel) : Frame → Prop
  | connect (body : Connect) : Inert suite c (.connect body)
  | syncRequest (body : SyncBody) : Inert suite c (.syncRequest body)
  | pingReq : Inert suite c .pingReq
  | accepted : Inert suite c (.connAck .accepted)
  | pingResp (hOutstanding : c.roundTrip.outstanding = none) : Inert suite c .pingResp
  | unopened {body : SyncBody} (hEncrypted : body.isEncrypted = true)
      (hOpen : ∀ session, c.session = some session →
        ∀ plain, session.decrypt suite body.payload ≠ .ok plain) :
      Inert suite c (.syncResponse body)

theorem Frame.Inert.of_same {suite : Suite} {c d : Channel} {frame : Frame}
    (h : frame.Inert suite c) (hRoundTrip : d.roundTrip = c.roundTrip)
    (hSession : d.session = c.session) : frame.Inert suite d := by
  cases h with
  | connect body => exact .connect body
  | syncRequest body => exact .syncRequest body
  | pingReq => exact .pingReq
  | accepted => exact .accepted
  | pingResp hOutstanding => exact .pingResp (hRoundTrip ▸ hOutstanding)
  | unopened hEncrypted hOpen => exact .unopened hEncrypted (hSession ▸ hOpen)

/-- One read has the frames of another, and among them others that do nothing where they come. -/
inductive Padded (host : Host) (connection : Nat) : Turn → List Frame → List Frame → Prop
  | nil (t : Turn) : Padded host connection t [] []
  | frame {t : Turn} (frame : Frame) {plain padded : List Frame}
      (h : Padded host connection (t.receiveAll host connection [frame]) plain padded) :
      Padded host connection t (frame :: plain) (frame :: padded)
  | inert {t : Turn} {frame : Frame} {plain padded : List Frame}
      (hInert : frame.Inert host.suite t.channel) (h : Padded host connection t plain padded) :
      Padded host connection t plain (frame :: padded)

/-- One run has the commands of another, and in its reads, or in reads of their own, frames that do
nothing where they come. -/
inductive Inserted : Channel → List (Host × Command) → List (Host × Command) → Prop
  | nil (c : Channel) : Inserted c [] []
  | command {c : Channel} (host : Host) (command : Command) {plain padded : List (Host × Command)}
      (h : Inserted (c.handle host command).1 plain padded) :
      Inserted c ((host, command) :: plain) ((host, command) :: padded)
  | read {c : Channel} (host : Host) (connection : Nat) {frames frames' : List Frame}
      (size size' : Nat) {plain padded : List (Host × Command)}
      (hPadded : Padded host connection { channel := c } frames frames')
      (h : Inserted (c.handle host (.inbound connection frames size)).1 plain padded) :
      Inserted c ((host, .inbound connection frames size) :: plain)
        ((host, .inbound connection frames' size') :: padded)
  | extra {c : Channel} (host : Host) (connection : Nat) {frames : List Frame} (size : Nat)
      {plain padded : List (Host × Command)}
      (hInert : ∀ frame ∈ frames, frame.Inert host.suite c) (h : Inserted c plain padded) :
      Inserted c plain ((host, .inbound connection frames size) :: padded)

def Channel.unreceived (c : Channel) : Channel :=
  { c with statistics := { c.statistics with
    bytesIn := 0
    framesReceived := 0
    lastFrameIn := none } }

def Turn.unreceived (t : Turn) : Turn :=
  { t with channel := t.channel.unreceived }

def Mirror.recounting (bytesIn framesReceived : Nat) (lastFrameIn : Option Nat) : Mirror where
  roundTrip := id
  statistics s := { s with bytesIn, framesReceived, lastFrameIn }

theorem Mirror.reflects_recounting (bytesIn framesReceived : Nat) (lastFrameIn : Option Nat)
    (host : Host) : (recounting bytesIn framesReceived lastFrameIn).Reflects host host where
  suite := rfl
  identity _ := rfl
  draw _ := rfl
  compile _ := rfl
  digest _ := rfl
  write _ := rfl
  isOnline _ := rfl
  decide _ := rfl
  sent _ _ := rfl
  parted _ := rfl
  connected _ := rfl
  shown _ _ := rfl
  reset _ := rfl
  pinged _ := rfl
  ponged _ := rfl

namespace Turn

variable {host : Host} {connection : Nat} {t u : Turn}

theorem eq_recounting (h : u.unreceived = t.unreceived) :
    ∃ bytesIn framesReceived lastFrameIn,
      u = (Mirror.recounting bytesIn framesReceived lastFrameIn).turn t := by
  let s := u.channel.statistics
  refine ⟨s.bytesIn, s.framesReceived, s.lastFrameIn, ?_⟩
  calc u = (Mirror.recounting s.bytesIn s.framesReceived s.lastFrameIn).turn u.unreceived := rfl
    _ = (Mirror.recounting s.bytesIn s.framesReceived s.lastFrameIn).turn t := by
      rw [h]
      rfl

theorem unreceived_receive (h : u.unreceived = t.unreceived) (frame : Frame) :
    (u.receive host connection frame).unreceived =
      (t.receive host connection frame).unreceived := by
  obtain ⟨bytesIn, framesReceived, lastFrameIn, rfl⟩ := eq_recounting h
  have hReflects := Mirror.reflects_recounting bytesIn (framesReceived + 1) (some host.now) host
  rw [← hReflects.receive t (by rfl) connection frame]
  rfl

theorem unreceived_obey (h : u.unreceived = t.unreceived) {command : Command}
    (hRead : ∀ connection frames size, command ≠ .inbound connection frames size) :
    (u.obey host command).unreceived = (t.obey host command).unreceived := by
  obtain ⟨bytesIn, framesReceived, lastFrameIn, rfl⟩ := eq_recounting h
  have hReflects := Mirror.reflects_recounting bytesIn framesReceived lastFrameIn host
  rw [← hReflects.obey t hRead]
  rfl

theorem connection_of_unreceived (h : u.unreceived = t.unreceived) :
    u.channel.connection = t.channel.connection :=
  congrArg (fun t => t.channel.connection) h

theorem unreceived_receiveAll (h : u.unreceived = t.unreceived) (frames : List Frame) :
    (u.receiveAll host connection frames).unreceived =
      (t.receiveAll host connection frames).unreceived := by
  induction frames generalizing t u with
  | nil => exact h
  | cons frame rest ih =>
    have hConnection := connection_of_unreceived h
    simp only [receiveAll, List.foldl_cons, hConnection] at ih ⊢
    split
    · exact ih (unreceived_receive h frame)
    · exact ih h

theorem unreceived_inbound (t : Turn) (frames : List Frame) (size : Nat) :
    (t.inbound host connection frames size).unreceived =
      (t.receiveAll host connection frames).unreceived := by
  simp only [inbound]
  split
  · exact unreceived_receiveAll (u := t.countBytes size) (by rfl) frames
  · next hOther => rw [receiveAll_of_ne host hOther]

theorem outstanding_of_answer (h : t.channel.phase.isConnected = true)
    (hConnection : t.channel.connection = some connection) :
    (t.receiveAll host connection [.pingResp]).channel.roundTrip.outstanding = none := by
  have hNone := t.channel.roundTrip.outstanding_processPong host.now
  rw [receiveAll_cons host hConnection, receive_pingResp h]
  exact hNone

theorem receive_of_inert (h : t.channel.phase.isConnected = true)
    (hShown : t.channel.statistics.lastRoundTrip = t.channel.roundTrip.last) {frame : Frame}
    (hInert : frame.Inert host.suite t.channel) :
    t.receive host connection frame = t.countReceived host.now := by
  have hPhase : (t.countReceived host.now).channel.phase.isConnected = true := h
  cases hInert with
  | connect | syncRequest | pingReq => rfl
  | accepted =>
    simp only [receive, inputOfFrame, notePart, if_true]
    rw [input_accepted host hPhase]
  | pingResp hOutstanding =>
    rw [receive_pingResp h]
    simp [recordPong, countReceived, update, RoundTrip.processPong, hOutstanding, ← hShown]
  | @unopened body hEncrypted hOpen =>
    have hNone : openPayload host.suite t.channel.session body = none := by
      simp only [openPayload, hEncrypted, if_true]
      cases hSession : t.channel.session with
      | none => rfl
      | some session =>
        cases hDecrypt : session.decrypt host.suite body.payload with
        | ok plain => exact absurd hDecrypt (hOpen session hSession plain)
        | error => simp only [hDecrypt, Except.toOption]
    have hCounted : (t.countReceived host.now).channel.session = t.channel.session := rfl
    simp only [receive, inputOfFrame, hCounted, hNone, Option.map_none]

theorem unreceived_of_inert (h : t.channel.connection.isSome = true → t.channel.Equipped)
    (hShown : t.channel.statistics.lastRoundTrip = t.channel.roundTrip.last) {frame : Frame}
    (hInert : frame.Inert host.suite t.channel) :
    (t.receiveAll host connection [frame]).unreceived = t.unreceived := by
  by_cases hConnection : t.channel.connection = some connection
  · have hEquipped := h (Option.isSome_of_eq_some hConnection)
    rw [receiveAll_cons host hConnection, receive_of_inert hEquipped.connected hShown hInert]
    rfl
  · rw [receiveAll_of_ne host hConnection]

end Turn

namespace Padded

variable {host : Host} {connection : Nat} {t u : Turn}

theorem of_inert {frames : List Frame} (h : ∀ frame ∈ frames, frame.Inert host.suite t.channel) :
    Padded host connection t [] frames := by
  induction frames with
  | nil => exact .nil t
  | cons frame rest ih =>
    have hRest := ih fun other hOther => h other (List.mem_cons_of_mem _ hOther)
    exact .inert (h frame (List.mem_cons_self ..)) hRest

theorem unreceived_receiveAll {plain padded : List Frame}
    (h : Padded host connection t plain padded)
    (hEquipped : t.channel.connection.isSome = true → t.channel.Equipped) {history : List Beat}
    (hTimed : t.channel.Timed history) (hSame : u.unreceived = t.unreceived) :
    (u.receiveAll host connection padded).unreceived =
      (t.receiveAll host connection plain).unreceived := by
  -- Both turns go on with a frame of both reads; only the second takes in what was put between.
  induction h generalizing u history with
  | nil => exact hSame
  | @frame t frame plain padded _ ih =>
    rw [← List.singleton_append, ← List.singleton_append (l := plain), Turn.receiveAll_append,
      Turn.receiveAll_append]
    have hNext : (u.receiveAll host connection [frame]).unreceived =
        (t.receiveAll host connection [frame]).unreceived :=
      Turn.unreceived_receiveAll hSame [frame]
    by_cases hConnection : t.channel.connection = some connection
    · have hLive := hEquipped (Option.isSome_of_eq_some hConnection)
      have hLater : (t.receiveAll host connection [frame]).channel.connection.isSome = true →
          (t.receiveAll host connection [frame]).channel.Equipped :=
        Turn.equipped_receiveAll host hLive hConnection [frame]
      exact ih hLater (Turn.timed_receiveAll host hLive hConnection hTimed [frame]).1 hNext
    · rw [Turn.receiveAll_of_ne host hConnection] at ih hNext ⊢
      exact ih hEquipped hTimed hNext
  | @inert t frame plain padded hInert _ ih =>
    rw [← List.singleton_append, Turn.receiveAll_append]
    apply ih hEquipped hTimed
    rw [Turn.unreceived_receiveAll hSame,
      Turn.unreceived_of_inert hEquipped hTimed.shown hInert]

end Padded

namespace Channel

variable {c d : Channel} {host : Host} {past : List Beat}

def Agrees (after before : Channel × List Occurrence) : Prop :=
  after.1.unreceived = before.1.unreceived ∧ after.2 = before.2

theorem Agrees.trans {first second third : Channel × List Occurrence} (h : Agrees first second)
    (h' : Agrees second third) : Agrees first third :=
  ⟨h.1.trans h'.1, h.2.trans h'.2⟩

theorem Agrees.cons {command command' : Host × Command} {rest rest' : List (Host × Command)}
    (h : Agrees (d.handle command'.1 command'.2) (c.handle command.1 command.2))
    (hRest : Agrees ((d.handle command'.1 command'.2).1.run rest')
      ((c.handle command.1 command.2).1.run rest)) :
    Agrees (d.run (command' :: rest')) (c.run (command :: rest)) := by
  rw [run_cons, run_cons]
  exact ⟨hRest.1, congrArg₂ _ h.2 hRest.2⟩

theorem phase_of_unreceived (h : d.unreceived = c.unreceived) : d.phase = c.phase :=
  congrArg (fun c => c.phase) h

theorem agrees_handle_of_obey {host' : Host} {command command' : Command}
    (hSame : d.unreceived = c.unreceived)
    (hObeyed : (Turn.obey host' { channel := d } command').unreceived =
      (Turn.obey host { channel := c } command).unreceived) :
    Agrees (d.handle host' command') (c.handle host command) := by
  have hPhase := phase_of_unreceived hSame
  by_cases hShutdown : c.phase = .shutdown
  · rw [handle_of_shutdown hShutdown, handle_of_shutdown (hPhase.trans hShutdown)]
    exact ⟨hSame, rfl⟩
  · rw [handle_eq hShutdown, handle_eq (hPhase ▸ hShutdown)]
    exact ⟨congrArg (fun t => t.channel) hObeyed, congrArg (fun t => t.log) hObeyed⟩

theorem agrees_read (hSettled : c.Settled) (hTimed : c.Timed past)
    (hSame : d.unreceived = c.unreceived) {connection : Nat} {frames frames' : List Frame}
    (hPadded : Padded host connection { channel := c } frames frames') (size size' : Nat) :
    Agrees (d.handle host (.inbound connection frames' size'))
      (c.handle host (.inbound connection frames size)) := by
  have hStart : Turn.unreceived { channel := d } = Turn.unreceived { channel := c } := by
    simp only [Turn.unreceived, hSame]
  apply agrees_handle_of_obey hSame
  simp only [Turn.obey]
  rw [Turn.unreceived_inbound, Turn.unreceived_inbound]
  exact hPadded.unreceived_receiveAll hSettled.equipped hTimed hStart

theorem agrees_command (hSame : d.unreceived = c.unreceived) (host : Host) (command : Command) :
    Agrees (d.handle host command) (c.handle host command) := by
  have hStart : Turn.unreceived { channel := d } = Turn.unreceived { channel := c } := by
    simp only [Turn.unreceived, hSame]
  apply agrees_handle_of_obey hSame
  cases command with
  | inbound connection frames size =>
    simp only [Turn.obey]
    rw [Turn.unreceived_inbound, Turn.unreceived_inbound]
    exact Turn.unreceived_receiveAll hStart frames
  | _ => exact Turn.unreceived_obey hStart (by rintro _ _ _ ⟨⟩)

theorem agrees_nothing (c : Channel) (host : Host) (connection size : Nat) :
    Agrees (c.handle host (.inbound connection [] size)) (c, []) := by
  by_cases hShutdown : c.phase = .shutdown
  · rw [handle_of_shutdown hShutdown]
    exact ⟨rfl, rfl⟩
  · have hObeyed : (Turn.inbound host { channel := c } connection [] size).unreceived =
        Turn.unreceived { channel := c } := Turn.unreceived_inbound _ [] size
    rw [handle_eq hShutdown]
    exact ⟨congrArg (fun t => t.channel) hObeyed, congrArg (fun t => t.log) hObeyed⟩

theorem agrees_extra (hSettled : c.Settled) (hTimed : c.Timed past)
    (hSame : d.unreceived = c.unreceived) {connection : Nat} {frames : List Frame}
    (hInert : ∀ frame ∈ frames, frame.Inert host.suite c) (size : Nat) :
    Agrees (d.handle host (.inbound connection frames size)) (c, []) := by
  have hPadded : Padded host connection { channel := c } [] frames := .of_inert hInert
  exact (agrees_read hSettled hTimed hSame hPadded 0 size).trans (agrees_nothing c host _ 0)

end Channel

namespace Inserted

variable {c d : Channel} {plain padded : List (Host × Command)}

theorem agrees (h : Inserted c plain padded) (hSettled : c.Settled) {past : List Beat}
    (hTimed : c.Timed past) (hSame : d.unreceived = c.unreceived) :
    Channel.Agrees (d.run padded) (c.run plain) := by
  induction h generalizing d past with
  | nil => exact ⟨hSame, rfl⟩
  | command host command _ ih =>
    have hNext := Channel.agrees_command hSame host command
    exact .cons hNext (ih (Channel.settled_handle host hSettled command)
      (hTimed.handle hSettled host command) hNext.1)
  | read host connection size size' hPadded _ ih =>
    have hNext := Channel.agrees_read hSettled hTimed hSame hPadded size size'
    exact .cons hNext (ih (Channel.settled_handle host hSettled _)
      (hTimed.handle hSettled host _) hNext.1)
  | extra host connection size hInert _ ih =>
    obtain ⟨hNext, hLog⟩ := Channel.agrees_extra hSettled hTimed hSame hInert size
    obtain ⟨hLast, hMore⟩ := ih hSettled hTimed hNext
    rw [Channel.run_cons, hLog]
    exact ⟨hLast, hMore⟩

theorem append_left {c : Channel} (first : List (Host × Command))
    (h : Inserted (c.run first).1 plain padded) :
    Inserted c (first ++ plain) (first ++ padded) := by
  induction first generalizing c with
  | nil => exact h
  | cons command rest ih => exact .command command.1 command.2 (ih h)

theorem exists_plain (h : Inserted c plain padded) {front : List (Host × Command)}
    (hFront : front <+: padded) : ∃ front', front' <+: plain ∧ Inserted c front' front := by
  induction h generalizing front with
  | nil c =>
    obtain rfl := List.prefix_nil.mp hFront
    exact ⟨[], List.nil_prefix, .nil c⟩
  | command host command _ ih =>
    rcases List.prefix_cons_iff.mp hFront with rfl | ⟨more, rfl, hMore⟩
    · exact ⟨[], List.nil_prefix, .nil _⟩
    · obtain ⟨front', hPlain, hInserted⟩ := ih hMore
      exact ⟨_, (List.prefix_cons_inj _).mpr hPlain, .command host command hInserted⟩
  | read host connection size size' hPadded _ ih =>
    rcases List.prefix_cons_iff.mp hFront with rfl | ⟨more, rfl, hMore⟩
    · exact ⟨[], List.nil_prefix, .nil _⟩
    · obtain ⟨front', hPlain, hInserted⟩ := ih hMore
      exact ⟨_, (List.prefix_cons_inj _).mpr hPlain, .read host connection _ _ hPadded hInserted⟩
  | extra host connection size hInert _ ih =>
    rcases List.prefix_cons_iff.mp hFront with rfl | ⟨more, rfl, hMore⟩
    · exact ⟨[], List.nil_prefix, .nil _⟩
    · obtain ⟨front', hPlain, hInserted⟩ := ih hMore
      exact ⟨front', hPlain, .extra host connection size hInert hInserted⟩

theorem exists_padded (h : Inserted c plain padded) {front : List (Host × Command)}
    (hFront : front <+: plain) : ∃ front', front' <+: padded ∧ Inserted c front front' := by
  induction h generalizing front with
  | nil c =>
    obtain rfl := List.prefix_nil.mp hFront
    exact ⟨[], List.nil_prefix, .nil c⟩
  | command host command _ ih =>
    rcases List.prefix_cons_iff.mp hFront with rfl | ⟨more, rfl, hMore⟩
    · exact ⟨[], List.nil_prefix, .nil _⟩
    · obtain ⟨front', hPadded, hInserted⟩ := ih hMore
      exact ⟨_, (List.prefix_cons_inj _).mpr hPadded, .command host command hInserted⟩
  | read host connection size size' hPadded _ ih =>
    rcases List.prefix_cons_iff.mp hFront with rfl | ⟨more, rfl, hMore⟩
    · exact ⟨[], List.nil_prefix, .nil _⟩
    · obtain ⟨front', hPadded', hInserted⟩ := ih hMore
      exact ⟨_, (List.prefix_cons_inj _).mpr hPadded', .read host connection _ _ hPadded hInserted⟩
  | extra host connection size hInert _ ih =>
    obtain ⟨front', hPadded, hInserted⟩ := ih hFront
    exact ⟨_, (List.prefix_cons_inj _).mpr hPadded, .extra host connection size hInert hInserted⟩

end Inserted

namespace Channel

theorem Settled.handle_inert {c : Channel} (h : c.Settled)
    (hShown : c.statistics.lastRoundTrip = c.roundTrip.last) {connection : Nat}
    (hConnection : c.connection = some connection) {host : Host} {frame : Frame}
    (hInert : frame.Inert host.suite c) (size : Nat) :
    c.handle host (.inbound connection [frame] size) =
      ({ c with statistics := { c.statistics with
          bytesIn := c.statistics.bytesIn + size
          framesReceived := c.statistics.framesReceived + 1
          lastFrameIn := some host.now } }, []) := by
  let read := Turn.countBytes { channel := c } size
  have hEquipped := h.equipped (Option.isSome_of_eq_some hConnection)
  have hReceived : read.receive host connection frame = read.countReceived host.now :=
    Turn.receive_of_inert (t := read) hEquipped.connected hShown (hInert.of_same rfl rfl)
  rw [h.handle_of_isLinked host (isLinked_of_connection hConnection), Turn.obey, Turn.inbound,
    if_pos (by exact hConnection), Turn.receiveAll_cons host (by exact hConnection), hReceived]
  rfl

/-- A run in which frames that do nothing are put in has the same occurrences, and in all its states
the channel is the same up to what it has counted of what came in: every state of the one run has
its counterpart in the other. Such a frame in a read of its own is counted, and that is all; so a
response that does not open neither opens a session nor ends one. -/
theorem inert_frames_are_only_counted {settings : ChannelSettings} {supported : DirectionMap}
    {plain padded : List (Host × Command)}
    (h : Inserted (Channel.start settings supported) plain padded) :
    let start := Channel.start settings supported
    let c := (start.run plain).1
    Agrees (start.run padded) (start.run plain) ∧
      (∀ front, front <+: padded → ∃ front', front' <+: plain ∧ Inserted start front' front ∧
        Agrees (start.run front) (start.run front')) ∧
      (∀ front, front <+: plain → ∃ front', front' <+: padded ∧ Inserted start front front' ∧
        Agrees (start.run front') (start.run front)) ∧
      ∀ (host : Host) (connection : Nat) (frame : Frame) (size : Nat),
        c.connection = some connection → frame.Inert host.suite c →
        c.handle host (.inbound connection [frame] size) =
          ({ c with statistics := { c.statistics with
              bytesIn := c.statistics.bytesIn + size
              framesReceived := c.statistics.framesReceived + 1
              lastFrameIn := some host.now } }, []) := by
  intro start c
  have hSettled : start.Settled := .start settings supported
  have hTimed : start.Timed [] := .start settings supported
  have hAgrees : ∀ {few many : List (Host × Command)}, Inserted start few many →
      Agrees (start.run many) (start.run few) :=
    fun hInserted => hInserted.agrees hSettled hTimed rfl
  refine ⟨hAgrees h, ?_, ?_, ?_⟩
  · intro front hFront
    obtain ⟨front', hPlain, hInserted⟩ := h.exists_plain hFront
    exact ⟨front', hPlain, hInserted, hAgrees hInserted⟩
  · intro front hFront
    obtain ⟨front', hPadded, hInserted⟩ := h.exists_padded hFront
    exact ⟨front', hPadded, hInserted, hAgrees hInserted⟩
  · intro host connection frame size hConnection hInert
    have hReached : c.Settled := settled_run hSettled plain
    exact hReached.handle_inert (hTimed.run hSettled plain).shown hConnection hInert size

/-- An answer comes twice, and later a ping and a response that is too short to open. -/
theorem inserted_second_answer {c : Channel} (h : c.Settled) (commands : List (Host × Command))
    {connection : Nat} (hConnection : (c.run commands).1.connection = some connection)
    (host late : Host) :
    Inserted c (commands ++ [(host, .inbound connection [.pingResp] 2)])
      (commands ++ [(host, .inbound connection [.connAck .accepted, .pingResp, .pingResp] 8),
        (late, .inbound connection [.pingReq, .syncResponse (.encrypted [])] 9)]) := by
  have hSettled := settled_run h commands
  have hEquipped := hSettled.equipped (Option.isSome_of_eq_some hConnection)
  have hAnswered : (Turn.receiveAll host connection { channel := (c.run commands).1 }
      [.pingResp]).channel.roundTrip.outstanding = none :=
    Turn.outstanding_of_answer hEquipped.connected hConnection
  apply Inserted.append_left commands
  refine .read host connection 2 8 ?_ (.extra late connection 9 ?_ (.nil _))
  · exact .inert .accepted (.frame .pingResp (.inert (.pingResp hAnswered) (.nil _)))
  · intro frame hFrame
    simp only [List.mem_cons, List.not_mem_nil, or_false] at hFrame
    rcases hFrame with rfl | rfl
    · exact .pingReq
    · refine .unopened rfl ?_
      rintro session - plain ⟨⟩

theorem inert_frames_are_only_counted_on_dialed :
    let server := Server.operations "10.0.0.1" 1 (List.replicate 32 9)
    let late : Host := { Host.steady with now := 5 }
    let plain := Host.steady.dialing server ++ [(Host.steady, .inbound 3 [.pingResp] 2)]
    let padded := Host.steady.dialing server ++
      [(Host.steady, .inbound 3 [.connAck .accepted, .pingResp, .pingResp] 8),
        (late, .inbound 3 [.pingReq, .syncResponse (.encrypted [])] 9)]
    let start := Channel.start {} .empty
    Inserted start plain padded ∧ Agrees (start.run padded) (start.run plain) := by
  intro server late plain padded start
  have hDialed := (run_dialing (by rfl : server.publicKey.length = agreementKeySize)).1
  have hInserted : Inserted start plain padded :=
    inserted_second_answer (.start {} .empty) _ hDialed Host.steady late
  exact ⟨hInserted, (inert_frames_are_only_counted hInserted).1⟩

end Channel

end DeviceUplink
