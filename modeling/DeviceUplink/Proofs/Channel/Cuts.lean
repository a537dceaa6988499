import DeviceUplink.Proofs.Channel.Accounting
import DeviceUplink.Proofs.Channel.Reading
import DeviceUplink.Proofs.Channel.SessionKey
import DeviceUplink.Proofs.Channel.World

/-!
# How reads cut what a server sends

The same octets may reach a reader in different pieces. What the channel makes of them is the same
as long as the same frames come out before the fault of the stream; a piece that holds the fault
gives up no frame at all, so a cut can lose what stands before the fault.
-/

namespace DeviceUplink

/-- The commands of a run, handled by hosts in which one world shows itself at any instants. -/
inductive Attended (world : Host) : Channel → (told : List Occurrence) → List (Host × Command) →
    Prop
  | nil (c : Channel) (told : List Occurrence) : Attended world c told []
  | cons {c : Channel} {told : List Occurrence} (now : Nat) (command : Command)
      {rest : List (Host × Command)}
      (hRest : Attended world (c.handle (world.after told now) command).1
        (told ++ (c.handle (world.after told now) command).2) rest) :
      Attended world c told ((world.after told now, command) :: rest)

namespace Turn

def takeIn (world : Host) (connection : Nat) (frames : List Frame) (fault? : Option FrameError)
    (t : Turn) : Turn :=
  match fault? with
  | none => t.receiveAll world connection frames
  | some error => (t.receiveAll world connection frames).readFailed world connection (.frame error)

theorem takeIn_append (world : Host) (connection : Nat) (first rest : List Frame)
    (fault? : Option FrameError) (t : Turn) :
    t.takeIn world connection (first ++ rest) fault? =
      (t.receiveAll world connection first).takeIn world connection rest fault? := by
  cases fault? <;> simp only [takeIn, receiveAll_append]

end Turn

namespace Channel

variable {c : Channel}

theorem seen_handle_inbound (world : Host) (told : List Occurrence) (h : c.Settled)
    (now connection : Nat) (frames : List Frame) (size : Nat) :
    let next := c.handle (world.after told now) (.inbound connection frames size)
    Turn.seen told { channel := next.1, log := next.2 } =
      (Turn.seen told { channel := c }).receiveAll world.untimed connection frames := by
  by_cases hPhase : c.phase = .shutdown
  · obtain ⟨hConnection, _⟩ := h.nothing_under_way (.inr hPhase)
    have hOther : c.untimed.connection ≠ some connection := by simp [Channel.untimed, hConnection]
    rw [handle_of_shutdown hPhase, Turn.receiveAll_of_ne world.untimed hOther]
  · rw [handle_eq hPhase]
    exact Turn.seen_inbound world told now { channel := c } connection frames size

theorem seen_handle_readFailed (world : Host) (told : List Occurrence) (h : c.Settled)
    (now connection : Nat) (error : ChannelError) :
    let next := c.handle (world.after told now) (.readFailed connection error)
    Turn.seen told { channel := next.1, log := next.2 } =
      (Turn.seen told { channel := c }).readFailed world.untimed connection error := by
  by_cases hPhase : c.phase = .shutdown
  · obtain ⟨hConnection, _⟩ := h.nothing_under_way (.inr hPhase)
    rw [handle_of_shutdown hPhase]
    simp [Turn.readFailed, Channel.untimed, hConnection]
  · rw [handle_eq hPhase]
    exact Turn.seen_readFailed world told now { channel := c } connection error

/-- A channel sees of a stream only the frames that its reader gets and the fault. -/
theorem seen_run {world : Host} {told : List Occurrence} {r : Reader} {pieces : List Bytes}
    {run : List (Host × Command)} (h : c.Settled) (hReading : r.isFinished = false)
    (hRun : Attended world c told run)
    (hCommands : run.map Prod.snd = r.commands pieces) :
    Turn.seen told { channel := (c.run run).1, log := (c.run run).2 } =
      (Turn.seen told { channel := c }).takeIn world.untimed r.connection
        (r.assembler.delivered pieces) (r.assembler.fault? pieces) := by
  induction pieces generalizing c told r run with
  | nil =>
    obtain rfl : run = [] := List.map_eq_nil_iff.mp hCommands
    rfl
  | cons piece more ih =>
    rcases hFeed : r.assembler.feed piece with ⟨result, next⟩
    cases result with
    | ok frames =>
      rw [Reader.commands_cons_ok hReading hFeed] at hCommands
      cases hRun with
      | nil => cases hCommands
      | cons now command hRest =>
        obtain ⟨rfl, hMore⟩ := List.cons.inj hCommands
        have hFirst := seen_handle_inbound world told h now r.connection frames piece.length
        have hLater := ih (settled_handle _ h _) (r := { r with assembler := next }) hReading
          hRest hMore
        rw [Assembler.delivered, hFeed, Assembler.fault?_cons_ok hFeed, Turn.takeIn_append,
          ← hFirst, run_cons]
        simpa [Turn.seen] using hLater
    | error error =>
      rw [Reader.commands_cons_error hReading hFeed] at hCommands
      cases hRun with
      | nil => cases hCommands
      | cons now command hRest =>
        obtain ⟨rfl, hMore⟩ := List.cons.inj hCommands
        obtain rfl := List.map_eq_nil_iff.mp hMore
        rw [Assembler.delivered, hFeed, Assembler.fault?_cons_error hFeed]
        simp only [run_cons, run_nil, List.append_nil]
        exact seen_handle_readFailed world told h now r.connection (.frame error)

end Channel

namespace Turn

variable {host : Host} {t u : Turn}

def received (t : Turn) : Nat :=
  t.channel.statistics.framesReceived

theorem received_failServer (host : Host) (t : Turn) :
    (t.failServer host).received = t.received := by
  obtain ⟨_, _, _, _, h⟩ := t.channel_failServer host
  simp only [received, h, Channel.idle]

theorem received_teardown (host : Host) (t : Turn) : (t.teardown host).received = t.received := by
  obtain ⟨_, h⟩ := t.channel_teardown host
  simp only [received, h, Channel.idle]

theorem received_opened (t : Turn) (payload? : Option Bytes) (server : Server) :
    (t.opened host payload? server).received = t.received := by
  simp only [received, channel_opened]

theorem received_synced {directions : DirectionMap} (h : Synced host directions t u) :
    u.received = t.received := by
  cases h <;> rfl

theorem received_move (h : Move host t u) : t.received ≤ u.received := by
  cases h with
  | received => exact Nat.le_succ _
  | delivered payload => simp [received, channel_deliver]
  | synced _ hSynced => exact Nat.le_of_eq (received_synced hSynced).symm
  | opened _ _ hSynced =>
    exact Nat.le_of_eq (by rw [received_synced hSynced, received_opened])
  | _ => exact Nat.le_refl _

theorem received_moves (h : Moves host t u) : t.received ≤ u.received := by
  induction h with
  | refl => exact Nat.le_refl _
  | tail _ hMove ih => exact Nat.le_trans ih (received_move hMove)

theorem received_broken {connection : Nat} {before : Turn} {symptoms : List Occurrence}
    {cause : Occurrence} (h : Broken host connection t before symptoms cause) :
    before.received = t.received := by
  cases h with
  | opening payload? server => exact received_opened t payload? server
  | _ => rfl

/-- Frames that are received stay counted. -/
theorem received_course {connection : Nat} (h : Course host connection t u) :
    t.received ≤ u.received := by
  cases h with
  | kept hMoves => exact received_moves hMoves
  | failed hMoves hBroken =>
    rw [failFor, received_failServer]
    exact Nat.le_trans (received_moves hMoves) (Nat.le_of_eq (received_broken hBroken).symm)
  | @left before hMoves =>
    have hBefore : t.received ≤ before.received := received_moves hMoves
    rw [received_teardown]
    exact hBefore

theorem received_readFailed (host : Host) (h : t.channel.Equipped) {connection : Nat}
    (hConnection : t.channel.connection = some connection) (error : ChannelError) :
    (t.readFailed host connection error).received = t.received := by
  simp only [readFailed, hConnection, if_true]
  rw [input_connectionLost host (by exact h.connected), received_failServer]
  rfl

theorem received_le_readFailed (host : Host)
    (h : t.channel.connection.isSome = true → t.channel.Equipped) (connection : Nat)
    (error : ChannelError) :
    t.received ≤ (t.readFailed host connection error).received := by
  by_cases hConnection : t.channel.connection = some connection
  · have hEquipped := h (Option.isSome_of_eq_some hConnection)
    exact Nat.le_of_eq (received_readFailed host hEquipped hConnection error).symm
  · simp only [readFailed, hConnection, if_false]
    exact Nat.le_refl _

theorem received_receiveAll (host : Host)
    (h : t.channel.connection.isSome = true → t.channel.Equipped) (connection : Nat)
    (frames : List Frame) :
    t.received ≤ (t.receiveAll host connection frames).received := by
  by_cases hConnection : t.channel.connection = some connection
  · have hEquipped := h (Option.isSome_of_eq_some hConnection)
    exact received_course (course_receiveAll host hEquipped hConnection frames)
  · exact Nat.le_of_eq (by rw [receiveAll_of_ne host hConnection])

/-- A frame that is taken in does not go unnoticed. -/
theorem received_lt_receiveAll (host : Host) (h : t.channel.Equipped) {connection : Nat}
    (hConnection : t.channel.connection = some connection) (frame : Frame) (rest : List Frame) :
    t.received < (t.receiveAll host connection (frame :: rest)).received := by
  have hCounted := received_course (course_counted host h hConnection frame)
  have hPassage := (course_receive host h hConnection frame).passage h.connected
  have hRest := received_receiveAll host (fun hLive => hPassage.equipped hLive h) connection rest
  rw [receiveAll_cons host hConnection]
  exact Nat.lt_of_lt_of_le (Nat.lt_succ_self _) (Nat.le_trans hCounted hRest)

/-- What comes after the end of a connection makes no difference. -/
theorem takeIn_of_ended {connection : Nat} {common frames : List Frame}
    (hCommon : common <+: frames)
    (hEnded : (t.receiveAll host connection common).channel.connection ≠ some connection)
    (fault? : Option FrameError) :
    t.takeIn host connection frames fault? = t.receiveAll host connection common := by
  obtain ⟨rest, rfl⟩ := hCommon
  rw [takeIn_append]
  cases fault? with
  | none => exact receiveAll_of_ne host hEnded rest
  | some error =>
    simp only [takeIn]
    rw [receiveAll_of_ne host hEnded rest]
    simp only [readFailed, hEnded, if_false]

/-- On a connection that lives on, frames that are lost make a difference. -/
theorem takeIn_ne (h : t.channel.Equipped) {connection : Nat}
    (hConnection : t.channel.connection = some connection) {frames : List Frame}
    (hLive : (t.receiveAll host connection frames).channel.connection = some connection)
    (frame : Frame) (rest : List Frame) (error : FrameError) :
    (t.takeIn host connection frames (some error)).channel ≠
      (t.takeIn host connection (frames ++ frame :: rest) (some error)).channel := by
  have hFew := equipped_receiveAll host h hConnection frames (Option.isSome_of_eq_some hLive)
  have hMany := equipped_receiveAll host hFew hLive (frame :: rest)
  have hFewer : (t.takeIn host connection frames (some error)).received =
      (t.receiveAll host connection frames).received :=
    received_readFailed host hFew hLive (.frame error)
  have hMore := received_lt_receiveAll host hFew hLive frame rest
  have hKept := received_le_readFailed host hMany connection (.frame error)
  rw [takeIn_append]
  intro hSame
  have hCounts := congrArg (fun c => c.statistics.framesReceived) hSame
  exact Nat.lt_irrefl _ (Nat.lt_of_lt_of_le hMore
    (Nat.le_trans hKept (Nat.le_of_eq (hCounts.symm.trans hFewer))))

/-- Frames that are lost make no difference just when there are none of them or the connection
has ended before. -/
theorem eq_or_ended_of_takeIn_eq (h : t.channel.Equipped) {connection : Nat}
    (hConnection : t.channel.connection = some connection) {few many : List Frame}
    (hPrefix : few <+: many) {error : FrameError}
    (hSame : t.takeIn host connection few (some error) =
      t.takeIn host connection many (some error)) :
    few = many ∨ (t.receiveAll host connection few).channel.connection ≠ some connection := by
  by_cases hLive : (t.receiveAll host connection few).channel.connection = some connection
  · obtain ⟨rest, rfl⟩ := hPrefix
    cases rest with
    | nil => exact .inl (List.append_nil few).symm
    | cons frame rest =>
      exact absurd (congrArg channel hSame) (takeIn_ne h hConnection hLive frame rest error)
  · exact .inr hLive

/-- With the same fault behind them, two fronts of one list of frames come to the same just when
they are the same, or when the connection has ended within what they share. -/
theorem takeIn_eq_iff (h : t.channel.Equipped) {connection : Nat}
    (hConnection : t.channel.connection = some connection) {first second frames : List Frame}
    (hFirst : first <+: frames) (hSecond : second <+: frames) (error : FrameError) :
    t.takeIn host connection first (some error) = t.takeIn host connection second (some error) ↔
      first = second ∨ ∃ common, common <+: first ∧ common <+: second ∧
        (t.receiveAll host connection common).channel.connection ≠ some connection := by
  constructor
  · intro hSame
    rcases List.prefix_or_prefix_of_prefix hFirst hSecond with hPrefix | hPrefix
    · refine (eq_or_ended_of_takeIn_eq h hConnection hPrefix hSame).imp_right ?_
      exact fun hEnded => ⟨first, List.prefix_rfl, hPrefix, hEnded⟩
    · refine (eq_or_ended_of_takeIn_eq h hConnection hPrefix hSame.symm).imp Eq.symm ?_
      exact fun hEnded => ⟨second, hPrefix, List.prefix_rfl, hEnded⟩
  · rintro (rfl | ⟨common, hCommon, hCommon', hEnded⟩)
    · rfl
    · rw [takeIn_of_ended hCommon hEnded, takeIn_of_ended hCommon' hEnded]

end Turn

/-- The commands that a reader makes of these pieces, with nothing else in between, as they are
handled by a channel in one world. -/
structure Channel.Arrival (world : Host) (c : Channel) (r : Reader) (pieces : List Bytes)
    (run : List (Host × Command)) : Prop where
  attended : Attended world c [] run
  commands : run.map Prod.snd = r.commands pieces

namespace Channel

/-- In any state of any run, two ways to cut what comes in on the live connection have the same
effects if there is no fault in it; and if there is one, then just when both readers get the same
frames out before the piece with the fault, or when the connection has ended within what both get
out. -/
theorem cuts_agree_iff (settings : ChannelSettings) (supported : DirectionMap)
    (commands : List (Host × Command)) (limit : Nat) (events : List Reader.Event) {connection : Nat}
    {world : Host} {pieces pieces' : List Bytes} {first second : List (Host × Command)} :
    let c := ((Channel.start settings supported).run commands).1
    let r := ((Reader.start connection limit).takeAll events).1
    c.connection = some connection → r.isFinished = false → pieces.flatten = pieces'.flatten →
      Arrival world c r pieces first → Arrival world c r pieces' second →
      let same := (c.run first).2 = (c.run second).2 ∧
        (c.run first).1.untimed = (c.run second).1.untimed
      (r.assembler.fault? pieces = none → same) ∧
        (same ↔ r.assembler.delivered pieces = r.assembler.delivered pieces' ∨
          ∃ common, common <+: r.assembler.delivered pieces ∧
            common <+: r.assembler.delivered pieces' ∧
            (c.handle world (.inbound connection common 0)).1.connection ≠ some connection) := by
  intro c r hConnection hReading hStream hFirst hSecond same
  have hSettled : c.Settled := settled_run (.start settings supported) commands
  have hEquipped : c.Equipped := hSettled.equipped (Option.isSome_of_eq_some hConnection)
  have hReader : r.connection = connection := Reader.connection_takeAll _ events
  have hIdle : Frame.scan r.assembler.limit r.assembler.buffer.toList = .incomplete :=
    Reader.rests_takeAll (fun _ => rfl) events hReading
  obtain ⟨hFault, hWhole, frames, hFront, hFront'⟩ :=
    Assembler.delivered_of_flatten_eq hIdle hStream
  have hSeen := seen_run hSettled hReading hFirst.attended hFirst.commands
  have hSeen' := seen_run hSettled hReading hSecond.attended hSecond.commands
  rw [hReader] at hSeen hSeen'
  rw [← hFault] at hSeen'
  have hSame : same ↔ Turn.seen [] { channel := (c.run first).1, log := (c.run first).2 } =
      Turn.seen [] { channel := (c.run second).1, log := (c.run second).2 } := by
    simp [same, Turn.seen, and_comm]
  have hEnded : ∀ common, (c.handle world (.inbound connection common 0)).1.connection =
      ((Turn.seen [] { channel := c }).receiveAll world.untimed connection
        common).channel.connection := by
    intro common
    rw [← seen_handle_inbound world [] hSettled world.now connection common 0]
    rfl
  constructor
  · intro hNone
    rw [hSame, hSeen, hSeen', hWhole hNone]
  · rw [hSame, hSeen, hSeen']
    simp only [hEnded]
    cases hFaultIs : r.assembler.fault? pieces with
    | none =>
      have hDelivered := hWhole hFaultIs
      simp [hDelivered]
    | some error =>
      exact Turn.takeIn_eq_iff (by exact { hEquipped with }) hConnection hFront hFront' error

/-- Every cut can arrive. -/
theorem exists_arrival (world : Host) (c : Channel) (r : Reader) (pieces : List Bytes) :
    ∃ run, Arrival world c r pieces run := by
  have hAttended : ∀ (commands : List Command) (d : Channel) (told : List Occurrence),
      ∃ run, Attended world d told run ∧ run.map Prod.snd = commands := by
    intro commands
    induction commands with
    | nil => exact fun d told => ⟨[], .nil d told, rfl⟩
    | cons command rest ih =>
      intro d told
      obtain ⟨run, hRun, hRest⟩ := ih (d.handle (world.after told world.now) command).1
        (told ++ (d.handle (world.after told world.now) command).2)
      exact ⟨_ :: run, .cons world.now command hRun, by rw [List.map_cons, hRest]⟩
  obtain ⟨run, hRun, hCommands⟩ := hAttended (r.commands pieces) c []
  exact ⟨run, hRun, hCommands⟩

/-- The server takes its leave, and what is no frame comes in pieces of its own. -/
theorem cuts_agree_after_leave :
    let server := Server.operations "10.0.0.1" 1 (List.replicate 32 9)
    let c := ((Channel.start {} .empty).run (Host.steady.dialing server)).1
    let r := Reader.start 3 Assembler.defaultLimit
    let pieces : List Bytes := [[0xE0], [0x01, 0x00], [0x00, 0x00]]
    let pieces' : List Bytes := [[0xE0, 0x01, 0x00], [0x00], [0x00]]
    c.connection = some 3 ∧ pieces.flatten = pieces'.flatten ∧ ∃ first second,
      Arrival Host.steady c r pieces first ∧ Arrival Host.steady c r pieces' second ∧
        (c.run first).2 = (c.run second).2 := by
  intro server
  have hDialed := (run_dialing (by rfl : server.publicKey.length = agreementKeySize)).1
  -- How the connection has come about plays no part any more.
  generalize Host.steady.dialing server = commands at hDialed ⊢
  intro c r pieces pieces'
  have hStream : pieces.flatten = pieces'.flatten := rfl
  have hDelivered : r.assembler.delivered pieces = r.assembler.delivered pieces' := by cbv
  obtain ⟨first, hFirst⟩ := exists_arrival Host.steady c r pieces
  obtain ⟨second, hSecond⟩ := exists_arrival Host.steady c r pieces'
  have hAgree := cuts_agree_iff {} .empty commands Assembler.defaultLimit [] hDialed rfl hStream
    hFirst hSecond
  exact ⟨hDialed, hStream, first, second, hFirst, hSecond, (hAgree.2.mpr (.inl hDelivered)).1⟩

namespace Settled

variable {c : Channel} (h : c.Settled) {connection : Nat}

include h

theorem handle_leave (hConnection : c.connection = some connection) (host : Host) (size : Nat) :
    let next := c.handle host (.inbound connection [.disconnect .graceful] size)
    next.1.connection = none ∧ next.2.countP Occurrence.isReport = 0 := by
  intro next
  have hEquipped := h.equipped (Option.isSome_of_eq_some hConnection)
  have hCounted : (Turn.countBytes { channel := c } size).channel.Equipped := { hEquipped with }
  have hVerdict := h.verdict host (.inbound connection [.disconnect .graceful] size)
  have hNext : next = _ := h.handle_of_isLinked host (isLinked_of_connection hConnection) _
  simp only [Turn.obey, Turn.inbound, hConnection, if_true] at hNext
  rw [Turn.receiveAll_cons host (by exact hConnection)] at hNext
  obtain ⟨hNone, hLeave⟩ :
      next.1.connection = none ∧ .disconnected connection .graceful ∈ next.2 := by
    rw [hNext]
    exact Turn.receive_disconnected hCounted .graceful
  have hQuiet : Quiet next.2 := hVerdict.quiet_of_end (.inr ⟨_, hLeave⟩)
  exact ⟨hNone, hQuiet.countP_eq_zero Occurrence.ofFailure_isReport⟩

theorem handle_fault (hConnection : c.connection = some connection) (host : Host)
    (error : ChannelError) :
    (c.handle host (.readFailed connection error)).2.countP Occurrence.isReport = 1 := by
  have hRead := (h.accounted host (.readFailed connection error)).read _ _ rfl hConnection
  obtain ⟨hSame, hOnce⟩ := (h.verdict host (.readFailed connection error)).countP_isReport
  have hSome := List.countP_pos_iff (p := Occurrence.isFailure).mpr ⟨_, hRead, rfl⟩
  omega

/-- The server takes its leave, and what is no frame comes in a piece of its own or in the same.
If it comes in the same, the leave is lost and the failover is called. -/
theorem leave_lost (hConnection : c.connection = some connection) (world : Host) :
    let r := Reader.start connection Assembler.defaultLimit
    ∃ first second, Arrival world c r [[0xE0, 0x01, 0x00], [0x00, 0x00]] first ∧
      Arrival world c r [[0xE0, 0x01, 0x00, 0x00, 0x00]] second ∧
      (c.run first).2.countP Occurrence.isReport = 0 ∧
      (c.run second).2.countP Occurrence.isReport = 1 := by
  intro r
  let a := Assembler.ofLimit Assembler.defaultLimit
  have hLeave : a.feed [0xE0, 0x01, 0x00] = (.ok [.disconnect .graceful], a) := by cbv
  have hFault : a.feed [0x00, 0x00] = (.error (.unknownType 0), a) := by cbv
  have hBoth : a.feed [0xE0, 0x01, 0x00, 0x00, 0x00] = (.error (.unknownType 0), a) := by cbv
  have hCommands : r.commands [[0xE0, 0x01, 0x00], [0x00, 0x00]] =
      [.inbound connection [.disconnect .graceful] 3,
        .readFailed connection (.frame (.unknownType 0))] :=
    (Reader.commands_cons_ok rfl hLeave _).trans
      (congrArg _ (Reader.commands_cons_error rfl hFault []))
  have hCommands' := Reader.commands_cons_error (r := r) rfl hBoth []
  obtain ⟨hNone, hUnreported⟩ := h.handle_leave hConnection (world.after [] 0) 3
  have hReported := h.handle_fault hConnection (world.after [] 0) (.frame (.unknownType 0))
  refine ⟨_, _, ⟨.cons 0 _ (.cons 0 _ (.nil _ _)), hCommands.symm⟩,
    ⟨.cons 0 _ (.nil _ _), hCommands'.symm⟩, ?_, ?_⟩
  · have hStale : Command.isStale (c.handle (world.after [] 0)
        (.inbound connection [.disconnect .graceful] 3)).1
        (.readFailed connection (.frame (.unknownType 0))) := by
      simp [Command.isStale, hNone]
    simp only [run_cons, run_nil, handle_of_isStale hStale, List.append_nil]
    exact hUnreported
  · simp only [run_cons, run_nil, List.append_nil]
    exact hReported

end Settled

/-- The same octets on the same connection, once in two pieces and once in one. -/
theorem cuts_differ_after_leave :
    let server := Server.operations "10.0.0.1" 1 (List.replicate 32 9)
    let c := ((Channel.start {} .empty).run (Host.steady.dialing server)).1
    let r := Reader.start 3 Assembler.defaultLimit
    let pieces : List Bytes := [[0xE0, 0x01, 0x00], [0x00, 0x00]]
    let pieces' : List Bytes := [[0xE0, 0x01, 0x00, 0x00, 0x00]]
    c.connection = some 3 ∧ pieces.flatten = pieces'.flatten ∧ ∃ first second,
      Arrival Host.steady c r pieces first ∧ Arrival Host.steady c r pieces' second ∧
        (c.run first).2.countP Occurrence.isReport = 0 ∧
        (c.run second).2.countP Occurrence.isReport = 1 := by
  intro server
  have hDialed := (run_dialing (by rfl : server.publicKey.length = agreementKeySize)).1
  generalize Host.steady.dialing server = commands at hDialed ⊢
  intro c r pieces pieces'
  have hSettled : c.Settled := settled_run (.start {} .empty) commands
  exact ⟨hDialed, rfl, hSettled.leave_lost hDialed Host.steady⟩

end Channel

end DeviceUplink
