import DeviceUplink.Channel.Reader
import DeviceUplink.Proofs.Frame.Segmentation

/-!
# What a reader makes of a stream

Up to the fault of the stream a reader passes on the frames of every piece, and then it tells the
fault. The piece with the fault yields no frames, so it depends on the cut how many are passed on.
-/

namespace DeviceUplink

namespace Assembler

def fault? (a : Assembler) (pieces : List Bytes) : Option FrameError :=
  match (a.feedAll pieces).1 with
  | .ok _ => none
  | .error error => some error

theorem fault?_cons_ok {a next : Assembler} {piece : Bytes} {frames : List Frame}
    (h : a.feed piece = (.ok frames, next)) (more : List Bytes) :
    a.fault? (piece :: more) = next.fault? more := by
  simp only [fault?, feedAll_cons, h]
  cases (next.feedAll more).1 <;> rfl

theorem fault?_cons_error {a next : Assembler} {piece : Bytes} {error : FrameError}
    (h : a.feed piece = (.error error, next)) (more : List Bytes) :
    a.fault? (piece :: more) = some error := by
  simp only [fault?, feedAll_cons, h]

/-- After a feed that succeeds no whole frame is left. -/
theorem scan_of_feed {a next : Assembler} {piece : Bytes} {frames : List Frame}
    (h : a.feed piece = (.ok frames, next)) :
    Frame.scan next.limit next.buffer.toList = .incomplete := by
  have hReads := reads_drain a.limit (a.buffer ++ piece)
  rcases hDrain : drain a.limit (a.buffer ++ piece) with ⟨earlier, fault?, left⟩
  simp only [feed, hDrain] at h
  rw [hDrain] at hReads
  cases fault? with
  | none =>
    cases h
    exact hReads.scan_rest rfl
  | some error => cases h

/-- If there is no fault, nothing is lost. -/
theorem delivered_of_feedAll {a : Assembler} {pieces : List Bytes} {frames : List Frame}
    (h : (a.feedAll pieces).1 = .ok frames) : a.delivered pieces = frames := by
  induction pieces generalizing a frames with
  | nil => exact Except.ok.inj h
  | cons piece more ih =>
    rcases hFeed : a.feed piece with ⟨result, next⟩
    simp only [feedAll_cons, delivered, hFeed] at h ⊢
    cases result with
    | error error => cases h
    | ok earlier =>
      cases hLater : (next.feedAll more).1 with
      | error error => simp [hLater, Except.map] at h
      | ok later => simpa [hLater, Except.map, ih hLater] using h

theorem Yields.fault?_eq {a : Assembler} {pieces : List Bytes} {frames : List Frame}
    {error? : Option FrameError} {rest : Bytes} (h : a.Yields pieces frames error? rest) :
    a.fault? pieces = error? := by
  cases error? with
  | none => rw [fault?, h.ok rfl]
  | some error => rw [fault?, h.error error rfl]

/-- However a stream is cut, it has the same fault, and what is delivered before that is at the
front of the same frames; without a fault it is all of them. -/
theorem delivered_of_flatten_eq {a : Assembler}
    (hIdle : Frame.scan a.limit a.buffer.toList = .incomplete) {first second : List Bytes}
    (h : first.flatten = second.flatten) :
    a.fault? first = a.fault? second ∧
      (a.fault? first = none → a.delivered first = a.delivered second) ∧
      ∃ frames, a.delivered first <+: frames ∧ a.delivered second <+: frames := by
  have hReads := reads_drain a.limit (a.buffer ++ first.flatten)
  rw [Array.toList_appendList] at hReads
  generalize drain a.limit (a.buffer ++ first.flatten) = result at hReads
  obtain ⟨frames, error?, rest⟩ := result
  have hFirst : a.Yields first frames error? rest.toList := yields_of_reads hIdle hReads
  have hSecond : a.Yields second frames error? rest.toList := yields_of_reads hIdle (h ▸ hReads)
  refine ⟨hFirst.fault?_eq.trans hSecond.fault?_eq.symm, ?_, frames, hFirst.delivered,
    hSecond.delivered⟩
  intro hNone
  obtain rfl : error? = none := hFirst.fault?_eq.symm.trans hNone
  rw [delivered_of_feedAll (congrArg Prod.fst (hFirst.ok rfl)),
    delivered_of_feedAll (congrArg Prod.fst (hSecond.ok rfl))]

end Assembler

namespace Reader

def commands (r : Reader) (pieces : List Bytes) : List Command :=
  (r.takeAll (pieces.map .piece)).2

theorem takeAll_of_isFinished {r : Reader} (h : r.isFinished = true) (events : List Event) :
    r.takeAll events = (r, []) := by
  induction events with
  | nil => rfl
  | cons event rest ih => simp [takeAll, take, h, ih]

theorem commands_cons_ok {r : Reader} {next : Assembler} {piece : Bytes} {frames : List Frame}
    (hReading : r.isFinished = false) (h : r.assembler.feed piece = (.ok frames, next))
    (more : List Bytes) :
    r.commands (piece :: more) =
      .inbound r.connection frames piece.length ::
        ({ r with assembler := next }).commands more := by
  simp [commands, takeAll, take, hReading, h]

theorem commands_cons_error {r : Reader} {next : Assembler} {piece : Bytes} {error : FrameError}
    (hReading : r.isFinished = false) (h : r.assembler.feed piece = (.error error, next))
    (more : List Bytes) :
    r.commands (piece :: more) = [.readFailed r.connection (.frame error)] := by
  simp [commands, takeAll, take, fail, hReading, h, takeAll_of_isFinished]

theorem connection_take (r : Reader) (event : Event) :
    (r.take event).1.connection = r.connection := by
  unfold take fail
  split
  · rfl
  · split
    · rfl
    · rfl
    · split <;> rfl

theorem connection_takeAll (r : Reader) (events : List Event) :
    (r.takeAll events).1.connection = r.connection := by
  induction events generalizing r with
  | nil => rfl
  | cons event rest ih => exact (ih _).trans (connection_take r event)

/-- A reader that goes on has no whole frame left in its assembler. -/
def Rests (r : Reader) : Prop :=
  r.isFinished = false →
    Frame.scan r.assembler.limit r.assembler.buffer.toList = .incomplete

theorem rests_take {r : Reader} (h : r.Rests) (event : Event) : (r.take event).1.Rests := by
  by_cases hFinished : r.isFinished = true
  · simpa [take, hFinished] using h
  cases event with
  | piece bytes =>
    rcases hFeed : r.assembler.feed bytes with ⟨result, next⟩
    cases result with
    | ok frames =>
      simp only [take, hFinished, hFeed, Rests]
      intro _
      exact Assembler.scan_of_feed hFeed
    | error error => simp [take, hFinished, hFeed, Rests, fail]
  | _ => simp [take, hFinished, Rests, fail]

theorem rests_takeAll {r : Reader} (h : r.Rests) (events : List Event) :
    (r.takeAll events).1.Rests := by
  induction events generalizing r with
  | nil => exact h
  | cons event rest ih => exact ih (rests_take h event)

end Reader

end DeviceUplink
