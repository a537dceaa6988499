import DeviceUplink.Proofs.Frame.Scanning

/-!
# Streams and how they are cut

A stream divides into frames in one way, which `Frame.Reads` says without any pieces. However the
stream is cut, an assembler comes to the same frames and the same bytes left over, or to the same
error.
-/

namespace DeviceUplink

namespace Frame

/-- The well-formed frames of a stream up to its first bad one, the error of that if there is one,
and the bytes left over. -/
inductive Reads (limit : Nat) : Bytes → List Frame → Option FrameError → Bytes → Prop
  | incomplete {stream : Bytes} (h : scan limit stream = .incomplete) :
      Reads limit stream [] none stream
  | stuck {stream : Bytes} {error : FrameError} (h : scan limit stream = .stuck error) :
      Reads limit stream [] (some error) stream
  | broken {stream : Bytes} {error : FrameError} {behind : Nat}
      (h : scan limit stream = .broken error behind) :
      Reads limit stream [] (some error) (stream.drop (behind + 1))
  | found {stream : Bytes} {frame : Frame} {behind : Nat} {frames : List Frame}
      {error? : Option FrameError} {rest : Bytes} (h : scan limit stream = .found frame behind)
      (hRest : Reads limit (stream.drop (behind + 1)) frames error? rest) :
      Reads limit stream (frame :: frames) error? rest

namespace Reads

variable {limit : Nat} {stream rest : Bytes} {frames : List Frame} {error? : Option FrameError}

theorem unique (h : Reads limit stream frames error? rest) {frames' : List Frame}
    {error?' : Option FrameError} {rest' : Bytes} (h' : Reads limit stream frames' error?' rest') :
    frames = frames' ∧ error? = error?' ∧ rest = rest' := by
  induction h generalizing frames' error?' rest' with
  | incomplete hScan => cases h' <;> simp_all
  | stuck hScan => cases h' <;> simp_all
  | broken hScan => cases h' <;> simp_all
  | found hScan _ ih =>
    cases h' with
    | found hScan' hRest' =>
      rw [hScan] at hScan'
      cases hScan'
      obtain ⟨rfl, rfl, rfl⟩ := ih hRest'
      exact ⟨rfl, rfl, rfl⟩
    | _ => simp_all

theorem scan_rest (h : Reads limit stream frames error? rest) (hNone : error? = none) :
    scan limit rest = .incomplete := by
  induction h with
  | incomplete hScan => exact hScan
  | stuck => cases hNone
  | broken => cases hNone
  | found _ _ ih => exact ih hNone

theorem append (h : Reads limit stream frames error? rest) (hNone : error? = none)
    {more left : Bytes} {later : List Frame} {last? : Option FrameError}
    (hMore : Reads limit (rest ++ more) later last? left) :
    Reads limit (stream ++ more) (frames ++ later) last? left := by
  induction h with
  | incomplete => exact hMore
  | stuck => cases hNone
  | broken => cases hNone
  | found hScan _ ih =>
    refine .found ((scan_append (by simp [hScan]) more).trans hScan) ?_
    rw [List.drop_append_of_le_length (behind_lt_length hScan)]
    exact ih hNone hMore

theorem append_of_error (h : Reads limit stream frames error? rest) (hSome : error? ≠ none)
    (more : Bytes) : ∃ left, Reads limit (stream ++ more) frames error? left := by
  induction h with
  | incomplete => exact absurd rfl hSome
  | stuck hScan => exact ⟨_, .stuck ((scan_append (by simp [hScan]) more).trans hScan)⟩
  | broken hScan => exact ⟨_, .broken ((scan_append (by simp [hScan]) more).trans hScan)⟩
  | found hScan _ ih =>
    obtain ⟨left, hLeft⟩ := ih hSome
    refine ⟨left, .found ((scan_append (by simp [hScan]) more).trans hScan) ?_⟩
    rw [List.drop_append_of_le_length (behind_lt_length hScan)]
    exact hLeft

end Reads

end Frame

namespace Assembler

theorem scanFront_eq (limit : Nat) (buffer : Array UInt8) :
    scanFront limit buffer = Frame.scan limit buffer.toList := by
  simp [scanFront, Frame.scan]

theorem toList_extract (buffer : Array UInt8) (start : Nat) :
    (buffer.extract start buffer.size).toList = buffer.toList.drop start := by
  rw [Array.toList_extract, List.extract_eq_take_drop]
  exact List.take_of_length_le (by simp)

theorem reads_drain (limit : Nat) (buffer : Array UInt8) :
    Frame.Reads limit buffer.toList (drain limit buffer).1 (drain limit buffer).2.1
      (drain limit buffer).2.2.toList := by
  fun_induction drain limit buffer with
  | case1 buffer hScan => exact .incomplete (scanFront_eq limit buffer ▸ hScan)
  | case2 buffer error hScan => exact .stuck (scanFront_eq limit buffer ▸ hScan)
  | case3 buffer error behind hScan =>
    rw [toList_extract]
    exact .broken (scanFront_eq limit buffer ▸ hScan)
  | case4 buffer frame behind hScan frames error? rest hDrain ih =>
    rw [hDrain, toList_extract] at ih
    exact .found (scanFront_eq limit buffer ▸ hScan) ih

def delivered (a : Assembler) : List Bytes → List Frame
  | [] => []
  | piece :: more =>
    match a.feed piece with
    | (.ok frames, next) => frames ++ next.delivered more
    | (.error _, _) => []

theorem foldl_feedNext_error (error : FrameError) (a : Assembler) (pieces : List Bytes) :
    pieces.foldl feedNext (.error error, a) = (.error error, a) := by
  induction pieces with
  | nil => rfl
  | cons piece more ih => exact ih

theorem foldl_feedNext_ok (earlier : List Frame) (a : Assembler) (pieces : List Bytes) :
    pieces.foldl feedNext (.ok earlier, a) =
      ((a.feedAll pieces).1.map (earlier ++ ·), (a.feedAll pieces).2) := by
  induction pieces generalizing earlier a with
  | nil => simp [feedAll, Except.map]
  | cons piece more ih =>
    simp only [feedAll, List.foldl_cons, feedNext]
    cases hFeed : a.feed piece with
    | mk result next =>
      cases result with
      | error error => simp only [Except.map, foldl_feedNext_error]
      | ok frames =>
        simp only [Except.map, List.nil_append, ih]
        cases (next.feedAll more).1 with
        | error error => rfl
        | ok later => simp only [List.append_assoc]

/-- A feed that succeeds goes before what the others give. -/
theorem feedAll_cons (a : Assembler) (piece : Bytes) (more : List Bytes) :
    a.feedAll (piece :: more) =
      match a.feed piece with
      | (.ok frames, next) => ((next.feedAll more).1.map (frames ++ ·), (next.feedAll more).2)
      | (.error error, next) => (.error error, next) := by
  unfold feedAll
  rw [List.foldl_cons, feedNext]
  cases hFeed : a.feed piece with
  | mk result next =>
    cases result with
    | error error => exact foldl_feedNext_error error next more
    | ok frames => exact foldl_feedNext_ok frames next more

/-- What an assembler makes of pieces, by what there is to be read in its buffer and them. -/
structure Yields (a : Assembler) (pieces : List Bytes) (frames : List Frame)
    (error? : Option FrameError) (rest : Bytes) : Prop where
  ok : error? = none → a.feedAll pieces = (.ok frames, { a with buffer := rest.toArray })
  error : ∀ error, error? = some error → (a.feedAll pieces).1 = .error error
  delivered : a.delivered pieces <+: frames

theorem yields_of_reads {a : Assembler} {pieces : List Bytes} {frames : List Frame}
    {error? : Option FrameError} {rest : Bytes}
    (hIdle : Frame.scan a.limit a.buffer.toList = .incomplete)
    (hReads : Frame.Reads a.limit (a.buffer.toList ++ pieces.flatten) frames error? rest) :
    a.Yields pieces frames error? rest := by
  induction pieces generalizing a frames error? rest with
  | nil =>
    rw [List.flatten_nil, List.append_nil] at hReads
    obtain ⟨rfl, rfl, rfl⟩ := (Frame.Reads.incomplete hIdle).unique hReads
    refine ⟨fun _ => rfl, ?_, List.nil_prefix⟩
    intro error hError
    cases hError
  | cons piece more ih =>
    have hDrain := reads_drain a.limit (a.buffer ++ piece)
    rw [Array.toList_appendList] at hDrain
    rw [List.flatten_cons, ← List.append_assoc] at hReads
    rcases hResult : drain a.limit (a.buffer ++ piece) with ⟨earlier, fault?, left⟩
    rw [hResult] at hDrain
    cases fault? with
    | some fault =>
      -- What follows cannot mend the stream: the whole of it has the same first fault.
      have hFeed : a.feed piece = (.error fault, { a with buffer := left }) := by
        simp only [feed, hResult]
      obtain ⟨_, hWhole⟩ := hDrain.append_of_error (Option.some_ne_none fault) more.flatten
      obtain ⟨rfl, rfl, rfl⟩ := hWhole.unique hReads
      refine ⟨(by simp), ?_, ?_⟩
      · intro error hError
        cases hError
        rw [feedAll_cons, hFeed]
      · rw [Assembler.delivered, hFeed]
        exact List.nil_prefix
    | none =>
      -- What is left over holds no frame, so it is again a buffer to go on with.
      have hFeed : a.feed piece = (.ok earlier, { a with buffer := left }) := by
        simp only [feed, hResult]
      have hLater := reads_drain a.limit (left ++ more.flatten)
      rw [Array.toList_appendList] at hLater
      obtain ⟨rfl, rfl, rfl⟩ := (hDrain.append rfl hLater).unique hReads
      have hNext := ih (a := { a with buffer := left }) (hDrain.scan_rest rfl) hLater
      refine ⟨?_, ?_, ?_⟩
      · intro hNone
        rw [feedAll_cons, hFeed]
        simp only [hNext.ok hNone]
        rfl
      · intro error hError
        rw [feedAll_cons, hFeed]
        simp only [hNext.error error hError]
        rfl
      · rw [Assembler.delivered, hFeed]
        exact (List.prefix_append_right_inj earlier).mpr hNext.delivered

/-- Two ways to cut a stream for a new assembler come to the same frames and the same bytes left
over, or else to the same error, before which they give no other frames than the well-formed ones
at the front of the stream. -/
theorem feedAll_of_flatten_eq (limit : Nat) {first second : List Bytes}
    (h : first.flatten = second.flatten) :
    let a := Assembler.ofLimit limit
    (a.feedAll first).1 = (a.feedAll second).1 ∧
      (∀ frames, (a.feedAll first).1 = .ok frames → (a.feedAll first).2 = (a.feedAll second).2) ∧
      ∀ error, (a.feedAll first).1 = .error error → ∃ frames rest,
        Frame.Reads a.limit first.flatten frames (some error) rest ∧
          a.delivered first <+: frames ∧ a.delivered second <+: frames := by
  intro a
  have hReads := reads_drain a.limit first.flatten.toArray
  rw [List.toList_toArray] at hReads
  generalize drain a.limit first.flatten.toArray = result at hReads
  obtain ⟨frames, error?, rest⟩ := result
  have hFirst : a.Yields first frames error? rest.toList := yields_of_reads rfl hReads
  have hSecond : a.Yields second frames error? rest.toList := yields_of_reads rfl (h ▸ hReads)
  cases error? with
  | none =>
    have hSame := (hFirst.ok rfl).trans (hSecond.ok rfl).symm
    refine ⟨congrArg Prod.fst hSame, fun _ _ => congrArg Prod.snd hSame, ?_⟩
    intro error hError
    rw [hFirst.ok rfl] at hError
    cases hError
  | some fault =>
    have hFault := hFirst.error fault rfl
    refine ⟨hFault.trans (hSecond.error fault rfl).symm, ?_, ?_⟩
    · intro other hOther
      rw [hFault] at hOther
      cases hOther
    · intro error hError
      rw [hFault] at hError
      cases hError
      exact ⟨frames, rest.toList, hReads, hFirst.delivered, hSecond.delivered⟩

/-- A ping, and behind it a length field that does not end, cut within that field or nowhere. -/
theorem feedAll_of_endless_length :
    let first : List Bytes := [[0xC0], [0x00, 0x10, 0xFF, 0xFF], [0xFF, 0xFF, 0xFF]]
    let second : List Bytes := [[0xC0, 0x00, 0x10, 0xFF, 0xFF, 0xFF, 0xFF, 0xFF]]
    first.flatten = second.flatten ∧
      ((ofLimit 64).feedAll first).1 = ((ofLimit 64).feedAll second).1 := by
  intro first second
  have hFlatten : first.flatten = second.flatten := rfl
  exact ⟨hFlatten, (feedAll_of_flatten_eq 64 hFlatten).1⟩

end Assembler

end DeviceUplink
