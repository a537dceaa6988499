import DeviceUplink.Proofs.Frame.Grammar
import Mathlib.Data.List.Forall2

/-!
# What stays buffered

An assembler keeps exactly the octets that it has not yet read. Behind a broken frame it goes on at
the next one; where the end of a frame cannot be known, it stays.
-/

namespace DeviceUplink

namespace FrameError

/-- The end of the bad frame is unknown, so there is no place to go on from. -/
def losesBoundary : FrameError → Bool
  | badLength | tooLarge _ => true
  | _ => false

end FrameError

namespace Frame

variable {limit : Nat} {error : FrameError} {header : UInt8} {body octets : Bytes}

theorem Unbounded.losesBoundary (h : Unbounded limit error octets) :
    error.losesBoundary = true := by
  cases h <;> rfl

theorem ofBody_error (h : ofBody header body = .error error) : error.losesBoundary = false := by
  -- Each refusal is written out in the readers, and none of them is about the length.
  simp only [ofBody, connectOfBody, connAckOfBody, disconnectOfBody, syncOfBody] at h
  repeat' split at h
  all_goals cases h
  all_goals rfl

/-- What is there behind the well-formed frames at the front of a stream, by the error that ends
them if there is one, and what of it is left over. -/
inductive Remains (limit : Nat) : Bytes → Option FrameError → Bytes → Prop
  | incomplete {rest : Bytes} (hScan : scan limit rest = .incomplete) : Remains limit rest none rest
  | stuck {rest : Bytes} {error : FrameError} (hScan : scan limit rest = .stuck error) :
      Remains limit rest (some error) rest
  | broken {header : UInt8} {body bad rest : Bytes} {error : FrameError}
      (hBad : Envelope header body bad) (hLimit : body.length ≤ limit)
      (hBody : ofBody header body = .error error) : Remains limit (bad ++ rest) (some error) rest

theorem broken_remains {stream : Bytes} {behind : Nat}
    (h : scan limit stream = .broken error behind) :
    Remains limit stream (some error) (stream.drop (behind + 1)) := by
  cases scanned_of_eq h with
  | broken hLength hBad hLimit hBody =>
    rw [List.drop_left' hLength]
    exact .broken hBad hLimit hBody

theorem Reads.split {stream rest : Bytes} {frames : List Frame} {error? : Option FrameError}
    (h : Reads limit stream frames error? rest) :
    ∃ (chunks : List Bytes) (tail : Bytes), stream = chunks.flatten ++ tail ∧
      List.Forall₂ (fun f octets => f.Spells limit octets) frames chunks ∧
      Remains limit tail error? rest := by
  induction h with
  | incomplete hScan => exact ⟨[], _, rfl, .nil, .incomplete hScan⟩
  | stuck hScan => exact ⟨[], _, rfl, .nil, .stuck hScan⟩
  | broken hScan => exact ⟨[], _, rfl, .nil, broken_remains hScan⟩
  | @found stream f behind _ _ _ hScan _ ih =>
    obtain ⟨chunks, tail, hStream, hChunks, hTail⟩ := ih
    have hSpells := (scan_eq_found_iff.mp hScan).2
    refine ⟨stream.take (behind + 1) :: chunks, tail, ?_, .cons hSpells hChunks, hTail⟩
    rw [List.flatten_cons, List.append_assoc, ← hStream, List.take_append_drop]

/-- A scan stays open only while no whole frame is there, and then not much is. -/
theorem of_scan_eq_incomplete (h : scan limit octets = .incomplete) :
    octets.length ≤ limit + 4 ∧
      ∀ header body whole, whole <+: octets → ¬ Envelope header body whole := by
  constructor
  · cases scanned_of_eq h with
    | incomplete hSize => exact hSize
  · rintro header body whole ⟨more, rfl⟩ hWhole
    rw [scan_of_envelope limit hWhole more, Scan.ofBody] at h
    repeat' split at h
    all_goals cases h

theorem unbounded_of_scan (h : scan limit octets = .stuck error) :
    Unbounded limit error octets := by
  cases scanned_of_eq h with
  | stuck hUnbounded => exact hUnbounded

end Frame

namespace Assembler

def after (a : Assembler) (pieces : List Bytes) : Assembler :=
  pieces.foldl (fun a piece => (a.feed piece).2) a

variable {a : Assembler}

theorem reads_feed (a : Assembler) (piece : Bytes) :
    ∃ frames error?, (a.feed piece).1 = error?.elim (.ok frames) .error ∧
      (a.feed piece).2.limit = a.limit ∧
      Frame.Reads a.limit (a.buffer.toList ++ piece) frames error?
        (a.feed piece).2.buffer.toList := by
  have hReads := reads_drain a.limit (a.buffer ++ piece)
  rw [Array.toList_appendList] at hReads
  unfold feed
  rcases hDrain : drain a.limit (a.buffer ++ piece) with ⟨frames, error?, rest⟩
  rw [hDrain] at hReads
  simp only [hDrain]
  cases error? with
  | none => exact ⟨frames, none, rfl, rfl, hReads⟩
  | some error => exact ⟨frames, some error, rfl, rfl, hReads⟩

theorem after_limit (a : Assembler) (pieces : List Bytes) : (a.after pieces).limit = a.limit := by
  induction pieces generalizing a with
  | nil => rfl
  | cons piece more ih =>
    obtain ⟨_, _, _, hLimit, _⟩ := a.reads_feed piece
    exact (ih _).trans hLimit

/-- An assembler that cannot know where the next frame starts only grows. -/
theorem feed_of_stuck {error : FrameError} (h : Frame.scan a.limit a.buffer.toList = .stuck error)
    (piece : Bytes) :
    (a.feed piece).1 = .error error ∧
      Frame.scan (a.feed piece).2.limit (a.feed piece).2.buffer.toList = .stuck error := by
  obtain ⟨frames, error?, hResult, hLimit, hReads⟩ := a.reads_feed piece
  have hScan := (Frame.scan_append (by simp [h]) piece).trans h
  obtain ⟨rfl, rfl, hRest⟩ := (Frame.Reads.stuck hScan).unique hReads
  exact ⟨hResult, by rw [hLimit, ← hRest, hScan]⟩

theorem feed_after_of_stuck {error : FrameError}
    (h : Frame.scan a.limit a.buffer.toList = .stuck error) (more : List Bytes) (piece : Bytes) :
    ((a.after more).feed piece).1 = .error error := by
  induction more generalizing a with
  | nil => exact (feed_of_stuck h piece).1
  | cons next more ih => exact ih (feed_of_stuck h next).2

/-- Whatever was fed before, what is buffered and what comes in are the frames that a feed gives out
and what it keeps. A broken frame is dropped, and reading can go on behind it; of a frame whose end
cannot be known everything is kept, and no later feed gets past it. -/
theorem feed_residue (limit : Nat) (pieces : List Bytes) (piece : Bytes) :
    let a := (Assembler.ofLimit limit).after pieces
    let bound := min limit 268435455
    let stream := a.buffer.toList ++ piece
    let next := (a.feed piece).2
    (∀ frames, (a.feed piece).1 = .ok frames → ∃ chunks : List Bytes,
      List.Forall₂ (fun f octets => f.Spells bound octets) frames chunks ∧
        stream = chunks.flatten ++ next.buffer.toList ∧ next.buffer.size ≤ bound + 4 ∧
        ∀ header body whole, whole <+: next.buffer.toList → ¬ Frame.Envelope header body whole) ∧
    ∀ error, (a.feed piece).1 = .error error → ∃ (frames : List Frame) (chunks : List Bytes),
      List.Forall₂ (fun f octets => f.Spells bound octets) frames chunks ∧
        (error.losesBoundary = false → ∃ header body bad, Frame.Envelope header body bad ∧
          body.length ≤ bound ∧ Frame.ofBody header body = .error error ∧
          stream = chunks.flatten ++ bad ++ next.buffer.toList) ∧
        (error.losesBoundary = true → stream = chunks.flatten ++ next.buffer.toList ∧
          Frame.Unbounded bound error next.buffer.toList ∧
          ∀ more later, ((next.after more).feed later).1 = .error error) := by
  intro a bound stream next
  have hBound : a.limit = bound := after_limit (Assembler.ofLimit limit) pieces
  obtain ⟨frames, error?, hResult, hLimit, hReads⟩ := a.reads_feed piece
  rw [hBound] at hReads
  obtain ⟨chunks, tail, hStream, hChunks, hTail⟩ := hReads.split
  constructor
  · intro given hGiven
    rw [hResult] at hGiven
    cases hTail with
    | incomplete hScan =>
      cases hGiven
      obtain ⟨hSize, hNone⟩ := Frame.of_scan_eq_incomplete hScan
      exact ⟨chunks, hChunks, hStream, hSize, hNone⟩
    | _ => cases hGiven
  · intro error hError
    rw [hResult] at hError
    refine ⟨frames, chunks, hChunks, ?_⟩
    cases hTail with
    | incomplete => cases hError
    | stuck hScan =>
      cases hError
      have hUnbounded := Frame.unbounded_of_scan hScan
      refine ⟨fun hGoesOn => ?_, fun _ => ⟨hStream, hUnbounded, feed_after_of_stuck ?_⟩⟩
      · rw [hUnbounded.losesBoundary] at hGoesOn
        cases hGoesOn
      · rwa [hLimit, hBound]
    | @broken header body bad rest _ hBad hSmall hBody =>
      cases hError
      refine ⟨fun _ => ⟨header, body, bad, hBad, hSmall, hBody, ?_⟩, fun hStays => ?_⟩
      · rw [List.append_assoc]
        exact hStream
      · rw [Frame.ofBody_error hBody] at hStays
        cases hStays

end Assembler

end DeviceUplink
