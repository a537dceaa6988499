import DeviceUplink.Frame.Decoding

/-!
# Assembling frames from pieces

An assembler keeps the bytes of an unfinished frame between feeds, so frames come out whole and
in order however the stream is cut.
-/

namespace DeviceUplink

structure Assembler where
  limit : Nat
  buffer : Array UInt8 := #[]

namespace Assembler

/-- Sixteen MiB. -/
def defaultLimit : Nat := 16777216

/-- An empty assembler. No limit above what a length field can say has an effect. -/
def ofLimit (limit : Nat) : Assembler :=
  { limit := min limit RemainingLength.maxValue }

def buffered (a : Assembler) : Nat :=
  a.buffer.size

def scanFront (limit : Nat) (buffer : Array UInt8) : Frame.Scan :=
  Frame.scanBuffer limit (buffer.extract 0 5).toList buffer.size fun start length =>
    (buffer.extract start (start + length)).toList

theorem scanFront_of_size_eq_zero {limit : Nat} {buffer : Array UInt8} (h : buffer.size = 0) :
    scanFront limit buffer = .incomplete := by
  obtain rfl : buffer = #[] := Array.eq_empty_of_size_eq_zero h
  rfl

theorem size_pos_of_scanFront_eq_found {limit behind : Nat} {buffer : Array UInt8} {frame : Frame}
    (h : scanFront limit buffer = .found frame behind) : 0 < buffer.size := by
  rcases Nat.eq_zero_or_pos buffer.size with h0 | h0
  · rw [scanFront_of_size_eq_zero h0] at h
    cases h
  · exact h0

/-- The frames at the front of a buffer, the error that ends them if there is one, and what stays
buffered. Octets of a broken frame are dropped. -/
def drain (limit : Nat) (buffer : Array UInt8) : List Frame × Option FrameError × Array UInt8 :=
  match _h : scanFront limit buffer with
  | .incomplete => ([], none, buffer)
  | .stuck error => ([], some error, buffer)
  | .broken error behind => ([], some error, buffer.extract (behind + 1) buffer.size)
  | .found frame behind =>
    let (frames, error, rest) := drain limit (buffer.extract (behind + 1) buffer.size)
    (frame :: frames, error, rest)
termination_by buffer.size
decreasing_by
  have := size_pos_of_scanFront_eq_found _h
  simp only [Array.size_extract]
  omega

/-- Takes in one piece of the stream. A failing feed yields no frames, not even those that stand
before the bad one. -/
def feed (a : Assembler) (piece : Bytes) : Except FrameError (List Frame) × Assembler :=
  let ⟨limit, buffer⟩ := a
  match drain limit (buffer ++ piece) with
  | (frames, none, rest) => (.ok frames, { limit, buffer := rest })
  | (_, some error, rest) => (.error error, { limit, buffer := rest })

/-- Takes in one more piece after some that gave these frames, unless one of them failed. -/
def feedNext (soFar : Except FrameError (List Frame) × Assembler) (piece : Bytes) :
    Except FrameError (List Frame) × Assembler :=
  match soFar with
  | (.error error, a) => (.error error, a)
  | (.ok earlier, a) =>
    let (result, next) := a.feed piece
    (result.map (earlier ++ ·), next)

/-- Takes in pieces one after the other, up to the first that fails. -/
def feedAll (a : Assembler) (pieces : List Bytes) :
    Except FrameError (List Frame) × Assembler :=
  pieces.foldl feedNext (.ok [], a)

end Assembler

end DeviceUplink
