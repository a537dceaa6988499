import DeviceUplink.Proofs.Frame.Layout

/-!
# The grammar of frames

What the octets of a frame are: a header, a length field of at most four octets, and a body laid
out as its kind has it. The scan finds exactly the frames that are so spelled, and only the length
field can be spelled in more than one way.
-/

namespace DeviceUplink

namespace Frame

/-- The octets are one frame by its outer form, whatever the header and the body say. -/
def Envelope (header : UInt8) (body octets : Bytes) : Prop :=
  ∃ field, octets = header :: (field ++ body) ∧ field.length ≤ 4 ∧
    RemainingLength.Groups body.length field

/-- The octets are the frame, with a body of at most `limit` octets. -/
def Spells (limit : Nat) (f : Frame) (octets : Bytes) : Prop :=
  ∃ body, Envelope f.header body octets ∧ body.length ≤ limit ∧ Layout f body

variable {f : Frame} {header : UInt8} {body octets : Bytes} {limit behind : Nat}

/-- A whole frame in front of more octets is taken for what its header and body make of it. -/
theorem scan_of_envelope (limit : Nat) (h : Envelope header body octets) (more : Bytes) :
    scan limit (octets ++ more) =
      if limit < body.length then .stuck (.tooLarge body.length)
      else .ofBody header body (octets.length - 1) := by
  obtain ⟨field, rfl, hWidth, hField⟩ := h
  have hRead := RemainingLength.readGroups_of_groups hField hWidth (body ++ more)
  have hEnough : ¬ (field ++ (body ++ more)).length < field.length + body.length := by
    simp only [List.length_append]
    omega
  have hBehind : (header :: (field ++ body)).length - 1 = field.length + body.length := by
    simp only [List.length_cons, List.length_append]
    omega
  rw [List.cons_append, List.append_assoc, scan_cons, RemainingLength.read, hRead, hBehind]
  simp only [hEnough, if_false, List.drop_left, List.take_left]

/-- The octets start with a header and a length field that says no length, or one above `limit`, so
that no end of the frame can be known. -/
inductive Unbounded (limit : Nat) : FrameError → Bytes → Prop
  | badLength {header : UInt8} {field more : Bytes} (hWidth : field.length = 4)
      (hFlagged : ∀ byte ∈ field, 128 ≤ byte.toNat) :
      Unbounded limit .badLength (header :: (field ++ more))
  | tooLarge {header : UInt8} {field more : Bytes} {size : Nat} (hWidth : field.length ≤ 4)
      (hField : RemainingLength.Groups size field) (hLarge : limit < size) :
      Unbounded limit (.tooLarge size) (header :: (field ++ more))

inductive Scanned (limit : Nat) : Bytes → Scan → Prop
  | incomplete {octets : Bytes} (hSize : octets.length ≤ limit + 4) :
      Scanned limit octets .incomplete
  | stuck {octets : Bytes} {error : FrameError} (h : Unbounded limit error octets) :
      Scanned limit octets (.stuck error)
  | found {f : Frame} {front more : Bytes} {behind : Nat} (hLength : front.length = behind + 1)
      (h : f.Spells limit front) : Scanned limit (front ++ more) (.found f behind)
  | broken {header : UInt8} {body front more : Bytes} {error : FrameError} {behind : Nat}
      (hLength : front.length = behind + 1) (h : Envelope header body front)
      (hLimit : body.length ≤ limit) (hBody : ofBody header body = .error error) :
      Scanned limit (front ++ more) (.broken error behind)

/-- A whole frame is good or broken. -/
theorem scanned_of_envelope {front : Bytes} (hLength : front.length = behind + 1)
    (h : Envelope header body front) (hLimit : body.length ≤ limit) (more : Bytes) :
    Scanned limit (front ++ more) (.ofBody header body behind) := by
  unfold Scan.ofBody
  split
  · next f hOk =>
    obtain ⟨rfl, hLayout⟩ := ofBody_eq_ok_iff.mp hOk
    exact .found hLength ⟨body, h, hLimit, hLayout⟩
  · next error hError => exact .broken hLength h hLimit hError

theorem scanned (limit : Nat) (octets : Bytes) : Scanned limit octets (scan limit octets) := by
  cases octets with
  | nil => exact .incomplete (Nat.zero_le _)
  | cons header rest =>
    rw [scan_cons]
    cases hRead : RemainingLength.read rest with
    | incomplete =>
      have hShort := RemainingLength.length_lt_of_readGroups hRead
      exact .incomplete (by rw [List.length_cons]; omega)
    | malformed =>
      obtain ⟨field, more, rfl, hWidth, hFlagged⟩ :=
        RemainingLength.readGroups_eq_malformed_iff.mp hRead
      exact .stuck (.badLength hWidth hFlagged)
    | value length used =>
      obtain ⟨field, behind, rfl, rfl, hWidth, hField⟩ := RemainingLength.groups_of_readGroups hRead
      simp only [List.drop_left, List.length_append]
      by_cases hLarge : limit < length
      · rw [if_pos hLarge]
        exact .stuck (.tooLarge hWidth hField hLarge)
      · rw [if_neg hLarge]
        by_cases hShort : field.length + behind.length < field.length + length
        · -- A header, a length field and not yet the whole body.
          rw [if_pos hShort]
          refine .incomplete ?_
          simp only [List.length_cons, List.length_append]
          omega
        · rw [if_neg hShort]
          have hBody : (behind.take length).length = length := List.length_take_of_le (by omega)
          have hSplit : header :: (field ++ behind) =
              (header :: (field ++ behind.take length)) ++ behind.drop length := by
            simp
          rw [hSplit]
          refine scanned_of_envelope ?_ ⟨field, rfl, hWidth, hBody.symm ▸ hField⟩ ?_ _
          · rw [List.length_cons, List.length_append, hBody]
          · rw [hBody]
            exact Nat.le_of_not_lt hLarge

theorem scanned_of_eq {found : Scan} (h : scan limit octets = found) :
    Scanned limit octets found :=
  h ▸ scanned limit octets

theorem scan_eq_found_iff :
    scan limit octets = .found f behind ↔
      behind < octets.length ∧ Spells limit f (octets.take (behind + 1)) := by
  constructor
  · intro h
    cases scanned_of_eq h with
    | found hLength hSpells =>
      rw [List.take_left' hLength, List.length_append]
      exact ⟨by omega, hSpells⟩
  · rintro ⟨hBehind, body, hEnvelope, hLimit, hLayout⟩
    have hScan := scan_of_envelope limit hEnvelope (octets.drop (behind + 1))
    have hOfBody := ofBody_eq_ok_iff.mpr ⟨rfl, hLayout⟩
    rw [List.take_append_drop, if_neg (Nat.not_lt.mpr hLimit), Scan.ofBody, hOfBody,
      List.length_take_of_le hBehind] at hScan
    exact hScan

/-- The octets of a frame whose length field is `zeros` octets longer than it need be. -/
def spelling (zeros : Nat) (f : Frame) : Bytes :=
  f.header :: RemainingLength.padded zeros f.body.length ++ f.body

theorem length_spelling (zeros : Nat) (f : Frame) :
    (f.spelling zeros).length = (f.spelling 0).length + zeros := by
  simp only [spelling, List.cons_append, List.length_cons, List.length_append,
    RemainingLength.length_padded]
  omega

theorem Spells.isEncodable (h : Spells limit f octets) : f.IsEncodable := by
  obtain ⟨body, ⟨field, -, hWidth, hField⟩, -, hLayout⟩ := h
  obtain ⟨rfl, hFit, -⟩ := hLayout.eq_body
  have hPow : Nat.pow 128 field.length ≤ 268435456 :=
    Nat.pow_le_pow_right (by decide : 0 < 128) hWidth
  have hSize := hField.lt_pow
  exact ⟨by omega, shortFieldsFit_iff.mp hFit⟩

theorem Spells.encode_eq (h : Spells limit f octets) : f.encode = .ok (f.spelling 0) := by
  rw [encode_of_isEncodable h.isEncodable, spelling, RemainingLength.padded_zero]

theorem Spells.eq_spelling (h : Spells limit f octets) : ∃ zeros, octets = f.spelling zeros := by
  obtain ⟨body, ⟨field, rfl, -, hField⟩, -, hLayout⟩ := h
  obtain ⟨rfl, -⟩ := hLayout.eq_body
  obtain ⟨zeros, rfl⟩ := RemainingLength.groups_iff.mp hField
  exact ⟨zeros, rfl⟩

end Frame

namespace Assembler

/-- A frame is found in the first `behind + 1` octets of a buffer exactly when these spell it. What
spells a frame is its encoding but for octets that pad the length field, and their number is all
that other octets for the same frame can differ in. -/
theorem scanFront_eq_found_iff :
    (∀ (limit behind : Nat) (buffer : Array UInt8) (f : Frame),
      scanFront limit buffer = .found f behind ↔
        behind < buffer.size ∧ f.Spells limit (buffer.toList.take (behind + 1))) ∧
    (∀ (limit : Nat) (octets : Bytes) (f : Frame), f.Spells limit octets →
      f.encode = .ok (f.spelling 0) ∧
        ∃ zeros, octets = f.spelling zeros ∧ octets.length = (f.spelling 0).length + zeros) ∧
    (∀ (limit limit' : Nat) (octets octets' : Bytes) (f : Frame), f.Spells limit octets →
      f.Spells limit' octets' → octets ≠ octets' → ∃ zeros zeros', zeros ≠ zeros' ∧
        octets = f.spelling zeros ∧ octets' = f.spelling zeros') ∧
    (∀ s : SyncBody, s.hasKnownFlags = true ↔ s.flags.toNat ≤ 3) ∧
    (∀ byte, (∃ code, ReturnCode.toByte code = byte) ↔ 1 ≤ byte.toNat ∧ byte.toNat ≤ 7) ∧
    ∀ byte, (∃ reason, DisconnectReason.toByte reason = byte) ↔ byte.toNat ≤ 3 := by
  refine ⟨?_, ?_, ?_, fun _ => SyncBody.hasKnownFlags_iff, fun _ => ReturnCode.exists_toByte_eq_iff,
    fun _ => DisconnectReason.exists_toByte_eq_iff⟩
  · intro limit behind buffer f
    rw [scanFront_eq, Frame.scan_eq_found_iff, Array.length_toList]
  · intro limit octets f h
    obtain ⟨zeros, rfl⟩ := h.eq_spelling
    exact ⟨h.encode_eq, zeros, rfl, f.length_spelling zeros⟩
  · intro limit limit' octets octets' f h h' hDiffer
    obtain ⟨zeros, rfl⟩ := h.eq_spelling
    obtain ⟨zeros', rfl⟩ := h'.eq_spelling
    refine ⟨zeros, zeros', ?_, rfl, rfl⟩
    rintro rfl
    exact hDiffer rfl

/-- A ping whose length is written in three octets. -/
example : scanFront 0 #[0xC0, 0x80, 0x80, 0x00, 0xD0] = .found .pingReq 3 := by
  decide

end Assembler

end DeviceUplink
