import DeviceUplink.Frame.Encoding
import DeviceUplink.Proofs.Frame.Segmentation

/-!
# What is encoded is read back

Every part of a frame is read back from in front of whatever follows: the length field, the fields
with a length of their own, the body under its header. So a stream of encoded frames divides into
these frames, and an assembler gives them back from any pieces of it.
-/

namespace DeviceUplink

namespace RemainingLength

theorem toNat_toUInt8_of_lt {n : Nat} (h : n < 256) : n.toUInt8.toNat = n := by
  rw [Nat.toUInt8_eq, UInt8.toNat_ofNat']
  exact Nat.mod_eq_of_lt h

/-- The induction is on the room: each further octet takes one group off the number. -/
theorem readGroups_encode (room : Nat) {n : Nat} (h : n < Nat.pow 128 (room + 1)) (rest : Bytes) :
    readGroups (room + 1) (encode n ++ rest) = .value n (encode n).length := by
  induction room generalizing n with
  | zero =>
    have hSmall : n < 128 := h
    have hByte : n.toUInt8.toNat = n := toNat_toUInt8_of_lt (by omega)
    rw [encode, if_pos hSmall]
    simp [readGroups, hByte, hSmall]
  | succ room ih =>
    rw [encode]
    by_cases hSmall : n < 128
    · have hByte : n.toUInt8.toNat = n := toNat_toUInt8_of_lt (by omega)
      simp [readGroups, hByte, hSmall]
    · have hByte : (n % 128 + 128).toUInt8.toNat = n % 128 + 128 := toNat_toUInt8_of_lt (by omega)
      have hRest : n / 128 < Nat.pow 128 (room + 1) := by
        refine Nat.div_lt_of_lt_mul ?_
        rw [Nat.mul_comm]
        exact h
      have hFlagged : ¬ n % 128 + 128 < 128 := by omega
      rw [if_neg hSmall, List.cons_append, readGroups, hByte, if_neg hFlagged, ih hRest]
      simp only [List.length_cons, Reading.value.injEq, and_true]
      omega

theorem read_encode {n : Nat} (h : n ≤ maxValue) (rest : Bytes) :
    read (encode n ++ rest) = .value n (encode n).length := by
  have hBound : Nat.pow 128 (3 + 1) = maxValue + 1 := rfl
  exact readGroups_encode 3 (hBound ▸ Nat.lt_succ_of_le h) rest

end RemainingLength

namespace Bytes

theorem toNat_ofWord16 {n : Nat} (h : n ≤ 65535) : toNat (ofWord16 n) = n := by
  have hHigh : (n / 256).toUInt8.toNat = n / 256 := RemainingLength.toNat_toUInt8_of_lt (by omega)
  have hLow : n.toUInt8.toNat = n % 256 := by rw [Nat.toUInt8_eq, UInt8.toNat_ofNat']
  simp only [toNat, ofWord16, List.foldl_cons, List.foldl_nil, hHigh, hLow]
  omega

theorem toNat_ofWord32 {n : Nat} (h : n ≤ 4294967295) : toNat (ofWord32 n) = n := by
  have hByte : ∀ m : Nat, m.toUInt8.toNat = m % 256 := by
    intro m
    rw [Nat.toUInt8_eq, UInt8.toNat_ofNat']
  simp only [toNat, ofWord32, List.foldl_cons, List.foldl_nil, hByte]
  omega

end Bytes

namespace Frame

theorem takeShortField_shortField {field : Bytes} (h : field.length ≤ 65535) (rest : Bytes) :
    takeShortField (shortField field ++ rest) = some (field, rest) := by
  have hLength := Bytes.toNat_ofWord16 h
  have hEnough : ¬ (field ++ rest).length < field.length := by
    rw [List.length_append]
    omega
  simp only [Bytes.ofWord16] at hLength
  simp only [shortField, Bytes.ofWord16, List.cons_append, List.nil_append, takeShortField,
    hLength, hEnough, if_false, List.take_left, List.drop_left]

theorem takeLongField_longField {field : Bytes} (h : field.length ≤ 4294967295) (rest : Bytes) :
    takeLongField (longField field ++ rest) = some (field, rest) := by
  have hLength := Bytes.toNat_ofWord32 h
  have hEnough : ¬ (field ++ rest).length < field.length := by
    rw [List.length_append]
    omega
  simp only [Bytes.ofWord32] at hLength
  simp only [longField, Bytes.ofWord32, List.cons_append, List.nil_append, takeLongField,
    hLength, hEnough, if_false, List.take_left, List.drop_left]

theorem connectOfBody_body {c : Connect} (hKey : c.sessionKey.length ≤ 65535)
    (hSignature : c.signature.length ≤ 65535) (hPayload : c.payload.length ≤ 4294967295) :
    connectOfBody (connect c).body = .ok (connect c) := by
  have hKeepAlive : Bytes.toNat (Bytes.ofWord16 c.keepAlive.toNat) = c.keepAlive.toNat :=
    Bytes.toNat_ofWord16 (Nat.le_of_lt_succ c.keepAlive.toNat_lt)
  have hLast := takeLongField_longField hPayload []
  rw [List.append_nil] at hLast
  simp only [Bytes.ofWord16] at hKeepAlive
  simp only [body, Bytes.ofWord16, List.cons_append, List.nil_append, List.append_assoc,
    connectOfBody, takeShortField_shortField hKey, takeShortField_shortField hSignature, hLast,
    hKeepAlive]
  simp

def hasKnownFlags : Frame → Bool
  | syncRequest s | syncResponse s => s.hasKnownFlags
  | _ => true

theorem syncOfBody_body (isResponse : Bool) {s : SyncBody} (hFlags : s.hasKnownFlags = true)
    (hPayload : s.payload.length ≤ 4294967295) :
    syncOfBody isResponse (s.flags :: longField s.payload) =
      .ok (if isResponse then syncResponse s else syncRequest s) := by
  have hKnown : SyncBody.hasKnownFlags { flags := s.flags, payload := [] } = true := hFlags
  have hLast := takeLongField_longField hPayload []
  rw [List.append_nil] at hLast
  simp only [syncOfBody, hKnown, if_true, hLast]
  cases isResponse <;> rfl

theorem ofBody_body {f : Frame} (hSize : f.body.length ≤ RemainingLength.maxValue)
    (hFields : f.shortFieldsFit = true) (hFlags : f.hasKnownFlags = true) :
    ofBody f.header f.body = .ok f := by
  rw [length_body] at hSize
  simp only [RemainingLength.maxValue] at hSize
  cases f with
  | connect c =>
    have hReader : ofBody 0x10 (connect c).body = connectOfBody (connect c).body := rfl
    simp only [shortFieldsFit, Bool.and_eq_true, decide_eq_true_eq] at hFields
    simp only [bodyLength] at hSize
    exact hReader.trans (connectOfBody_body hFields.1 hFields.2 (by omega))
  | connAck code => cases code <;> rfl
  | syncRequest s =>
    have hReader : ofBody 0xF0 (syncRequest s).body = syncOfBody false (syncRequest s).body := rfl
    simp only [bodyLength] at hSize
    exact hReader.trans (syncOfBody_body false hFlags (by omega))
  | syncResponse s =>
    have hReader : ofBody 0xF1 (syncResponse s).body = syncOfBody true (syncResponse s).body := rfl
    simp only [bodyLength] at hSize
    exact hReader.trans (syncOfBody_body true hFlags (by omega))
  | pingReq => rfl
  | pingResp => rfl
  | disconnect reason => cases reason <;> rfl

/-- A frame that has an encoding. -/
structure IsEncodable (f : Frame) : Prop where
  size : f.body.length ≤ 268435455
  fields : ∀ c, f = connect c → c.sessionKey.length ≤ 65535 ∧ c.signature.length ≤ 65535

theorem shortFieldsFit_iff {f : Frame} :
    f.shortFieldsFit = true ↔
      ∀ c, f = connect c → c.sessionKey.length ≤ 65535 ∧ c.signature.length ≤ 65535 := by
  cases f <;> simp [shortFieldsFit]

theorem encode_of_isEncodable {f : Frame} (h : f.IsEncodable) :
    f.encode = .ok (f.header :: RemainingLength.encode f.body.length ++ f.body) := by
  have hSize : ¬ f.bodyLength > RemainingLength.maxValue := by
    rw [← length_body]
    exact Nat.not_lt.mpr h.size
  rw [encode, if_neg hSize, if_pos (shortFieldsFit_iff.mpr h.fields), length_body]

theorem encode_of_large {f : Frame} (h : 268435455 < f.body.length) :
    f.encode = .error (.tooLarge f.body.length) := by
  have hSize : f.bodyLength > RemainingLength.maxValue := length_body f ▸ h
  rw [encode, if_pos hSize, length_body]

theorem encode_of_long_field {f : Frame} (hSize : f.body.length ≤ 268435455)
    (hFields : ¬ f.IsEncodable) : f.encode = .error (.malformed .connect) := by
  have hSmall : ¬ f.bodyLength > RemainingLength.maxValue := by
    rw [← length_body]
    exact Nat.not_lt.mpr hSize
  have hLong : ¬ f.shortFieldsFit = true := fun hFit =>
    hFields ⟨hSize, shortFieldsFit_iff.mp hFit⟩
  rw [encode, if_neg hSmall, if_neg hLong]

theorem encode_ok_iff (f : Frame) : (∃ bytes, f.encode = .ok bytes) ↔ f.IsEncodable := by
  constructor
  · rintro ⟨bytes, hBytes⟩
    by_cases hSize : f.body.length ≤ 268435455
    · refine Classical.byContradiction fun hNot => ?_
      rw [encode_of_long_field hSize hNot] at hBytes
      cases hBytes
    · rw [encode_of_large (Nat.lt_of_not_le hSize)] at hBytes
      cases hBytes
  · intro h
    exact ⟨_, encode_of_isEncodable h⟩

/-- An encoded frame is found in front of whatever follows. -/
theorem scan_encode {limit : Nat} {f : Frame} {bytes : Bytes} (hBytes : f.encode = .ok bytes)
    (hFlags : f.hasKnownFlags = true) (hLimit : f.body.length ≤ limit) (rest : Bytes) :
    ∃ behind, bytes.length = behind + 1 ∧ scan limit (bytes ++ rest) = .found f behind := by
  have hEncodable := (encode_ok_iff f).mp ⟨bytes, hBytes⟩
  rw [encode_of_isEncodable hEncodable] at hBytes
  cases hBytes
  refine ⟨(RemainingLength.encode f.body.length).length + f.body.length, by simp, ?_⟩
  have hRead := RemainingLength.read_encode hEncodable.size (f.body ++ rest)
  have hEnough : ¬ (RemainingLength.encode f.body.length ++ (f.body ++ rest)).length <
      (RemainingLength.encode f.body.length).length + f.body.length := by
    simp only [List.length_append]
    omega
  have hOfBody := ofBody_body hEncodable.size (shortFieldsFit_iff.mpr hEncodable.fields) hFlags
  rw [List.cons_append, List.cons_append, List.append_assoc, scan_cons, hRead]
  simp only [Nat.not_lt.mpr hLimit, hEnough, if_false, List.drop_left, List.take_left,
    Scan.ofBody, hOfBody]

theorem mapM_encode_cons {f : Frame} {rest : List Frame} {encodings : List Bytes}
    (h : (f :: rest).mapM encode = .ok encodings) :
    ∃ bytes later, f.encode = .ok bytes ∧ rest.mapM encode = .ok later ∧
      encodings = bytes :: later := by
  rw [List.mapM_cons] at h
  cases hFirst : f.encode with
  | error error =>
    rw [hFirst] at h
    cases h
  | ok bytes =>
    rw [hFirst] at h
    cases hRest : rest.mapM encode with
    | error error =>
      rw [hRest] at h
      cases h
    | ok later =>
      rw [hRest] at h
      cases h
      exact ⟨bytes, later, rfl, rfl, rfl⟩

theorem exists_encodings {frames : List Frame} (h : ∀ f ∈ frames, f.IsEncodable) :
    ∃ encodings, frames.mapM encode = .ok encodings := by
  induction frames with
  | nil => exact ⟨[], rfl⟩
  | cons f rest ih =>
    obtain ⟨hFirst, hRest⟩ := List.forall_mem_cons.mp h
    obtain ⟨later, hLater⟩ := ih hRest
    refine ⟨(f.header :: RemainingLength.encode f.body.length ++ f.body) :: later, ?_⟩
    rw [List.mapM_cons, encode_of_isEncodable hFirst, hLater]
    rfl

/-- Encodings in a row divide into the frames that they encode, and nothing is left over. -/
theorem reads_encodings {limit : Nat} {frames : List Frame} {encodings : List Bytes}
    (hEncodings : frames.mapM encode = .ok encodings)
    (hFrames : ∀ f ∈ frames, f.hasKnownFlags = true ∧ f.body.length ≤ limit) :
    Reads limit encodings.flatten frames none [] := by
  induction frames generalizing encodings with
  | nil =>
    cases hEncodings
    exact .incomplete rfl
  | cons f rest ih =>
    obtain ⟨⟨hFlags, hLimit⟩, hRest⟩ := List.forall_mem_cons.mp hFrames
    obtain ⟨bytes, later, hBytes, hLater, rfl⟩ := mapM_encode_cons hEncodings
    obtain ⟨behind, hLength, hScan⟩ := scan_encode hBytes hFlags hLimit later.flatten
    refine .found hScan ?_
    rw [List.flatten_cons, ← hLength, List.drop_left]
    exact ih hLater hRest

end Frame

/-- Exactly the frames that fit have an encoding, the size being looked at first; and whatever list
of them is encoded in a row, its pieces give back that list and leave nothing over. -/
theorem Assembler.feedAll_encodings :
    (∀ f : Frame, ((∃ bytes, f.encode = .ok bytes) ↔ f.IsEncodable) ∧
      (268435455 < f.body.length → f.encode = .error (.tooLarge f.body.length)) ∧
      (f.body.length ≤ 268435455 → ¬ f.IsEncodable → f.encode = .error (.malformed .connect))) ∧
    ∀ (limit : Nat) (frames : List Frame),
      (∀ f ∈ frames, f.IsEncodable ∧ f.hasKnownFlags = true ∧ f.body.length ≤ limit) →
      ∃ encodings, frames.mapM Frame.encode = .ok encodings ∧
        ∀ pieces : List Bytes, pieces.flatten = encodings.flatten →
          (Assembler.ofLimit limit).feedAll pieces = (.ok frames, Assembler.ofLimit limit) := by
  constructor
  · intro f
    exact ⟨f.encode_ok_iff, Frame.encode_of_large, Frame.encode_of_long_field⟩
  · intro limit frames hFrames
    obtain ⟨encodings, hEncodings⟩ := Frame.exists_encodings fun f hf => (hFrames f hf).1
    refine ⟨encodings, hEncodings, ?_⟩
    intro pieces hPieces
    have hFit : ∀ f ∈ frames, f.hasKnownFlags = true ∧
        f.body.length ≤ (Assembler.ofLimit limit).limit := by
      intro f hf
      obtain ⟨hEncodable, hFlags, hLimit⟩ := hFrames f hf
      exact ⟨hFlags, Nat.le_min.mpr ⟨hLimit, hEncodable.size⟩⟩
    have hReads := Frame.reads_encodings hEncodings hFit
    have hYields : (Assembler.ofLimit limit).Yields pieces frames none [] :=
      yields_of_reads rfl (hPieces ▸ hReads)
    exact hYields.ok rfl

/-- A session in three frames, cut within a length and within a field. -/
theorem Assembler.feedAll_of_cut_session :
    let greeting : Connect :=
      { keepAlive := 200, protocolId := 1, sessionKey := [7, 8], signature := [9],
        payload := [1, 2, 3] }
    let frames : List Frame :=
      [.connect greeting, .syncResponse (.encrypted [4]), .disconnect .graceful]
    let pieces : List Bytes :=
      [[0x10, 17, 0, 200, 1, 0], [2, 7, 8, 0, 1, 9, 0, 0, 0, 3, 1, 2, 3, 0xF1], [],
        [6, 2, 0, 0, 0, 1, 4, 0xE0, 1], [0]]
    (∀ f ∈ frames, f.IsEncodable ∧ f.hasKnownFlags = true ∧ f.body.length ≤ 17) ∧
      (Assembler.ofLimit 17).feedAll pieces = (.ok frames, Assembler.ofLimit 17) := by
  intro greeting frames pieces
  have hFrames : ∀ f ∈ frames, f.IsEncodable ∧ f.hasKnownFlags = true ∧ f.body.length ≤ 17 := by
    have hEncodable : ∀ f ∈ frames, f.IsEncodable := fun f hf =>
      ⟨(by revert f; decide), Frame.shortFieldsFit_iff.mp (by revert f; decide)⟩
    intro f hf
    exact ⟨hEncodable f hf, by revert f; decide, by revert f; decide⟩
  obtain ⟨encodings, hEncodings, hFeed⟩ := feedAll_encodings.2 17 frames hFrames
  have hBytes : frames.mapM Frame.encode = .ok
      [[0x10, 17, 0, 200, 1, 0, 2, 7, 8, 0, 1, 9, 0, 0, 0, 3, 1, 2, 3],
        [0xF1, 6, 2, 0, 0, 0, 1, 4], [0xE0, 1, 0]] := by
    cbv
  rw [hBytes] at hEncodings
  cases hEncodings
  exact ⟨hFrames, hFeed pieces rfl⟩

end DeviceUplink
