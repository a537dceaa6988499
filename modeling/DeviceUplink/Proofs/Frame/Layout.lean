import DeviceUplink.Proofs.Frame.LengthField

/-!
# Layouts of frame bodies

How the body of each kind of frame is laid out, said without a reader. The readers of bodies accept
exactly these layouts, and each frame has one.
-/

namespace DeviceUplink

namespace Bytes

theorem exists_of_length_two {bytes : Bytes} (h : bytes.length = 2) : ∃ a b, bytes = [a, b] := by
  rcases bytes with _ | ⟨a, _ | ⟨b, _ | ⟨_, _⟩⟩⟩
  case cons.cons.nil => exact ⟨a, b, rfl⟩
  all_goals simp at h

theorem exists_of_length_four {bytes : Bytes} (h : bytes.length = 4) :
    ∃ a b c d, bytes = [a, b, c, d] := by
  rcases bytes with _ | ⟨a, _ | ⟨b, _ | ⟨c, _ | ⟨d, _ | ⟨_, _⟩⟩⟩⟩⟩
  case cons.cons.cons.cons.nil => exact ⟨a, b, c, d, rfl⟩
  all_goals simp at h

theorem toNat_pair_lt (a b : UInt8) : toNat [a, b] < 65536 := by
  have ha := a.toNat_lt
  have hb := b.toNat_lt
  simp only [toNat, List.foldl_cons, List.foldl_nil]
  omega

theorem toUInt8_eq_of_mod {n : Nat} (byte : UInt8) (h : n % 256 = byte.toNat) :
    n.toUInt8 = byte := by
  refine UInt8.toNat_inj.mp ?_
  rw [Nat.toUInt8_eq, UInt8.toNat_ofNat', h]

theorem ofWord16_toNat (a b : UInt8) : ofWord16 (toNat [a, b]) = [a, b] := by
  have ha := a.toNat_lt
  have hb := b.toNat_lt
  simp only [ofWord16, toNat, List.foldl_cons, List.foldl_nil]
  rw [toUInt8_eq_of_mod a (by omega), toUInt8_eq_of_mod b (by omega)]

theorem ofWord32_toNat (a b c d : UInt8) : ofWord32 (toNat [a, b, c, d]) = [a, b, c, d] := by
  have ha := a.toNat_lt
  have hb := b.toNat_lt
  have hc := c.toNat_lt
  have hd := d.toNat_lt
  simp only [ofWord32, toNat, List.foldl_cons, List.foldl_nil]
  rw [toUInt8_eq_of_mod a (by omega), toUInt8_eq_of_mod b (by omega),
    toUInt8_eq_of_mod c (by omega), toUInt8_eq_of_mod d (by omega)]

end Bytes

namespace ReturnCode

variable {byte : UInt8}

theorem ofByte?_eq_some_iff {code : ReturnCode} :
    ofByte? byte = some code ↔ code.toByte = byte := by
  constructor
  · intro h
    unfold ofByte? at h
    split at h <;> cases h <;> exact UInt8.toNat_inj.mp (Eq.symm ‹byte.toNat = _›)
  · rintro rfl
    exact code.ofByte?_toByte

theorem exists_toByte_eq_iff :
    (∃ code, toByte code = byte) ↔ 1 ≤ byte.toNat ∧ byte.toNat ≤ 7 := by
  constructor
  · rintro ⟨code, rfl⟩
    cases code <;> decide
  · rintro ⟨hFirst, hLast⟩
    have hAll : ∀ n < 8, 1 ≤ n → ∃ code ∈ all, code.toByte.toNat = n := by decide
    obtain ⟨code, _, hCode⟩ := hAll byte.toNat (Nat.lt_succ_of_le hLast) hFirst
    exact ⟨code, UInt8.toNat_inj.mp hCode⟩

end ReturnCode

namespace DisconnectReason

variable {byte : UInt8}

theorem ofByte?_eq_some_iff {reason : DisconnectReason} :
    ofByte? byte = some reason ↔ reason.toByte = byte := by
  constructor
  · intro h
    unfold ofByte? at h
    split at h <;> cases h <;> exact UInt8.toNat_inj.mp (Eq.symm ‹byte.toNat = _›)
  · rintro rfl
    exact reason.ofByte?_toByte

theorem exists_toByte_eq_iff : (∃ reason, toByte reason = byte) ↔ byte.toNat ≤ 3 := by
  constructor
  · rintro ⟨reason, rfl⟩
    cases reason <;> decide
  · intro hLast
    have hAll : ∀ n < 4, ∃ reason ∈ all, reason.toByte.toNat = n := by decide
    obtain ⟨reason, _, hReason⟩ := hAll byte.toNat (Nat.lt_succ_of_le hLast)
    exact ⟨reason, UInt8.toNat_inj.mp hReason⟩

end DisconnectReason

theorem SyncBody.hasKnownFlags_iff {s : SyncBody} :
    s.hasKnownFlags = true ↔ s.flags.toNat ≤ 3 := by
  have hAll : ∀ n < 256,
      hasKnownFlags { flags := UInt8.ofNat n, payload := [] } = true ↔ n ≤ 3 := by
    decide +kernel
  have hFlags := hAll s.flags.toNat s.flags.toNat_lt
  rwa [UInt8.ofNat_toNat] at hFlags

namespace Frame

def Sized (width : Nat) (field octets : Bytes) : Prop :=
  ∃ front : Bytes, octets = front ++ field ∧ front.length = width ∧
    Bytes.toNat front = field.length

inductive Layout : Frame → Bytes → Prop
  | connect {c : Connect} {keepAlive sessionKey signature payload : Bytes}
      (hWidth : keepAlive.length = 2) (hKeepAlive : Bytes.toNat keepAlive = c.keepAlive.toNat)
      (hKey : Sized 2 c.sessionKey sessionKey) (hSignature : Sized 2 c.signature signature)
      (hPayload : Sized 4 c.payload payload) :
      Layout (connect c) (keepAlive ++ c.protocolId :: (sessionKey ++ (signature ++ payload)))
  | connAck (code : ReturnCode) : Layout (connAck code) [code.toByte]
  | syncRequest {s : SyncBody} {payload : Bytes} (hFlags : s.hasKnownFlags = true)
      (hPayload : Sized 4 s.payload payload) : Layout (syncRequest s) (s.flags :: payload)
  | syncResponse {s : SyncBody} {payload : Bytes} (hFlags : s.hasKnownFlags = true)
      (hPayload : Sized 4 s.payload payload) : Layout (syncResponse s) (s.flags :: payload)
  | pingReq : Layout pingReq []
  | pingResp : Layout pingResp []
  | disconnect (reason : DisconnectReason) : Layout (disconnect reason) [reason.toByte]

/-! ### Readers -/

variable {f : Frame} {header : UInt8} {body octets field rest : Bytes}

theorem takeShortField_of_sized (h : Sized 2 field octets) (rest : Bytes) :
    takeShortField (octets ++ rest) = some (field, rest) := by
  obtain ⟨front, rfl, hWidth, hLength⟩ := h
  obtain ⟨a, b, rfl⟩ := Bytes.exists_of_length_two hWidth
  have hEnough : ¬ (field ++ rest).length < field.length := by
    rw [List.length_append]
    omega
  simp only [List.cons_append, List.nil_append, takeShortField, hLength, hEnough, if_false,
    List.take_left, List.drop_left]

theorem sized_of_takeShortField (h : takeShortField octets = some (field, rest)) :
    ∃ front, octets = front ++ rest ∧ Sized 2 field front := by
  rcases octets with _ | ⟨a, _ | ⟨b, octets⟩⟩
  · cases h
  · cases h
  rw [takeShortField] at h
  by_cases hShort : octets.length < Bytes.toNat [a, b]
  · simp [hShort] at h
  · simp only [hShort, if_false, Option.some.injEq, Prod.mk.injEq] at h
    obtain ⟨rfl, rfl⟩ := h
    refine ⟨[a, b] ++ octets.take (Bytes.toNat [a, b]), ?_, [a, b], rfl, rfl, ?_⟩
    · rw [List.append_assoc, List.take_append_drop]
      rfl
    · rw [List.length_take_of_le (Nat.le_of_not_lt hShort)]

theorem takeLongField_of_sized (h : Sized 4 field octets) (rest : Bytes) :
    takeLongField (octets ++ rest) = some (field, rest) := by
  obtain ⟨front, rfl, hWidth, hLength⟩ := h
  obtain ⟨a, b, c, d, rfl⟩ := Bytes.exists_of_length_four hWidth
  have hEnough : ¬ (field ++ rest).length < field.length := by
    rw [List.length_append]
    omega
  simp only [List.cons_append, List.nil_append, takeLongField, hLength, hEnough, if_false,
    List.take_left, List.drop_left]

theorem sized_of_takeLongField (h : takeLongField octets = some (field, rest)) :
    ∃ front, octets = front ++ rest ∧ Sized 4 field front := by
  rcases octets with _ | ⟨a, _ | ⟨b, _ | ⟨c, _ | ⟨d, octets⟩⟩⟩⟩
  · cases h
  · cases h
  · cases h
  · cases h
  rw [takeLongField] at h
  by_cases hShort : octets.length < Bytes.toNat [a, b, c, d]
  · simp [hShort] at h
  · simp only [hShort, if_false, Option.some.injEq, Prod.mk.injEq] at h
    obtain ⟨rfl, rfl⟩ := h
    refine ⟨[a, b, c, d] ++ octets.take (Bytes.toNat [a, b, c, d]), ?_, [a, b, c, d], rfl, rfl, ?_⟩
    · rw [List.append_assoc, List.take_append_drop]
      rfl
    · rw [List.length_take_of_le (Nat.le_of_not_lt hShort)]

/-- A field that fills the octets has nothing behind it. -/
theorem takeLongField_eq_some_nil_iff :
    takeLongField octets = some (field, []) ↔ Sized 4 field octets := by
  constructor
  · intro h
    obtain ⟨front, rfl, hSized⟩ := sized_of_takeLongField h
    rwa [List.append_nil]
  · intro h
    have hTaken := takeLongField_of_sized h []
    rwa [List.append_nil] at hTaken

theorem connectOfBody_eq_ok_iff :
    connectOfBody body = .ok f ↔ f.header = 0x10 ∧ Layout f body := by
  constructor
  · intro h
    rcases body with _ | ⟨a, _ | ⟨b, _ | ⟨protocolId, octets⟩⟩⟩
    · cases h
    · cases h
    · cases h
    simp only [connectOfBody] at h
    cases hKey : takeShortField octets with
    | none => simp [hKey] at h
    | some split =>
      obtain ⟨sessionKey, behindKey⟩ := split
      simp only [hKey] at h
      cases hSignature : takeShortField behindKey with
      | none => simp [hSignature] at h
      | some split =>
        obtain ⟨signature, behindSignature⟩ := split
        simp only [hSignature] at h
        rcases hPayload : takeLongField behindSignature with _ | ⟨payload, _ | ⟨_, _⟩⟩
        · simp [hPayload] at h
        · simp only [hPayload] at h
          cases h
          obtain ⟨_, rfl, hKeySized⟩ := sized_of_takeShortField hKey
          obtain ⟨_, rfl, hSignatureSized⟩ := sized_of_takeShortField hSignature
          have hKeepAlive : Bytes.toNat [a, b] = (Bytes.toNat [a, b]).toUInt16.toNat :=
            (Nat.mod_eq_of_lt (Bytes.toNat_pair_lt a b)).symm
          exact ⟨rfl, @Layout.connect _ [a, b] _ _ _ rfl hKeepAlive hKeySized hSignatureSized
            (takeLongField_eq_some_nil_iff.mp hPayload)⟩
        · simp [hPayload] at h
  · rintro ⟨hHeader, hLayout⟩
    cases hLayout with
    | @connect c _ _ _ _ hWidth hKeepAlive hKey hSignature hPayload =>
      obtain ⟨a, b, rfl⟩ := Bytes.exists_of_length_two hWidth
      have hValue : (Bytes.toNat [a, b]).toUInt16 = c.keepAlive := by
        rw [hKeepAlive]
        exact UInt16.ofNat_toNat
      simp only [List.cons_append, List.nil_append, connectOfBody, takeShortField_of_sized hKey,
        takeShortField_of_sized hSignature, takeLongField_eq_some_nil_iff.mpr hPayload, hValue]
    | _ => simp [Frame.header] at hHeader

theorem syncOfBody_eq_ok_iff (isResponse : Bool) :
    syncOfBody isResponse body = .ok f ↔
      f.header = (if isResponse then 0xF1 else 0xF0) ∧ Layout f body := by
  constructor
  · intro h
    cases body with
    | nil => cases h
    | cons flags octets =>
      rw [syncOfBody] at h
      by_cases hFlags : SyncBody.hasKnownFlags { flags, payload := [] } = true
      · rw [if_pos hFlags] at h
        rcases hPayload : takeLongField octets with _ | ⟨payload, _ | ⟨_, _⟩⟩
        · simp [hPayload] at h
        · have hSized := takeLongField_eq_some_nil_iff.mp hPayload
          cases isResponse with
          | false =>
            simp only [hPayload] at h
            cases h
            exact ⟨rfl, .syncRequest hFlags hSized⟩
          | true =>
            simp only [hPayload] at h
            cases h
            exact ⟨rfl, .syncResponse hFlags hSized⟩
        · cases isResponse <;> simp [hPayload] at h
      · simp [hFlags] at h
  · rintro ⟨hHeader, hLayout⟩
    cases hLayout with
    | @syncRequest s payload hFlags hPayload =>
      have hKnown : SyncBody.hasKnownFlags { flags := s.flags, payload := [] } = true := hFlags
      cases isResponse with
      | false => simp only [syncOfBody, hKnown, if_true, takeLongField_eq_some_nil_iff.mpr hPayload]
      | true => simp [Frame.header] at hHeader
    | @syncResponse s payload hFlags hPayload =>
      have hKnown : SyncBody.hasKnownFlags { flags := s.flags, payload := [] } = true := hFlags
      cases isResponse with
      | false => simp [Frame.header] at hHeader
      | true => simp only [syncOfBody, hKnown, if_true, takeLongField_eq_some_nil_iff.mpr hPayload]
    | _ => cases isResponse <;> simp [Frame.header] at hHeader

theorem connAckOfBody_eq_ok_iff :
    connAckOfBody body = .ok f ↔ f.header = 0x20 ∧ Layout f body := by
  constructor
  · intro h
    cases body with
    | nil => cases h
    | cons byte octets =>
      rw [connAckOfBody] at h
      cases hCode : ReturnCode.ofByte? byte with
      | none => simp [hCode] at h
      | some code =>
        simp only [hCode] at h
        cases octets with
        | nil =>
          cases h
          obtain rfl := ReturnCode.ofByte?_eq_some_iff.mp hCode
          exact ⟨rfl, .connAck code⟩
        | cons => cases h
  · rintro ⟨hHeader, hLayout⟩
    cases hLayout with
    | connAck code => simp [connAckOfBody, ReturnCode.ofByte?_toByte]
    | _ => simp [Frame.header] at hHeader

theorem disconnectOfBody_eq_ok_iff :
    disconnectOfBody body = .ok f ↔ f.header = 0xE0 ∧ Layout f body := by
  constructor
  · intro h
    cases body with
    | nil => cases h
    | cons byte octets =>
      rw [disconnectOfBody] at h
      cases hReason : DisconnectReason.ofByte? byte with
      | none => simp [hReason] at h
      | some reason =>
        simp only [hReason] at h
        cases octets with
        | nil =>
          cases h
          obtain rfl := DisconnectReason.ofByte?_eq_some_iff.mp hReason
          exact ⟨rfl, .disconnect reason⟩
        | cons => cases h
  · rintro ⟨hHeader, hLayout⟩
    cases hLayout with
    | disconnect reason => simp [disconnectOfBody, DisconnectReason.ofByte?_toByte]
    | _ => simp [Frame.header] at hHeader

/-- An octet is known by its two halves. -/
theorem header_eq_of_halves {other : UInt8} (hType : header >>> 4 = other >>> 4)
    (hFlags : header &&& 0x0F = other &&& 0x0F) : header = other := by
  have hHalves : ∀ octet : UInt8,
      octet.toNat = 16 * (octet >>> 4).toNat + (octet &&& 0x0F).toNat := by
    intro octet
    have hHigh : (octet >>> 4).toNat = octet.toNat / 16 := by
      rw [UInt8.toNat_shiftRight]
      exact Nat.shiftRight_eq_div_pow octet.toNat 4
    have hLow : (octet &&& 0x0F).toNat = octet.toNat % 16 := by
      rw [UInt8.toNat_and]
      exact Nat.and_two_pow_sub_one_eq_mod octet.toNat 4
    omega
  refine UInt8.toNat_inj.mp ?_
  rw [hHalves header, hHalves other, hType, hFlags]

def knownHeaders : List UInt8 :=
  [0x10, 0x20, 0xC0, 0xD0, 0xE0, 0xF0, 0xF1]

/-- No other header leads to a frame. -/
theorem header_mem_of_ofBody (h : ofBody header body = .ok f) : header ∈ knownHeaders := by
  suffices hKnown : ∃ known ∈ knownHeaders,
      header >>> 4 = known >>> 4 ∧ header &&& 0x0F = known &&& 0x0F by
    obtain ⟨known, hMem, hType, hFlags⟩ := hKnown
    exact header_eq_of_halves hType hFlags ▸ hMem
  -- Each test that leads to a reader settles one half of the header.
  simp only [ofBody] at h
  split at h
  case isTrue hType =>
    split at h
    case isTrue hFlags => exact ⟨0xF0, by decide, hType, hFlags⟩
    split at h
    case isTrue hFlags => exact ⟨0xF1, by decide, hType, hFlags⟩
    cases h
  split at h
  case isTrue => cases h
  case isFalse hFlags =>
    have hFlags : header &&& 0x0F = 0 := Decidable.of_not_not hFlags
    split at h
    case isTrue hType => exact ⟨0x10, by decide, hType, hFlags⟩
    split at h
    case isTrue hType => exact ⟨0x20, by decide, hType, hFlags⟩
    split at h
    case isTrue hType => exact ⟨0xC0, by decide, hType, hFlags⟩
    split at h
    case isTrue hType => exact ⟨0xD0, by decide, hType, hFlags⟩
    split at h
    case isTrue hType => exact ⟨0xE0, by decide, hType, hFlags⟩
    cases h

theorem ofBody_eq_ok_iff : ofBody header body = .ok f ↔ header = f.header ∧ Layout f body := by
  constructor
  · intro h
    have hHeader := header_mem_of_ofBody h
    simp only [knownHeaders, List.mem_cons, List.not_mem_nil, or_false] at hHeader
    rcases hHeader with rfl | rfl | rfl | rfl | rfl | rfl | rfl
    · have hRead := connectOfBody_eq_ok_iff.mp h
      exact ⟨hRead.1.symm, hRead.2⟩
    · have hRead := connAckOfBody_eq_ok_iff.mp h
      exact ⟨hRead.1.symm, hRead.2⟩
    · cases body with
      | nil =>
        cases h
        exact ⟨rfl, .pingReq⟩
      | cons => cases h
    · cases body with
      | nil =>
        cases h
        exact ⟨rfl, .pingResp⟩
      | cons => cases h
    · have hRead := disconnectOfBody_eq_ok_iff.mp h
      exact ⟨hRead.1.symm, hRead.2⟩
    · have hRead := (syncOfBody_eq_ok_iff false).mp h
      exact ⟨hRead.1.symm, hRead.2⟩
    · have hRead := (syncOfBody_eq_ok_iff true).mp h
      exact ⟨hRead.1.symm, hRead.2⟩
  · rintro ⟨rfl, hLayout⟩
    cases f with
    | connect c =>
      have hReader : ofBody 0x10 body = connectOfBody body := rfl
      exact hReader.trans (connectOfBody_eq_ok_iff.mpr ⟨rfl, hLayout⟩)
    | connAck code =>
      have hReader : ofBody 0x20 body = connAckOfBody body := rfl
      exact hReader.trans (connAckOfBody_eq_ok_iff.mpr ⟨rfl, hLayout⟩)
    | syncRequest s =>
      have hReader : ofBody 0xF0 body = syncOfBody false body := rfl
      exact hReader.trans ((syncOfBody_eq_ok_iff _).mpr ⟨rfl, hLayout⟩)
    | syncResponse s =>
      have hReader : ofBody 0xF1 body = syncOfBody true body := rfl
      exact hReader.trans ((syncOfBody_eq_ok_iff _).mpr ⟨rfl, hLayout⟩)
    | pingReq =>
      cases hLayout
      rfl
    | pingResp =>
      cases hLayout
      rfl
    | disconnect reason =>
      have hReader : ofBody 0xE0 body = disconnectOfBody body := rfl
      exact hReader.trans (disconnectOfBody_eq_ok_iff.mpr ⟨rfl, hLayout⟩)

/-! ### One layout for each body -/

theorem eq_shortField_of_sized (h : Sized 2 field octets) :
    octets = shortField field ∧ field.length ≤ 65535 := by
  obtain ⟨front, rfl, hWidth, hLength⟩ := h
  obtain ⟨a, b, rfl⟩ := Bytes.exists_of_length_two hWidth
  have hBound := Bytes.toNat_pair_lt a b
  rw [shortField, ← hLength, Bytes.ofWord16_toNat]
  exact ⟨rfl, by omega⟩

theorem eq_longField_of_sized (h : Sized 4 field octets) : octets = longField field := by
  obtain ⟨front, rfl, hWidth, hLength⟩ := h
  obtain ⟨a, b, c, d, rfl⟩ := Bytes.exists_of_length_four hWidth
  rw [longField, ← hLength, Bytes.ofWord32_toNat]

theorem Layout.eq_body (h : Layout f body) :
    body = f.body ∧ f.shortFieldsFit = true ∧ f.hasKnownFlags = true := by
  cases h with
  | @connect c keepAlive sessionKey signature payload hWidth hKeepAlive hKey hSignature hPayload =>
    obtain ⟨rfl, hKeyFits⟩ := eq_shortField_of_sized hKey
    obtain ⟨rfl, hSignatureFits⟩ := eq_shortField_of_sized hSignature
    obtain rfl := eq_longField_of_sized hPayload
    obtain ⟨a, b, rfl⟩ := Bytes.exists_of_length_two hWidth
    refine ⟨?_, by simp [shortFieldsFit, hKeyFits, hSignatureFits], rfl⟩
    rw [Frame.body, ← hKeepAlive, Bytes.ofWord16_toNat]
    simp only [List.cons_append, List.nil_append, List.append_assoc]
  | syncRequest hFlags hPayload =>
    obtain rfl := eq_longField_of_sized hPayload
    exact ⟨rfl, rfl, hFlags⟩
  | syncResponse hFlags hPayload =>
    obtain rfl := eq_longField_of_sized hPayload
    exact ⟨rfl, rfl, hFlags⟩
  | _ => exact ⟨rfl, rfl, rfl⟩

end Frame

end DeviceUplink
