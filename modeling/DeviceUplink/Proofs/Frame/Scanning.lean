import DeviceUplink.Frame.Assembler

/-!
# Scanning and more bytes

Once a scan has found a frame or a fault, bytes that follow do not change what it has found: the
length field is read from the same octets and the body is the same slice. Only an incomplete scan
is open.
-/

namespace DeviceUplink

namespace RemainingLength

theorem readGroups_append (room : Nat) (bytes more : Bytes)
    (h : readGroups room bytes ≠ .incomplete) :
    readGroups room (bytes ++ more) = readGroups room bytes := by
  induction room generalizing bytes with
  | zero => rfl
  | succ room ih =>
    cases bytes with
    | nil => exact absurd rfl h
    | cons byte rest =>
      simp only [readGroups, List.cons_append] at h ⊢
      by_cases hLast : byte.toNat < 128
      · simp only [hLast, if_true]
      · simp only [hLast, if_false] at h ⊢
        rw [ih rest]
        intro hRest
        rw [hRest] at h
        exact h rfl

/-- No more octets are looked at than there is room for. -/
theorem readGroups_take (room : Nat) (bytes : Bytes) :
    readGroups room (bytes.take room) = readGroups room bytes := by
  induction room generalizing bytes with
  | zero => rfl
  | succ room ih =>
    cases bytes with
    | nil => rfl
    | cons byte rest => simp only [List.take_succ_cons, readGroups, ih]

end RemainingLength

namespace Frame

/-- The scan of a byte string by its header octet and its length field. -/
theorem scan_cons (limit : Nat) (header : UInt8) (rest : Bytes) :
    scan limit (header :: rest) =
      match RemainingLength.read rest with
      | .incomplete => .incomplete
      | .malformed => .stuck .badLength
      | .value length used =>
        if limit < length then .stuck (.tooLarge length)
        else if rest.length < used + length then .incomplete
        else .ofBody header ((rest.drop used).take length) (used + length) := by
  have hRead : RemainingLength.read (rest.take 4) = RemainingLength.read rest :=
    RemainingLength.readGroups_take 4 rest
  simp only [scan, scanBuffer, List.take_succ_cons, hRead]
  cases RemainingLength.read rest with
  | incomplete => rfl
  | malformed => rfl
  | value length used =>
    have hSize : (header :: rest).length < 1 + used + length ↔ rest.length < used + length := by
      rw [List.length_cons]
      omega
    have hBody : (header :: rest).drop (1 + used) = rest.drop used := by
      rw [Nat.add_comm, List.drop_succ_cons]
    simp only [hSize, hBody]

theorem scan_append {limit : Nat} {bytes : Bytes} (h : scan limit bytes ≠ .incomplete)
    (more : Bytes) : scan limit (bytes ++ more) = scan limit bytes := by
  cases bytes with
  | nil => exact absurd rfl h
  | cons header rest =>
    rw [List.cons_append]
    rw [scan_cons] at h ⊢
    rw [scan_cons]
    have hRead : RemainingLength.read (rest ++ more) = RemainingLength.read rest := by
      refine RemainingLength.readGroups_append 4 rest more fun hIncomplete => h ?_
      rw [RemainingLength.read, hIncomplete]
    rw [hRead]
    cases hReading : RemainingLength.read rest with
    | incomplete => rfl
    | malformed => rfl
    | value length used =>
      rw [hReading] at h
      by_cases hLarge : limit < length
      · simp only [hLarge, if_true]
      · by_cases hShort : rest.length < used + length
        · simp only [hLarge, hShort, if_true, if_false] at h
          exact absurd rfl h
        · have hLong : ¬ (rest ++ more).length < used + length := by
            rw [List.length_append]
            omega
          have hBody : ((rest ++ more).drop used).take length = (rest.drop used).take length := by
            rw [List.drop_append_of_le_length (by omega),
              List.take_append_of_le_length (by rw [List.length_drop]; omega)]
          simp only [hLarge, hShort, hLong, hBody, if_false]

/-- What is found lies within the bytes. -/
theorem behind_lt_length {limit behind : Nat} {bytes : Bytes} {frame : Frame}
    (h : scan limit bytes = .found frame behind) : behind < bytes.length := by
  cases bytes with
  | nil => cases h
  | cons header rest =>
    rw [scan_cons] at h
    cases hReading : RemainingLength.read rest with
    | incomplete => simp [hReading] at h
    | malformed => simp [hReading] at h
    | value length used =>
      simp only [hReading] at h
      by_cases hLarge : limit < length
      · simp [hLarge] at h
      · by_cases hShort : rest.length < used + length
        · simp [hLarge, hShort] at h
        · simp only [hLarge, hShort, if_false, Scan.ofBody] at h
          split at h
          · cases h
            rw [List.length_cons]
            omega
          · cases h

end Frame

end DeviceUplink
