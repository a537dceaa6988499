import DeviceUplink.Proofs.Frame.LengthField

/-!
# Groups of seven bits

What is written is the shortest numeral of a number, behind whatever was written before. It is read
back if it fits four octets and refused if it does not; a part of it is never taken for a number.
The reader has no need of large words.
-/

namespace DeviceUplink.RemainingLength

variable {n room used : Nat} {byte : UInt8} {field bytes : Bytes}

/-! ### Writing -/

theorem flagged_toUInt8 (n : Nat) :
    (n % 128).toUInt8 ||| 0x80 = (n % 128 + 128).toUInt8 := by
  have hGroup : n % 128 < 2 ^ 7 := Nat.mod_lt _ (by decide)
  apply UInt8.toNat_inj.mp
  rw [UInt8.toNat_or, toNat_toUInt8_of_lt (by omega), toNat_toUInt8_of_lt (by omega), Nat.or_comm]
  exact (Nat.two_pow_add_eq_or_of_lt hGroup 1).symm.trans (Nat.add_comm _ _)

/-- What is in the buffer stays in front. -/
theorem put_eq (buffer : Bytes) (n : Nat) : put buffer n = buffer ++ encode n := by
  fun_induction put buffer n with
  | case1 buffer n group hZero =>
    have hSmall : n < 128 := by omega
    rw [encode, if_pos hSmall]
    simp only [group, Nat.mod_eq_of_lt hSmall]
  | case2 buffer n group hMore ih =>
    have hLarge : ¬ n < 128 := by omega
    rw [ih, encode.eq_def n, if_neg hLarge, List.append_assoc]
    simp only [group, flagged_toUInt8, List.singleton_append]

theorem groups_encode (n : Nat) : Groups n (encode n) :=
  padded_zero n ▸ groups_padded 0 n

/-- A field of the same number has the same octets or more of them. -/
theorem Groups.eq_encode_or_lt (h : Groups n field) :
    field = encode n ∨ (encode n).length < field.length := by
  obtain ⟨zeros, rfl⟩ := groups_iff.mp h
  cases zeros with
  | zero => exact .inl (padded_zero n)
  | succ zeros =>
    rw [length_padded]
    exact .inr (by omega)

/-- The digits written are those of the number, and a zero is written too. -/
theorem digits_encode (n : Nat) : digits (encode n) = if n = 0 then [0] else Nat.digits 128 n := by
  fun_induction encode n with
  | case1 n hSmall =>
    have hByte : n.toUInt8.toNat = n := toNat_toUInt8_of_lt (by omega)
    by_cases hZero : n = 0
    · rw [if_pos hZero, hZero]
      rfl
    · rw [if_neg hZero, Nat.digits_of_lt 128 n hZero hSmall]
      simp only [digits, List.map_cons, List.map_nil, hByte, Nat.mod_eq_of_lt hSmall]
  | case2 n hLarge ih =>
    have hByte : (n % 128 + 128).toUInt8.toNat = n % 128 + 128 := toNat_toUInt8_of_lt (by omega)
    have hDigit : (n % 128 + 128) % 128 = n % 128 := by omega
    have hMore : n / 128 ≠ 0 := by omega
    rw [if_neg hMore] at ih
    rw [if_neg (by omega), Nat.digits_eq_cons_digits_div (by decide) (by omega), ← ih]
    simp only [digits, List.map_cons, hByte, hDigit]

theorem Groups.le_maxValue (h : Groups n field) (hWidth : field.length ≤ 4) : n ≤ maxValue := by
  have hPow : Nat.pow 128 field.length ≤ Nat.pow 128 4 := Nat.pow_le_pow_right (by decide) hWidth
  exact Nat.le_of_lt_succ (Nat.lt_of_lt_of_le h.lt_pow hPow)

theorem isField_encode (n : Nat) : IsField (encode n) :=
  (groups_iff_isField.mp (groups_encode n)).1

theorem length_encode_le_iff : (encode n).length ≤ 4 ↔ n ≤ maxValue := by
  constructor
  · exact (groups_encode n).le_maxValue
  · intro h
    have hRead := read_encode h []
    obtain ⟨field, rest, _, hField, hRoom, _⟩ := groups_of_readGroups hRead
    exact hRoom

/-! ### Reading -/

theorem read_eq_value_iff :
    read bytes = .value n used ↔ 1 ≤ used ∧ used ≤ 4 ∧
      bytes.findIdx? isLast = some (used - 1) ∧ n = sum (bytes.take used) := by
  constructor
  · intro h
    cases hFirst : bytes.findIdx? isLast with
    | none =>
      rw [read, readGroups_of_flagged hFirst] at h
      split at h <;> cases h
    | some i =>
      rw [read, readGroups_of_first hFirst] at h
      split at h
      · next hRoom =>
        cases h
        exact ⟨Nat.succ_pos i, hRoom, rfl, rfl⟩
      · cases h
  · rintro ⟨hUsed, hWidth, hFirst, rfl⟩
    have hRoom : used - 1 < 4 := by omega
    rw [read, readGroups_of_first hFirst, if_pos hRoom, Nat.sub_add_cancel hUsed]

theorem read_eq_malformed_iff :
    read bytes = .malformed ↔ 4 ≤ bytes.length ∧ ∀ byte ∈ bytes.take 4, 128 ≤ byte.toNat := by
  constructor
  · exact flagged_take_of_malformed
  · rintro ⟨hLength, hFlagged⟩
    exact readGroups_eq_malformed_iff.mpr ⟨bytes.take 4, bytes.drop 4,
      (List.take_append_drop 4 bytes).symm, List.length_take_of_le hLength, hFlagged⟩

theorem read_eq_incomplete_iff :
    read bytes = .incomplete ↔ bytes.length < 4 ∧ ∀ byte ∈ bytes, 128 ≤ byte.toNat := by
  rw [← findIdx?_eq_none_iff]
  constructor
  · intro h
    refine ⟨length_lt_of_readGroups h, ?_⟩
    cases hFirst : bytes.findIdx? isLast with
    | none => rfl
    | some i =>
      rw [read, readGroups_of_first hFirst] at h
      split at h <;> cases h
  · rintro ⟨hLength, hNone⟩
    rw [read, readGroups_of_flagged hNone, if_pos hLength]

/-- Every octet of the written form but the last says that another one follows. -/
theorem read_prefix_of_encode (h : n ≤ maxValue) {front : Bytes} (hFront : front <+: encode n)
    (hProper : front ≠ encode n) : read front = .incomplete := by
  have hWidth := length_encode_le_iff.mpr h
  obtain ⟨flagged, last, hEncode, hFlagged, _⟩ := isField_encode n
  rw [hEncode] at hFront hProper hWidth
  have hWithin : front <+: flagged := (List.prefix_concat_iff.mp hFront).resolve_left hProper
  rw [read_eq_incomplete_iff]
  refine ⟨?_, fun byte hByte => hFlagged byte (hWithin.subset hByte)⟩
  rw [List.length_append, List.length_singleton] at hWidth
  exact Nat.lt_of_le_of_lt hWithin.length_le hWidth

theorem read_encode_of_large (h : maxValue < n) (rest : Bytes) :
    read (encode n ++ rest) = .malformed := by
  have hWidth : ¬ (encode n).length ≤ 4 := by
    rw [length_encode_le_iff]
    exact Nat.not_le_of_lt h
  obtain ⟨flagged, last, hEncode, hFlagged, _⟩ := isField_encode n
  rw [hEncode] at hWidth ⊢
  rw [List.length_append, List.length_singleton] at hWidth
  have hFour : 4 ≤ flagged.length := by omega
  rw [read_eq_malformed_iff, List.append_assoc, List.take_append_of_le_length hFour,
    List.length_append]
  exact ⟨by omega, fun byte hByte => hFlagged byte (List.mem_of_mem_take hByte)⟩

/-- The same reader with its sum and the weight of the next digit in words, which hold numbers up to
`largest`; without a result if a word overflows. -/
def readInWords (largest : Nat) : (position value weight : Nat) → Bytes → Option Reading
  | position, _, _, [] => some (if 4 ≤ position then .malformed else .incomplete)
  | position, value, weight, byte :: rest =>
    let next := value + byte.toNat % 128 * weight
    if 4 ≤ position then some .malformed
    else if largest < next then none
    else if isLast byte then some (.value next (position + 1))
    else if largest < weight * 128 then none
    else readInWords largest (position + 1) next (weight * 128) rest

def Reading.behind (position value weight : Nat) : Reading → Reading
  | .value n used => .value (value + weight * n) (position + used)
  | .incomplete => .incomplete
  | .malformed => .malformed

theorem weight_le {weight room : Nat} (h : weight * Nat.pow 128 room = maxValue + 1) :
    weight ≤ maxValue + 1 := by
  rw [← h]
  exact Nat.le_mul_of_pos_right _ (Nat.pow_pos (by decide))

/-- The weight of the next digit times what the remaining room can express is what four groups can,
and the sum is less than the weight. -/
theorem readInWords_eq {largest position value weight : Nat} (hLargest : maxValue < largest)
    (hPosition : position + room = 4) (hWeight : weight * Nat.pow 128 room = maxValue + 1)
    (hValue : value < weight) (bytes : Bytes) :
    readInWords largest position value weight bytes =
      some ((readGroups room bytes).behind position value weight) := by
  induction bytes generalizing room position value weight with
  | nil =>
    cases room with
    | zero =>
      have hFull : 4 ≤ position := by omega
      simp [readInWords, readGroups, Reading.behind, hFull]
    | succ room =>
      have hOpen : ¬ 4 ≤ position := by omega
      simp [readInWords, readGroups, Reading.behind, hOpen]
  | cons byte bytes ih =>
    cases room with
    | zero =>
      have hFull : 4 ≤ position := by omega
      simp [readInWords, readGroups, Reading.behind, hFull]
    | succ room =>
      have hOpen : ¬ 4 ≤ position := by omega
      have hNextWeight : weight * 128 * Nat.pow 128 room = maxValue + 1 := by
        rw [← hWeight, Nat.mul_assoc]
        exact congrArg (weight * ·) (Nat.mul_comm _ _)
      have hBound := weight_le hNextWeight
      have hDigit : byte.toNat % 128 * weight ≤ 127 * weight :=
        Nat.mul_le_mul_right _ (Nat.le_of_lt_succ (Nat.mod_lt _ (by decide)))
      have hNext : value + byte.toNat % 128 * weight < weight * 128 := by omega
      have hFits : ¬ largest < value + byte.toNat % 128 * weight := by omega
      have hWeightFits : ¬ largest < weight * 128 := by omega
      rw [readInWords, readGroups]
      simp only [hOpen, hFits, hWeightFits, if_false]
      by_cases hByte : byte.toNat < 128
      · simp [isLast, hByte, Reading.behind, Nat.mod_eq_of_lt hByte, Nat.mul_comm weight]
      · rw [ih (by omega) hNextWeight hNext]
        simp only [isLast, hByte, decide_false, Bool.false_eq_true, if_false]
        cases readGroups room bytes with
        | value n used =>
          simp only [Reading.behind, Option.some.injEq, Reading.value.injEq,
            toNat_mod_of_flagged (Nat.le_of_not_lt hByte)]
          refine ⟨?_, by omega⟩
          rw [Nat.mul_add, Nat.add_assoc, Nat.mul_comm weight (byte.toNat - 128), Nat.mul_assoc]
        | incomplete => rfl
        | malformed => rfl

theorem Reading.behind_start (reading : Reading) : reading.behind 0 0 1 = reading := by
  cases reading <;> simp [behind]

/-- What is written of a number, and what is read of octets. The shortest field is appended; up to
`maxValue` it has one to four octets, is read back from in front of anything and is missed until its
last octet has come, and above it is refused. Octets are read as a number if the first of them
without the high bit is among the first four, are refused if these all have it, and otherwise more
are waited for. No word overflows on the way that holds more than `maxValue`. -/
theorem fields_written_and_read (n : Nat) (bytes : Bytes) :
    (∀ buffer, put buffer n = buffer ++ encode n) ∧
    (IsField (encode n) ∧ sum (encode n) = n ∧
      digits (encode n) = (if n = 0 then [0] else Nat.digits 128 n) ∧
      ∀ field, IsField field → sum field = n →
        field = encode n ∨ (encode n).length < field.length) ∧
    (n ≤ maxValue → 1 ≤ (encode n).length ∧ (encode n).length ≤ 4 ∧
      (∀ rest, read (encode n ++ rest) = .value n (encode n).length) ∧
      ∀ front, front <+: encode n → front ≠ encode n → read front = .incomplete) ∧
    (maxValue < n → ∀ rest, read (encode n ++ rest) = .malformed) ∧
    (∀ value used, read bytes = .value value used ↔ 1 ≤ used ∧ used ≤ 4 ∧
      bytes.findIdx? isLast = some (used - 1) ∧ value = sum (bytes.take used)) ∧
    (∀ value used, read bytes = .value value used → value ≤ maxValue) ∧
    (read bytes = .malformed ↔ 4 ≤ bytes.length ∧ ∀ byte ∈ bytes.take 4, 128 ≤ byte.toNat) ∧
    (read bytes = .incomplete ↔ bytes.length < 4 ∧ ∀ byte ∈ bytes, 128 ≤ byte.toNat) ∧
    ∀ largest, maxValue < largest → readInWords largest 0 0 1 bytes = some (read bytes) := by
  refine ⟨fun buffer => put_eq buffer n, ?_, ?_, read_encode_of_large,
    fun value used => read_eq_value_iff, ?_, read_eq_malformed_iff, read_eq_incomplete_iff, ?_⟩
  · obtain ⟨hField, hSum⟩ := groups_iff_isField.mp (groups_encode n)
    exact ⟨hField, hSum, digits_encode n,
      fun field hOther hValue => (groups_iff_isField.mpr ⟨hOther, hValue⟩).eq_encode_or_lt⟩
  · intro h
    have hSome : 1 ≤ (encode n).length := by
      obtain ⟨front, last, hEncode, _⟩ := isField_encode n
      simp [hEncode]
    exact ⟨hSome, length_encode_le_iff.mpr h, fun rest => read_encode h rest,
      fun front => read_prefix_of_encode h⟩
  · intro value used hRead
    obtain ⟨field, rest, _, rfl, hWidth, hField⟩ := groups_of_readGroups hRead
    exact hField.le_maxValue hWidth
  · intro largest hLargest
    rw [readInWords_eq hLargest (Nat.zero_add 4) rfl Nat.one_pos, Reading.behind_start]
    rfl

end DeviceUplink.RemainingLength
