import Mathlib.Data.Nat.Digits.Defs
import DeviceUplink.Proofs.Frame.RoundTrip

/-!
# The length field

Which octets a length field consists of, without a reader: a numeral in base 128, the least
significant digit first. A reader is settled by where the first octet without the high bit stands.
A number has one shortest field and, with groups of zeros behind it, one for each greater length.
-/

namespace DeviceUplink.RemainingLength

/-- The octets express the number: groups of seven bits, all of them flagged but the last. -/
inductive Groups : Nat → Bytes → Prop
  | last {byte : UInt8} (h : byte.toNat < 128) : Groups byte.toNat [byte]
  | more {byte : UInt8} {n : Nat} {field : Bytes} (h : 128 ≤ byte.toNat) (hField : Groups n field) :
      Groups (byte.toNat - 128 + 128 * n) (byte :: field)

def digits (octets : Bytes) : List Nat :=
  octets.map fun byte => byte.toNat % 128

def sum (octets : Bytes) : Nat :=
  Nat.ofDigits 128 (digits octets)

def isLast (byte : UInt8) : Bool :=
  byte.toNat < 128

def IsField (field : Bytes) : Prop :=
  ∃ front last, field = front ++ [last] ∧ (∀ byte ∈ front, 128 ≤ byte.toNat) ∧ last.toNat < 128

variable {n room used i : Nat} {byte : UInt8} {field bytes : Bytes}

theorem sum_cons (byte : UInt8) (octets : Bytes) :
    sum (byte :: octets) = byte.toNat % 128 + 128 * sum octets := by
  simp [sum, digits, Nat.ofDigits_cons]

theorem toNat_mod_of_flagged (h : 128 ≤ byte.toNat) : byte.toNat % 128 = byte.toNat - 128 := by
  have hBound := byte.toNat_lt
  omega

/-- The octets express a number if they are a field with this sum. -/
theorem groups_iff_isField : Groups n field ↔ IsField field ∧ sum field = n := by
  constructor
  · intro h
    induction h with
    | @last byte hByte =>
      refine ⟨⟨[], byte, rfl, List.forall_mem_nil _, hByte⟩, ?_⟩
      rw [sum_cons, Nat.mod_eq_of_lt hByte]
      rfl
    | @more byte n field hByte _ ih =>
      obtain ⟨⟨front, last, rfl, hFront, hLast⟩, hSum⟩ := ih
      refine ⟨⟨byte :: front, last, rfl, List.forall_mem_cons.mpr ⟨hByte, hFront⟩, hLast⟩, ?_⟩
      rw [sum_cons, toNat_mod_of_flagged hByte, hSum]
  · rintro ⟨⟨front, last, rfl, hFront, hLast⟩, rfl⟩
    induction front with
    | nil =>
      have hField := Groups.last hLast
      rwa [List.nil_append, sum_cons, Nat.mod_eq_of_lt hLast]
    | cons byte front ih =>
      obtain ⟨hByte, hFront⟩ := List.forall_mem_cons.mp hFront
      rw [List.cons_append, sum_cons, toNat_mod_of_flagged hByte]
      exact .more hByte (ih hFront)

/-- A reader is settled by where the first octet without the high bit stands. -/
theorem readGroups_eq (room : Nat) (bytes : Bytes) :
    readGroups room bytes =
      match bytes.findIdx? isLast with
      | some i => if i < room then .value (sum (bytes.take (i + 1))) (i + 1) else .malformed
      | none => if bytes.length < room then .incomplete else .malformed := by
  induction bytes generalizing room with
  | nil =>
    cases room with
    | zero => rfl
    | succ room => rfl
  | cons byte bytes ih =>
    cases room with
    | zero => cases (byte :: bytes).findIdx? isLast <;> simp [readGroups]
    | succ room =>
      rw [readGroups, List.findIdx?_cons]
      by_cases hByte : byte.toNat < 128
      · have hLast : isLast byte = true := decide_eq_true hByte
        simp [hByte, hLast, sum, digits, Nat.mod_eq_of_lt hByte]
      · have hLast : isLast byte = false := decide_eq_false hByte
        rw [if_neg hByte, ih]
        simp only [hLast]
        cases bytes.findIdx? isLast with
        | none =>
          simp only [Option.map_none, List.length_cons, Nat.add_lt_add_iff_right]
          by_cases hRoom : bytes.length < room <;> simp [hRoom]
        | some i =>
          have hDigit := toNat_mod_of_flagged (Nat.le_of_not_lt hByte)
          simp only [Option.map_some]
          by_cases hRoom : i < room <;> simp [hRoom, sum_cons, hDigit]

theorem readGroups_of_first (h : bytes.findIdx? isLast = some i) (room : Nat) :
    readGroups room bytes =
      if i < room then .value (sum (bytes.take (i + 1))) (i + 1) else .malformed := by
  rw [readGroups_eq, h]

theorem readGroups_of_flagged (h : bytes.findIdx? isLast = none) (room : Nat) :
    readGroups room bytes = if bytes.length < room then .incomplete else .malformed := by
  rw [readGroups_eq, h]

theorem readGroups_of_groups (h : Groups n field) (hRoom : field.length ≤ room) (rest : Bytes) :
    readGroups room (field ++ rest) = .value n field.length := by
  induction h generalizing room with
  | last hByte =>
    obtain ⟨room, rfl⟩ := Nat.exists_eq_succ_of_ne_zero (Nat.ne_zero_of_lt hRoom)
    simp [readGroups, hByte]
  | more hByte _ ih =>
    obtain ⟨room, rfl⟩ := Nat.exists_eq_succ_of_ne_zero (Nat.ne_zero_of_lt hRoom)
    have hRest := ih (Nat.le_of_succ_le_succ hRoom)
    simp only [List.cons_append, readGroups, Nat.not_lt.mpr hByte, if_false, hRest,
      List.length_cons]

theorem flagged_of_first (h : bytes.findIdx? isLast = some i) :
    ∀ byte ∈ bytes.take i, 128 ≤ byte.toNat := by
  obtain ⟨_, _, hBefore⟩ := List.findIdx?_eq_some_iff_getElem.mp h
  intro byte hByte
  obtain ⟨j, hj, rfl⟩ := List.mem_take_iff_getElem.mp hByte
  simpa [isLast] using hBefore j (by omega)

/-- The first octet without the high bit ends a field. -/
theorem isField_take (h : bytes.findIdx? isLast = some i) :
    i < bytes.length ∧ IsField (bytes.take (i + 1)) := by
  obtain ⟨hBound, hLast, _⟩ := List.findIdx?_eq_some_iff_getElem.mp h
  exact ⟨hBound, bytes.take i, bytes[i], List.take_succ_eq_append_getElem hBound,
    flagged_of_first h, by simpa [isLast] using hLast⟩

theorem groups_of_readGroups (h : readGroups room bytes = .value n used) :
    ∃ field rest, bytes = field ++ rest ∧ field.length = used ∧ used ≤ room ∧ Groups n field := by
  cases hFirst : bytes.findIdx? isLast with
  | none =>
    rw [readGroups_of_flagged hFirst] at h
    split at h <;> cases h
  | some i =>
    obtain ⟨hBound, hField⟩ := isField_take hFirst
    rw [readGroups_of_first hFirst] at h
    split at h
    · next hRoom =>
      cases h
      exact ⟨bytes.take (i + 1), bytes.drop (i + 1), (List.take_append_drop _ _).symm,
        List.length_take_of_le hBound, hRoom, groups_iff_isField.mpr ⟨hField, rfl⟩⟩
    · cases h

theorem findIdx?_eq_none_iff :
    bytes.findIdx? isLast = none ↔ ∀ byte ∈ bytes, 128 ≤ byte.toNat := by
  simp [List.findIdx?_eq_none_iff, isLast]

theorem flagged_take_of_malformed (h : readGroups room bytes = .malformed) :
    room ≤ bytes.length ∧ ∀ byte ∈ bytes.take room, 128 ≤ byte.toNat := by
  cases hFirst : bytes.findIdx? isLast with
  | none =>
    have hFlagged := findIdx?_eq_none_iff.mp hFirst
    rw [readGroups_of_flagged hFirst] at h
    split at h
    · cases h
    · next hRoom =>
      exact ⟨Nat.le_of_not_lt hRoom, fun byte hByte => hFlagged byte (List.mem_of_mem_take hByte)⟩
  | some i =>
    have hBound := (isField_take hFirst).1
    rw [readGroups_of_first hFirst] at h
    split at h
    · cases h
    · next hRoom =>
      have hFront := List.take_subset_take_left bytes (Nat.le_of_not_lt hRoom)
      exact ⟨by omega, fun byte hByte => flagged_of_first hFirst byte (hFront hByte)⟩

theorem readGroups_eq_malformed_iff :
    readGroups room bytes = .malformed ↔ ∃ field rest, bytes = field ++ rest ∧
      field.length = room ∧ ∀ byte ∈ field, 128 ≤ byte.toNat := by
  constructor
  · intro h
    obtain ⟨hRoom, hFlagged⟩ := flagged_take_of_malformed h
    exact ⟨bytes.take room, bytes.drop room, (List.take_append_drop _ _).symm,
      List.length_take_of_le hRoom, hFlagged⟩
  · rintro ⟨field, rest, rfl, rfl, hFlagged⟩
    rw [readGroups_eq, List.findIdx?_append, findIdx?_eq_none_iff.mpr hFlagged, Option.none_or]
    cases rest.findIdx? isLast with
    | none => simp
    | some i => simp

theorem Groups.lt_pow (h : Groups n field) : n < Nat.pow 128 field.length := by
  induction h with
  | last hByte => exact hByte
  | @more byte n field hByte _ ih =>
    have hBound := byte.toNat_lt
    have hPow : Nat.pow 128 (byte :: field).length = Nat.pow 128 field.length * 128 := rfl
    omega

/-- A field that is still open has fewer octets than there is room for. -/
theorem length_lt_of_readGroups (h : readGroups room bytes = .incomplete) :
    bytes.length < room := by
  cases hFirst : bytes.findIdx? isLast with
  | none =>
    rw [readGroups_of_flagged hFirst] at h
    split at h
    · next hRoom => exact hRoom
    · cases h
  | some i =>
    rw [readGroups_of_first hFirst] at h
    split at h <;> cases h

/-- A last group and, behind it, `zeros` groups that add nothing to the number. -/
def closing : (zeros : Nat) → (n : Nat) → Bytes
  | 0, n => [n.toUInt8]
  | zeros + 1, n => (n + 128).toUInt8 :: closing zeros 0

/-- The field of `n` that is `zeros` octets longer than it need be. -/
def padded (zeros n : Nat) : Bytes :=
  if n < 128 then closing zeros n else (n % 128 + 128).toUInt8 :: padded zeros (n / 128)
termination_by n

theorem padded_zero (n : Nat) : padded 0 n = encode n := by
  fun_induction encode n with
  | case1 n hSmall => rw [padded, if_pos hSmall, closing]
  | case2 n hLarge ih => rw [padded, if_neg hLarge, ih]

theorem length_closing (zeros n : Nat) : (closing zeros n).length = zeros + 1 := by
  induction zeros generalizing n with
  | zero => rfl
  | succ zeros ih => rw [closing, List.length_cons, ih]

theorem length_padded (zeros n : Nat) : (padded zeros n).length = (encode n).length + zeros := by
  fun_induction encode n with
  | case1 n hSmall =>
    rw [padded, if_pos hSmall, length_closing, List.length_singleton, Nat.add_comm]
  | case2 n hLarge ih =>
    rw [padded, if_neg hLarge, List.length_cons, List.length_cons, ih]
    omega

theorem groups_closing (zeros : Nat) (h : n < 128) : Groups n (closing zeros n) := by
  induction zeros generalizing n with
  | zero =>
    have hByte : n.toUInt8.toNat = n := toNat_toUInt8_of_lt (by omega)
    have hLast : Groups n.toUInt8.toNat [n.toUInt8] := .last (by omega)
    rwa [hByte] at hLast
  | succ zeros ih =>
    have hByte : (n + 128).toUInt8.toNat = n + 128 := toNat_toUInt8_of_lt (by omega)
    have hMore : Groups ((n + 128).toUInt8.toNat - 128 + 128 * 0)
        ((n + 128).toUInt8 :: closing zeros 0) := .more (by omega) (ih (by decide))
    have hValue : n + 128 - 128 + 128 * 0 = n := by omega
    rwa [hByte, hValue] at hMore

theorem groups_padded (zeros n : Nat) : Groups n (padded zeros n) := by
  fun_induction encode n with
  | case1 n hSmall =>
    rw [padded, if_pos hSmall]
    exact groups_closing zeros hSmall
  | case2 n hLarge ih =>
    have hByte : (n % 128 + 128).toUInt8.toNat = n % 128 + 128 := toNat_toUInt8_of_lt (by omega)
    have hMore : Groups ((n % 128 + 128).toUInt8.toNat - 128 + 128 * (n / 128))
        ((n % 128 + 128).toUInt8 :: padded zeros (n / 128)) := .more (by omega) ih
    have hValue : n % 128 + 128 - 128 + 128 * (n / 128) = n := by omega
    rw [hByte, hValue] at hMore
    rwa [padded, if_neg hLarge]

/-- One more octet in front of a field, by whether the field behind it says anything. -/
theorem padded_more {byte : UInt8} (h : 128 ≤ byte.toNat) (zeros n : Nat) :
    ∃ more, byte :: padded zeros n = padded more (byte.toNat - 128 + 128 * n) := by
  have hBound := byte.toNat_lt
  have hByte : (byte.toNat - 128 + 128).toUInt8 = byte := by
    rw [Nat.sub_add_cancel h]
    exact UInt8.ofNat_toNat
  rcases Nat.eq_zero_or_pos n with rfl | hPos
  · refine ⟨zeros + 1, ?_⟩
    rw [padded, if_pos (by decide), padded, if_pos (by omega), Nat.mul_zero, Nat.add_zero, closing,
      hByte]
  · refine ⟨zeros, ?_⟩
    have hMod : (byte.toNat - 128 + 128 * n) % 128 = byte.toNat - 128 := by omega
    have hDiv : (byte.toNat - 128 + 128 * n) / 128 = n := by omega
    rw [padded.eq_def zeros (byte.toNat - 128 + 128 * n), if_neg (by omega), hMod, hDiv, hByte]

theorem groups_iff : Groups n field ↔ ∃ zeros, field = padded zeros n := by
  constructor
  · intro h
    induction h with
    | @last byte hByte =>
      refine ⟨0, ?_⟩
      rw [padded, if_pos hByte, closing]
      exact congrArg (· :: []) UInt8.ofNat_toNat.symm
    | more hByte _ ih =>
      obtain ⟨zeros, rfl⟩ := ih
      exact padded_more hByte zeros _
  · rintro ⟨zeros, rfl⟩
    exact groups_padded zeros n

end DeviceUplink.RemainingLength
