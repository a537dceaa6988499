import DeviceUplink.Text.Numeral

/-!
# Literals

Which texts denote a number, without a reader: decimal digits, in front of which a plus sign may
stand. Leading zeros count for nothing.
-/

namespace DeviceUplink.Numeral

variable {largest n value : Nat} {text digits : List Char} {c : Char}

/-- The text is a literal of `n`, which is at most `largest`. -/
structure Denotes (largest : Nat) (text : List Char) (n : Nat) : Prop where
  spelled : ∃ digits, (text = digits ∨ text = '+' :: digits) ∧ digits ≠ [] ∧
    (∀ c ∈ digits, c.isDigit = true) ∧ Nat.ofDigitChars 10 digits 0 = n
  bounded : n ≤ largest

theorem digitValue?_eq (c : Char) :
    digitValue? c = if c.isDigit = true then some (c.toNat - 48) else none := rfl

theorem digitValue?_of_isDigit (h : c.isDigit = true) : digitValue? c = some (c.toNat - 48) := by
  rw [digitValue?_eq, if_pos h]

theorem ofDigitChars_cons_eq (c : Char) (digits : List Char) (value : Nat) :
    Nat.ofDigitChars 10 (c :: digits) value =
      Nat.ofDigitChars 10 digits (value * 10 + (c.toNat - 48)) := by
  rw [Nat.ofDigitChars_cons, Nat.mul_comm]
  rfl

/-- More digits never make a number smaller. -/
theorem le_ofDigitChars (digits : List Char) (value : Nat) :
    value ≤ Nat.ofDigitChars 10 digits value := by
  induction digits generalizing value with
  | nil => simp
  | cons c digits ih =>
    rw [ofDigitChars_cons_eq]
    have hMore := ih (value * 10 + (c.toNat - 48))
    omega

theorem readDigits_eq_ok_iff (hValue : value ≤ largest) :
    readDigits largest value digits = .ok n ↔ (∀ c ∈ digits, c.isDigit = true) ∧
      Nat.ofDigitChars 10 digits value = n ∧ n ≤ largest := by
  induction digits generalizing value with
  | nil =>
    simp only [readDigits, Except.ok.injEq, List.not_mem_nil, false_implies, implies_true,
      Nat.ofDigitChars_nil, true_and]
    exact ⟨fun h => ⟨h, h ▸ hValue⟩, And.left⟩
  | cons c digits ih =>
    rw [readDigits, ofDigitChars_cons_eq, List.forall_mem_cons]
    by_cases hDigit : c.isDigit = true
    · rw [digitValue?_of_isDigit hDigit]
      dsimp only
      have hMore := le_ofDigitChars digits (value * 10 + (c.toNat - 48))
      split
      · next hLarge =>
        constructor
        · intro h
          cases h
        · rintro ⟨_, rfl, hBounded⟩
          omega
      · next hFits =>
        rw [ih (Nat.le_of_not_lt hFits)]
        simp [hDigit]
    · simp [digitValue?_eq, hDigit]

theorem parse_of_ne_plus (hSome : text ≠ []) (hPlus : text.head? ≠ some '+') :
    parse largest text = readDigits largest 0 text := by
  unfold parse
  split
  · exact absurd rfl hSome
  · exact absurd rfl hPlus
  · exact absurd rfl hPlus
  · rfl

theorem parse_plus (hSome : digits ≠ []) :
    parse largest ('+' :: digits) = readDigits largest 0 digits := by
  cases digits with
  | nil => exact absurd rfl hSome
  | cons c digits => rfl

theorem head?_ne_plus (h : ∀ c ∈ digits, c.isDigit = true) : digits.head? ≠ some '+' := by
  intro hHead
  exact absurd (h _ (List.mem_of_head? hHead)) (by decide)

/-- Exactly the literals are read. -/
theorem parse_eq_ok_iff : parse largest text = .ok n ↔ Denotes largest text n := by
  constructor
  · intro h
    by_cases hPlus : text.head? = some '+'
    · obtain ⟨digits, rfl⟩ := List.head?_eq_some_iff.mp hPlus
      have hSome : digits ≠ [] := by
        rintro rfl
        cases h
      rw [parse_plus hSome] at h
      obtain ⟨hDigits, hValue, hBounded⟩ := (readDigits_eq_ok_iff (Nat.zero_le _)).mp h
      exact ⟨⟨digits, .inr rfl, hSome, hDigits, hValue⟩, hBounded⟩
    · have hSome : text ≠ [] := by
        rintro rfl
        cases h
      rw [parse_of_ne_plus hSome hPlus] at h
      obtain ⟨hDigits, hValue, hBounded⟩ := (readDigits_eq_ok_iff (Nat.zero_le _)).mp h
      exact ⟨⟨text, .inl rfl, hSome, hDigits, hValue⟩, hBounded⟩
  · rintro ⟨⟨digits, hText, hSome, hDigits, hValue⟩, hBounded⟩
    have hRead : readDigits largest 0 digits = .ok n :=
      (readDigits_eq_ok_iff (Nat.zero_le _)).mpr ⟨hDigits, hValue, hBounded⟩
    rcases hText with rfl | rfl
    · rw [parse_of_ne_plus hSome (head?_ne_plus hDigits), hRead]
    · rw [parse_plus hSome, hRead]

/-- The shortest literal of a number. -/
theorem denotes_toDigits (h : n ≤ largest) : Denotes largest (Nat.toDigits 10 n) n where
  spelled := ⟨_, .inl rfl, Nat.toDigits_ne_nil,
    fun _ => Nat.isDigit_of_mem_toDigits (by decide) (by decide), Nat.ofDigitChars_ten_toDigits⟩
  bounded := h

theorem Denotes.not_mem (h : Denotes largest text n) (hDigit : c.isDigit = false)
    (hPlus : c ≠ '+') : c ∉ text := by
  obtain ⟨digits, hText, _, hDigits, _⟩ := h.spelled
  have hAway : c ∉ digits := by
    intro hMem
    rw [hDigits c hMem] at hDigit
    cases hDigit
  rcases hText with rfl | rfl
  · exact hAway
  · exact List.not_mem_cons_of_ne_of_not_mem hPlus hAway

end DeviceUplink.Numeral
