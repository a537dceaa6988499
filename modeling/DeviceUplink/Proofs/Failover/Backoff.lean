import Mathlib.Algebra.Order.Ring.Nat
import Mathlib.Tactic.GCongr
import DeviceUplink.Failover.Policy

/-!
# Back-off

The delay before a retry is the first delay times a power of the multiplier, as long as neither the
power nor the product leaves what can be held, and never more than the cap. Computed in words, with
each overflow treated where it occurs, it comes to the same.
-/

namespace DeviceUplink

def saturatingMul (a b : UInt32) : UInt32 :=
  if a.toNat * b.toNat < 2 ^ 32 then a * b else 4294967295

def saturatingPow (base : UInt32) : Nat → UInt32
  | 0 => 1
  | exponent + 1 => saturatingMul (saturatingPow base exponent) base

theorem toNat_saturatingMul (a b : UInt32) :
    (saturatingMul a b).toNat = min (a.toNat * b.toNat) FailoverPolicy.maxFactor := by
  unfold saturatingMul
  split
  · next hFits =>
    rw [UInt32.toNat_mul, Nat.mod_eq_of_lt hFits, Nat.min_eq_left]
    exact Nat.le_of_lt_succ hFits
  · next hLarge =>
    rw [Nat.min_eq_right]
    · rfl
    · exact Nat.le_of_succ_le (Nat.le_of_not_lt hLarge)

/-- To saturate at each step is to saturate once in the end. -/
theorem toNat_saturatingPow {base : UInt32} (hBase : 1 ≤ base.toNat) (exponent : Nat) :
    (saturatingPow base exponent).toNat =
      min (base.toNat ^ exponent) FailoverPolicy.maxFactor := by
  induction exponent with
  | zero => rfl
  | succ exponent ih =>
    rw [saturatingPow, toNat_saturatingMul, ih, pow_succ]
    rcases Nat.le_total (base.toNat ^ exponent) FailoverPolicy.maxFactor with hFits | hLarge
    · rw [Nat.min_eq_left hFits]
    · have hMore : FailoverPolicy.maxFactor ≤ FailoverPolicy.maxFactor * base.toNat :=
        Nat.le_mul_of_pos_right _ hBase
      have hPower : FailoverPolicy.maxFactor ≤ base.toNat ^ exponent * base.toNat :=
        hMore.trans (Nat.mul_le_mul_right _ hLarge)
      rw [Nat.min_eq_right hLarge, Nat.min_eq_right hMore, Nat.min_eq_right hPower]

namespace Duration

def IsHeld (d : Duration) : Prop :=
  d.nanoseconds ≤ longest.nanoseconds

theorem eq_of_nanoseconds {a b : Duration} (h : a.nanoseconds = b.nanoseconds) : a = b := by
  cases a
  cases b
  exact congrArg mk h

/-- The product in words: the nanoseconds above whole seconds are scaled apart, and what they carry
is added to the seconds, which must fit a word again. -/
def scaleWords? (d : Duration) (factor : UInt32) : Option Duration :=
  let small := d.subseconds.toUInt64 * factor.toUInt64
  let whole := d.seconds.toUInt64.toNat * factor.toNat + (small / 1000000000).toNat
  if whole < 2 ^ 64 then some (ofParts whole (small % 1000000000).toNat) else none

theorem toNat_small (d : Duration) (factor : UInt32) :
    (d.subseconds.toUInt64 * factor.toUInt64).toNat = d.subseconds * factor.toNat := by
  have hSmall : d.subseconds < 1000000000 := Nat.mod_lt _ (by decide)
  have hFactor : factor.toNat < 4294967296 := factor.toNat_lt
  have hProduct : d.subseconds * factor.toNat < 1000000000 * 4294967296 :=
    Nat.mul_lt_mul'' hSmall hFactor
  have hWord : d.subseconds.toUInt64.toNat = d.subseconds := by
    simp only [Nat.toUInt64_eq, UInt64.toNat_ofNat']
    omega
  rw [UInt64.toNat_mul, hWord, UInt32.toNat_toUInt64]
  omega

theorem toNat_seconds {d : Duration} (h : d.IsHeld) : d.seconds.toUInt64.toNat = d.seconds := by
  have hSeconds : d.seconds < 2 ^ 64 := by
    simp only [IsHeld, longest, ofParts, nanosecondsPerSecond] at h
    simp only [seconds, nanosecondsPerSecond]
    omega
  simp only [Nat.toUInt64_eq, UInt64.toNat_ofNat']
  omega

theorem scaleWords?_eq {d : Duration} (h : d.IsHeld) (factor : UInt32) :
    d.scaleWords? factor = d.scale? factor.toNat := by
  have hParts : d.nanoseconds * factor.toNat =
      d.seconds * factor.toNat * 1000000000 + d.subseconds * factor.toNat := by
    have hNanoseconds : d.nanoseconds = d.seconds * 1000000000 + d.subseconds :=
      (Nat.div_add_mod' d.nanoseconds 1000000000).symm
    rw [Nat.mul_right_comm, ← Nat.add_mul, ← hNanoseconds]
  simp only [scaleWords?, scale?, UInt64.toNat_div, UInt64.toNat_mod, toNat_seconds h, toNat_small,
    hParts]
  generalize d.seconds * factor.toNat = seconds, d.subseconds * factor.toNat = small
  have hCarried : seconds * 1000000000 + small =
      (seconds + small / 1000000000) * 1000000000 + small % 1000000000 := by
    omega
  have hFits : seconds + small / 1000000000 < 2 ^ 64 ↔
      seconds * 1000000000 + small ≤ longest.nanoseconds := by
    simp only [longest, ofParts, nanosecondsPerSecond]
    omega
  simp only [hFits, UInt64.reduceToNat, ofParts, nanosecondsPerSecond, ← hCarried]

end Duration

namespace FailoverPolicy

variable (policy : FailoverPolicy)

def base : Nat :=
  max policy.backoffMultiplier.toNat 1

def delayInWords (attempt : UInt32) : Duration :=
  let base := if policy.backoffMultiplier = 0 then 1 else policy.backoffMultiplier
  let factor := saturatingPow base (attempt.toNat - 1)
  ((policy.retryDelay.scaleWords? factor).getD policy.maxRetryDelay).min policy.maxRetryDelay

theorem cappedPow_eq {base : Nat} (hBase : 1 ≤ base) (exponent : Nat) :
    cappedPow base exponent = min (base ^ exponent) maxFactor := by
  unfold cappedPow
  split
  · next hOne =>
    obtain rfl : base = 1 := Nat.le_antisymm hOne hBase
    rw [one_pow]
    rfl
  · next hMore =>
    split
    · next hLong =>
      have hTwo : 2 ≤ base := Nat.lt_of_not_le hMore
      have hPower : 2 ^ 32 ≤ base ^ exponent :=
        calc
          2 ^ 32 ≤ 2 ^ exponent := Nat.pow_le_pow_right (by decide) hLong
          _ ≤ base ^ exponent := Nat.pow_le_pow_left hTwo exponent
      rw [Nat.min_eq_right]
      exact Nat.le_of_succ_le hPower
    · rfl

theorem one_le_base : 1 ≤ policy.base :=
  Nat.le_max_right _ _

theorem delayInWords_eq (hFirst : policy.retryDelay.IsHeld) (attempt : UInt32) :
    policy.delayInWords attempt = policy.delayFor attempt.toNat := by
  have hWord : (if policy.backoffMultiplier = 0 then 1 else policy.backoffMultiplier).toNat =
      policy.base := by
    split
    · next hZero => simp [base, hZero]
    · next hSome =>
      have hPos : policy.backoffMultiplier.toNat ≠ 0 := fun h => hSome (UInt32.toNat_inj.mp h)
      simp only [base]
      omega
  simp only [delayInWords, Duration.scaleWords?_eq hFirst]
  rw [toNat_saturatingPow (hWord ▸ policy.one_le_base), hWord,
    ← cappedPow_eq policy.one_le_base]
  simp only [delayFor, base]
  cases policy.retryDelay.scale? _ with
  | some delay => rfl
  | none => simp [Duration.min]

/-- A product that cannot be held is above the cap. -/
theorem delayFor_eq (hMost : policy.maxRetryDelay.IsHeld) (attempt : Nat) :
    (policy.delayFor attempt).nanoseconds =
      min policy.maxRetryDelay.nanoseconds
        (policy.retryDelay.nanoseconds * min (policy.base ^ (max attempt 1 - 1)) maxFactor) := by
  have hExponent : max attempt 1 - 1 = attempt - 1 := by omega
  rw [hExponent, ← cappedPow_eq policy.one_le_base]
  simp only [delayFor, Duration.scale?, base]
  split
  · next delay hScaled =>
    split at hScaled
    · cases hScaled
      exact Nat.min_comm _ _
    · cases hScaled
  · next hScaled =>
    split at hScaled
    · cases hScaled
    · next hLong => exact (Nat.min_eq_left (hMost.trans (Nat.le_of_not_le hLong))).symm

theorem delayFor_mono (hMost : policy.maxRetryDelay.IsHeld) {first later : Nat}
    (h : first ≤ later) :
    (policy.delayFor first).nanoseconds ≤ (policy.delayFor later).nanoseconds := by
  have hPower : policy.base ^ (max first 1 - 1) ≤ policy.base ^ (max later 1 - 1) :=
    Nat.pow_le_pow_right policy.one_le_base (by omega)
  rw [policy.delayFor_eq hMost, policy.delayFor_eq hMost]
  gcongr

/-- The factor that a word can hold is as good as any, if it already leads to the cap. -/
theorem min_mul_maxFactor {most delay power : Nat} (h : most ≤ delay * maxFactor) :
    min most (delay * min power maxFactor) = min most (delay * power) := by
  rcases Nat.le_total power maxFactor with hFits | hLarge
  · rw [Nat.min_eq_left hFits]
  · have hIdeal : most ≤ delay * power := h.trans (Nat.mul_le_mul_left _ hLarge)
    rw [Nat.min_eq_right hLarge, Nat.min_eq_left h, Nat.min_eq_left hIdeal]

/-- The delay before a retry, in whole nanoseconds. The power saturates in its word; a product that
a duration cannot hold is replaced by the cap. Neither shows otherwise than that the delay stays
below the ideal one, and that only if the largest factor does not reach the cap. -/
theorem delay_is_exact (policy : FailoverPolicy) (hFirst : policy.retryDelay.IsHeld)
    (hMost : policy.maxRetryDelay.IsHeld) :
    let first := policy.retryDelay.nanoseconds
    let most := policy.maxRetryDelay.nanoseconds
    let power := fun attempt => max policy.backoffMultiplier.toNat 1 ^ (max attempt 1 - 1)
    (∀ attempt, (policy.delayFor attempt).nanoseconds =
        min most (first * min (power attempt) (2 ^ 32 - 1))) ∧
      (∀ attempt : UInt32, policy.delayInWords attempt = policy.delayFor attempt.toNat) ∧
      (∀ attempt, (policy.delayFor attempt).nanoseconds ≤ most) ∧
      (∀ earlier later, earlier ≤ later →
        (policy.delayFor earlier).nanoseconds ≤ (policy.delayFor later).nanoseconds) ∧
      (most ≤ first * (2 ^ 32 - 1) → ∀ attempt,
        (policy.delayFor attempt).nanoseconds = min most (first * power attempt)) := by
  intro first most power
  have hExact := policy.delayFor_eq hMost
  refine ⟨hExact, policy.delayInWords_eq hFirst, ?_, fun _ _ => policy.delayFor_mono hMost, ?_⟩
  · intro attempt
    rw [hExact]
    exact Nat.min_le_left _ _
  · intro hReached attempt
    rw [hExact]
    exact min_mul_maxFactor hReached

/-- A delay of a second and a half that triples: the power of the twenty-first attempt just fits a
word, that of the next does not. -/
theorem delay_saturates :
    let policy : FailoverPolicy :=
      { retryDelay := .ofParts 1 500000000, backoffMultiplier := 3, maxRetryDelay := .longest }
    policy.retryDelay.IsHeld ∧ policy.maxRetryDelay.IsHeld ∧
      policy.delayFor 21 = .ofParts 5230176601 500000000 ∧
      policy.delayInWords 22 = .ofParts 6442450942 500000000 := by
  intro policy
  have hFirst : policy.retryDelay.IsHeld := by unfold Duration.IsHeld; decide
  have hMost : policy.maxRetryDelay.IsHeld := Nat.le_refl _
  obtain ⟨hExact, hWords, _⟩ := delay_is_exact policy hFirst hMost
  refine ⟨hFirst, hMost, ?_, ?_⟩
  · apply Duration.eq_of_nanoseconds
    rw [hExact]
    decide
  · have hNumber : (22 : UInt32).toNat = 22 := by decide
    apply Duration.eq_of_nanoseconds
    rw [hWords, hNumber, hExact]
    decide

end FailoverPolicy

end DeviceUplink
