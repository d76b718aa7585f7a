import ArtifactSync.Proofs.Duration
import ArtifactSync.Registry.Retry
import Mathlib.Order.Nat
import Mathlib.Order.MinMax

namespace ArtifactSync.Registry.RetryPolicy

open Duration (Words)

variable {p : RetryPolicy} {base c attempt : UInt32} {m n : Nat}

-- The power, if a word of 32 bits has room for it and all those below it.
def power? (base : UInt32) : Nat → Option UInt32
  | 0     => some 1
  | n + 1 => do
    let below ← power? base n
    if below.toNat * base.toNat < UInt32.size then some (below * base) else none

theorem toNat_power? (h : power? base n = some c) : c.toNat = base.toNat ^ n := by
  induction n generalizing c with
  | zero      =>
    cases h
    rfl
  | succ n hi =>
    simp only [power?, Option.bind_eq_bind, Option.bind_eq_some_iff] at h
    have ⟨below, hb, product⟩ := h
    split at product
    case isTrue fits =>
      cases product
      rw [Nat.pow_succ, ← hi hb, UInt32.toNat_mul]
      exact Nat.mod_eq_of_lt fits
    case isFalse     => cases product

-- Once a power is too large, so are the later ones, as the base is not zero then.
theorem size_le_of_power? (h : power? base n = none) : UInt32.size ≤ base.toNat ^ n := by
  induction n with
  | zero      => cases h
  | succ n hi =>
    rw [Nat.pow_succ]
    cases hb : power? base n with
    | none       =>
      have large := hi hb
      have positive : 0 < base.toNat := by
        refine Nat.pos_of_ne_zero fun zero => ?_
        have small : 0 ^ n ≤ 1 ^ n := Nat.pow_le_pow_left (Nat.zero_le 1) n
        rw [zero] at large
        rw [Nat.one_pow] at small
        exact absurd (Nat.le_trans large small) (by decide)
      exact Nat.le_trans large (Nat.le_mul_of_pos_right _ positive)
    | some below =>
      rw [← toNat_power? hb]
      simp only [power?, hb, Option.bind_eq_bind, Option.bind_some] at h
      split at h
      case isTrue       => cases h
      case isFalse much => exact Nat.not_lt.1 much

def saturatingPower (base : UInt32) (n : Nat) : UInt32 :=
  (power? base n).getD (.ofNat (2 ^ 32 - 1))

theorem toNat_saturatingPower :
    (saturatingPower base n).toNat = Nat.min (base.toNat ^ n) (2 ^ 32 - 1) := by
  unfold saturatingPower
  cases h : power? base n with
  | none   => exact (Nat.min_eq_right (Nat.le_trans (by decide) (size_le_of_power? h))).symm
  | some c =>
    rw [Option.getD_some, ← toNat_power? h]
    exact (Nat.min_eq_left (Nat.le_sub_one_of_lt c.toNat_lt)).symm

-- The wait as it is worked out in words, with a check of each step that could run over.
def backoffInWords (p : RetryPolicy) (attempt : UInt32) : Words :=
  ((Words.ofSpan p.minWait).saturatingMul (saturatingPower 2 attempt.toNat)).min (.ofSpan p.maxWait)

theorem span_backoffInWords : (p.backoffInWords attempt).span = p.backoff attempt.toNat := by
  have doubled : (saturatingPower 2 attempt.toNat).toNat = factor attempt.toNat := by
    rw [toNat_saturatingPower, factor_eq_min]
    rfl
  rw [backoffInWords, Words.span_min, Words.span_saturatingMul, Words.span_ofSpan,
    Words.span_ofSpan, doubled, backoff]

theorem nanos_backoff : (p.backoff n).nanos = Nat.min p.maxWait.nanos
    (Nat.min Duration.max.nanos (p.minWait.nanos * Nat.min (2 ^ n) (2 ^ 32 - 1))) := by
  rw [backoff, Duration.nanos_min, Duration.saturatingMul, Duration.nanos_ofNanosSaturating,
    factor_eq_min]
  exact (Nat.min_comm _ _).trans (congrArg _ (Nat.min_comm _ _))

theorem backoff_le_maxWait : p.backoff n ≤ p.maxWait := by
  change (p.backoff n).nanos ≤ p.maxWait.nanos
  rw [nanos_backoff]
  exact Nat.min_le_left _ _

theorem backoff_mono (h : m ≤ n) : p.backoff m ≤ p.backoff n := by
  have power : 2 ^ m ≤ 2 ^ n := Nat.pow_le_pow_right (by decide) h
  have factor : Nat.min (2 ^ m) (2 ^ 32 - 1) ≤ Nat.min (2 ^ n) (2 ^ 32 - 1) :=
    min_le_min power le_rfl
  have product := Nat.mul_le_mul_left p.minWait.nanos factor
  change (p.backoff m).nanos ≤ (p.backoff n).nanos
  rw [nanos_backoff, nanos_backoff]
  exact min_le_min le_rfl (min_le_min le_rfl product)

-- The longest span there is cuts nothing off that the policy would have allowed.
theorem nanos_backoff_allowed : (p.backoff n).nanos =
    Nat.min p.maxWait.nanos (p.minWait.nanos * Nat.min (2 ^ n) (2 ^ 32 - 1)) := by
  have allowed : Nat.min p.maxWait.nanos Duration.max.nanos = p.maxWait.nanos :=
    Nat.min_eq_left (Duration.nanos_le_max _)
  rw [nanos_backoff]
  refine (Nat.min_assoc _ _ _).symm.trans ?_
  exact congrArg (Nat.min · _) allowed

-- Nor does the word, if it has room for the power, or all its room is enough for the longest wait.
theorem nanos_backoff_ideal (h : n ≤ 31 ∨ p.maxWait.nanos ≤ p.minWait.nanos * (2 ^ 32 - 1)) :
    (p.backoff n).nanos = Nat.min p.maxWait.nanos (p.minWait.nanos * 2 ^ n) := by
  rw [nanos_backoff_allowed]
  by_cases short : n ≤ 31
  case pos =>
    have power : 2 ^ n ≤ 2 ^ 31 := Nat.pow_le_pow_right (by decide) short
    have room : Nat.min (2 ^ n) (2 ^ 32 - 1) = 2 ^ n := Nat.min_eq_left (by omega)
    rw [room]
  case neg =>
    have power : 2 ^ 32 ≤ 2 ^ n := Nat.pow_le_pow_right (by decide) (by omega)
    have full : Nat.min (2 ^ n) (2 ^ 32 - 1) = 2 ^ 32 - 1 := Nat.min_eq_right (by omega)
    have reached := h.resolve_left short
    have longer : p.minWait.nanos * (2 ^ 32 - 1) ≤ p.minWait.nanos * 2 ^ n :=
      Nat.mul_le_mul_left _ (by omega)
    rw [full]
    calc
      Nat.min p.maxWait.nanos (p.minWait.nanos * (2 ^ 32 - 1)) = p.maxWait.nanos :=
        Nat.min_eq_left reached
      _ = Nat.min p.maxWait.nanos (p.minWait.nanos * 2 ^ n) :=
        (Nat.min_eq_left (Nat.le_trans reached longer)).symm

theorem backoff_lawful (p : RetryPolicy) :
    (∀ n, (p.backoff n).nanos = Nat.min p.maxWait.nanos
      (Nat.min Duration.max.nanos (p.minWait.nanos * Nat.min (2 ^ n) (2 ^ 32 - 1)))) ∧
    (∀ attempt : UInt32, (p.backoffInWords attempt).span = p.backoff attempt.toNat) ∧
    (∀ n, p.backoff n ≤ p.maxWait) ∧
    (∀ m n, m ≤ n → p.backoff m ≤ p.backoff n) ∧
    ∀ n, n ≤ 31 ∨ p.maxWait.nanos ≤ p.minWait.nanos * (2 ^ 32 - 1) →
      (p.backoff n).nanos = Nat.min p.maxWait.nanos (p.minWait.nanos * 2 ^ n) :=
  ⟨fun _ => nanos_backoff, fun _ => span_backoffInWords, fun _ => backoff_le_maxWait,
    fun _ _ => backoff_mono, fun _ => nanos_backoff_ideal⟩

-- The first wait is too long for a span once it is doubled.
namespace Steep

def policy : RetryPolicy :=
  ⟨40, .ofSeconds (2 ^ 63), .max, by decide⟩

end Steep

open Steep in
theorem backoff_lawful_sample :
    policy.backoff 0 ≤ policy.backoff 1 ∧
    (policy.backoff 1).nanos = Duration.max.nanos ∧
    (policy.backoff 40).nanos = Duration.max.nanos := by
  have ⟨_, _, _, mono, ideal⟩ := backoff_lawful policy
  have reached : policy.maxWait.nanos ≤ policy.minWait.nanos * (2 ^ 32 - 1) := by decide +kernel
  refine ⟨mono 0 1 (by decide), (ideal 1 (.inl (by decide))).trans ?_,
    (ideal 40 (.inr reached)).trans ?_⟩
  all_goals decide +kernel

end ArtifactSync.Registry.RetryPolicy
