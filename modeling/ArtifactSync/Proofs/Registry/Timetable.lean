import ArtifactSync.Proofs.Timed
import ArtifactSync.Registry.Retry

namespace ArtifactSync.Registry.RetryPolicy

open Timed (IsExact beginnings call called rested sleep waited)

variable {m : Type → Type} {ε α : Type} {p : RetryPolicy} {isTransient : ε → Bool}
  {pause : Duration → m Unit} {operation : m (Except ε α)} {outcomes : Nat → Except ε α}
  {attempt : UInt32} {start k k' n budget : Nat}

-- An outcome after which there is nothing to try again.
def isFinal (isTransient : ε → Bool) : Except ε α → Bool
  | .ok _    => true
  | .error e => !isTransient e

-- The last attempt is the first one with a final outcome, or the last one that is allowed.
structure IsLast (p : RetryPolicy) (isTransient : ε → Bool) (outcomes : Nat → Except ε α)
    (k : Nat) : Prop where
  allowed : k ≤ p.maxRetries
  before  : ∀ j < k, isFinal isTransient (outcomes j) = false
  settled : k < p.maxRetries → isFinal isTransient (outcomes k) = true

namespace IsLast

theorem not_lt (last : p.IsLast isTransient outcomes k)
    (last' : p.IsLast isTransient outcomes k') : ¬k < k' := by
  intro earlier
  have settled := last.settled (Nat.lt_of_lt_of_le earlier last'.allowed)
  rw [last'.before k earlier] at settled
  cases settled

theorem unique (last : p.IsLast isTransient outcomes k)
    (last' : p.IsLast isTransient outcomes k') : k' = k :=
  Nat.le_antisymm (Nat.not_lt.1 (last.not_lt last')) (Nat.not_lt.1 (last'.not_lt last))

theorem exists_of_before (all : n + budget = p.maxRetries)
    (before : ∀ j < n, isFinal isTransient (outcomes j) = false) :
    ∃ k, p.IsLast isTransient outcomes k := by
  induction budget generalizing n with
  | zero           => exact ⟨n, by omega, before, by omega⟩
  | succ budget hi =>
    cases here : isFinal isTransient (outcomes n) with
    | true  => exact ⟨n, by omega, before, fun _ => here⟩
    | false =>
      apply hi (n := n + 1) (by omega)
      intro j hj
      cases Nat.lt_succ_iff_lt_or_eq.1 hj with
      | inl earlier => exact before j earlier
      | inr same    => exact same ▸ here

end IsLast

theorem exists_isLast : ∃ k, p.IsLast isTransient outcomes k :=
  IsLast.exists_of_before (Nat.zero_add _) nofun

-- What is left to do when so many attempts have failed in passing.
def afterFailures [Monad m] (p : RetryPolicy) (isTransient : ε → Bool) (pause : Duration → m Unit)
    (operation : m (Except ε α)) (n : Nat) : m (Except ε α) :=
  p.attemptFrom isTransient pause operation (p.maxRetries - n) n

-- One round: an attempt, and if it has failed in passing and another one is allowed, a pause.
theorem afterFailures_eq [Monad m] [LawfulMonad m] :
    p.afterFailures isTransient pause operation n = (do
      let x ← operation
      if n < p.maxRetries ∧ isFinal isTransient x = false then
        pause (p.backoff n)
        p.afterFailures isTransient pause operation (n + 1)
      else return x) := by
  by_cases more : n < p.maxRetries
  case pos =>
    have budget : p.maxRetries - n = p.maxRetries - (n + 1) + 1 := by omega
    rw [afterFailures, budget, attemptFrom]
    refine congrArg (operation >>= ·) (funext fun x => ?_)
    cases x with
    | ok a    => simp [isFinal]
    | error e => cases passing : isTransient e <;> simp [isFinal, passing, more, afterFailures]
  case neg =>
    have budget : p.maxRetries - n = 0 := by omega
    simp [afterFailures, budget, attemptFrom, more]

-- As long as there is a next number, that is what counting on gives.
theorem toNat_add_one (more : attempt.toNat + 1 < UInt32.size) :
    (attempt + 1).toNat = attempt.toNat + 1 := by
  rw [UInt32.toNat_add]
  exact Nat.mod_eq_of_lt more

-- The same loop with its attempts counted in a word of 32 bits. Where the word has no next number,
-- the loop breaks off.
def counted [Monad m] (p : RetryPolicy) (isTransient : ε → Bool) (pause : Duration → m Unit)
    (operation : m (Except ε α)) (attempt : UInt32) : m (Option (Except ε α)) := do
  let x ← operation
  if attempt.toNat < p.maxRetries ∧ isFinal isTransient x = false then
    pause (p.backoff attempt.toNat)
    if more : attempt.toNat + 1 < UInt32.size then
      counted p isTransient pause operation (attempt + 1)
    else return none
  else return some x
termination_by UInt32.size - attempt.toNat
decreasing_by
  rw [toNat_add_one more]
  omega

-- The word always has a next number when it is asked for one.
theorem counted_eq [Monad m] [LawfulMonad m] (within : attempt.toNat ≤ p.maxRetries) :
    p.counted isTransient pause operation attempt =
      some <$> p.afterFailures isTransient pause operation attempt.toNat := by
  induction hb : p.maxRetries - attempt.toNat generalizing attempt with
  | zero           =>
    have spent : ¬attempt.toNat < p.maxRetries := by omega
    rw [counted, afterFailures_eq]
    simp [spent]
  | succ budget hi =>
    have more : attempt.toNat + 1 < UInt32.size :=
      Nat.lt_of_le_of_lt (by omega : attempt.toNat + 1 ≤ p.maxRetries) p.maxRetries_lt
    have next := toNat_add_one more
    have rest := @hi (attempt + 1) (by omega) (by omega)
    rw [counted, afterFailures_eq, map_bind]
    refine congrArg (operation >>= ·) (funext fun x => ?_)
    split
    case isTrue  => rw [rest, next, map_bind]
    case isFalse => rw [map_pure]

-- Every attempt before the last one is followed by the next one, after its wait.
theorem afterFailures_rested {pause : Duration → Timed Unit} (exact : IsExact pause)
    (last : p.IsLast isTransient outcomes k) (within : n ≤ k) :
    p.afterFailures isTransient pause (call outcomes) n (rested p.backoff start n) =
      (outcomes k, called p.backoff start k) := by
  induction hb : k - n generalizing n with
  | zero           =>
    cases Nat.le_antisymm within (Nat.sub_eq_zero_iff_le.1 hb)
    have done : ¬(k < p.maxRetries ∧ isFinal isTransient (outcomes k) = false) := by
      intro ⟨more, passing⟩
      rw [last.settled more] at passing
      cases passing
    rw [afterFailures_eq]
    simp [done]
  | succ budget hi =>
    have earlier : n < k := by omega
    have more : n < p.maxRetries ∧ isFinal isTransient (outcomes n) = false :=
      ⟨Nat.lt_of_lt_of_le earlier last.allowed, last.before n earlier⟩
    have rest := hi earlier (by omega)
    rw [afterFailures_eq]
    simp [more, exact.called, rest]

-- Whatever the outcomes are, there is exactly one call that is the last one.
theorem run_timetable (p : RetryPolicy) (isTransient : ε → Bool) {pause : Duration → Timed Unit}
    (exact : IsExact pause) :
    (∀ (outcomes : Nat → Except ε α) (start : Nat),
      ∃ k, p.IsLast isTransient outcomes k ∧
        (∀ k', p.IsLast isTransient outcomes k' → k' = k) ∧
        p.run isTransient pause (call outcomes) ⟨start, []⟩ =
          (outcomes k, ⟨start + waited p.backoff k, beginnings p.backoff start (k + 1)⟩)) ∧
    ∀ {m : Type → Type} [Monad m] [LawfulMonad m] (pause : Duration → m Unit)
      (operation : m (Except ε α)),
      p.counted isTransient pause operation 0 = some <$> p.run isTransient pause operation := by
  constructor
  case left  =>
    intro outcomes start
    have ⟨k, last⟩ : ∃ k, p.IsLast isTransient outcomes k := exists_isLast
    exact ⟨k, last, fun _ => last.unique, afterFailures_rested exact last (Nat.zero_le k)⟩
  case right => exact fun pause operation => counted_eq (Nat.zero_le _)

-- A policy that allows as many attempts as the word can count, and an operation that fails twice.
namespace Patient

def policy : RetryPolicy := ⟨2 ^ 32 - 1, .ofMillis 10, .ofMillis 15, by decide⟩

def results : Nat → Except Bool Nat
  | 0 | 1 => .error true
  | k     => .ok k

theorem isLast : policy.IsLast id results 2 := by
  constructor
  case allowed => decide
  case before  =>
    intro j hj
    have : j = 0 ∨ j = 1 := by omega
    rcases this with rfl | rfl <;> rfl
  case settled => exact fun _ => rfl

end Patient

open Patient in
theorem run_timetable_sample :
    policy.run id sleep (call results) ⟨0, []⟩ =
      (.ok 2, ⟨25000000, [0, 10000000, 25000000]⟩) ∧
    policy.counted id sleep (call results) 0 ⟨0, []⟩ =
      (some (.ok 2), ⟨25000000, [0, 10000000, 25000000]⟩) := by
  have ⟨ends, counts⟩ := run_timetable (ε := Bool) (α := Nat) policy id Timed.isExact_sleep
  have ⟨k, _, unique, ran⟩ := ends results 0
  cases unique 2 isLast
  rw [counts, map_eq_pure_bind, Timed.bind_eq, ran]
  exact ⟨rfl, rfl⟩

end ArtifactSync.Registry.RetryPolicy
