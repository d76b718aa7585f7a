import ArtifactSync.Duration

namespace ArtifactSync.Registry

structure RetryPolicy where
  maxRetries : Nat := 5
  minWait : Duration := .ofMillis 200
  maxWait : Duration := .ofMillis 3000
  maxRetries_lt : maxRetries < 2 ^ 32 := by decide
  deriving DecidableEq, Repr

namespace RetryPolicy

-- Doubles with every attempt, as far as a word of 32 bits goes.
def factor (attempt : Nat) : Nat :=
  if attempt < 32 then 2 ^ attempt else 2 ^ 32 - 1

-- The wait before retry number `attempt`, counted from zero.
def backoff (p : RetryPolicy) (attempt : Nat) : Duration :=
  .min (p.minWait.saturatingMul (factor attempt)) p.maxWait

variable {m : Type → Type} {ε α : Type}

-- Attempt number `attempt`, with `budget` more to come where it fails in passing.
def attemptFrom [Monad m] (p : RetryPolicy) (isTransient : ε → Bool) (pause : Duration → m Unit)
    (operation : m (Except ε α)) : (budget attempt : Nat) → m (Except ε α)
  | 0, _ => operation
  | budget + 1, attempt => do
    match ← operation with
    | .ok a => return .ok a
    | .error e =>
      if isTransient e then
        pause (p.backoff attempt)
        attemptFrom p isTransient pause operation budget (attempt + 1)
      else return .error e

-- Until the operation succeeds, fails for good, or has been retried often enough.
def run [Monad m] (p : RetryPolicy) (isTransient : ε → Bool) (pause : Duration → m Unit)
    (operation : m (Except ε α)) : m (Except ε α) :=
  p.attemptFrom isTransient pause operation p.maxRetries 0

theorem factor_eq_min (attempt : Nat) : factor attempt = Nat.min (2 ^ attempt) (2 ^ 32 - 1) := by
  rw [factor]
  split
  · next h =>
    have : 2 ^ attempt ≤ 2 ^ 31 := Nat.pow_le_pow_right (by decide) (by omega)
    exact (Nat.min_eq_left (by omega)).symm
  · next h =>
    have : 2 ^ 32 ≤ 2 ^ attempt := Nat.pow_le_pow_right (by decide) (by omega)
    exact (Nat.min_eq_right (by omega)).symm

end RetryPolicy

end ArtifactSync.Registry
