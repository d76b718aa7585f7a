import ArtifactSync.Proofs.Registry.Attempt
import ArtifactSync.Proofs.Registry.Timetable

namespace ArtifactSync.Registry

open Interaction (Turn)
open Program

namespace Source

variable {α : Type} {s : Source} {op : Program (Except Failure α)} {n : Nat} {f : Failure}
  {k k₁ k₂ k' : Option KeptToken} {t t' : List (Turn Answer)} {x : Except Failure α}

-- So many attempts have failed in passing, and each has been paused after.
inductive Tried (s : Source) (op : Program (Except Failure α)) :
    Nat → Option KeptToken → List (Turn Answer) → Option KeptToken → Prop
  | none {k : Option KeptToken} : Tried s op 0 k [] k
  | again {n : Nat} {k k₁ k₂ : Option KeptToken} {t t' : List (Turn Answer)} {f : Failure} :
    Tried s op n k t k₁ → Gives op k₁ t' (.error f) k₂ → f.isTransient →
    Tried s op (n + 1) k
      (t ++ (t' ++ [⟨.pause (s.client.options.retry.backoff n) s.deadline, some ()⟩])) k₂

-- What is left to do when so many attempts have failed in passing.
def attempts (s : Source) (op : Program (Except Failure α)) (n : Nat) :
    Program (Except Failure α) :=
  s.client.options.retry.attemptFrom Failure.isTransient (Program.pause s) op
    (s.client.options.retry.maxRetries - n) n

-- What is left begins with a pause and another attempt.
def Repeats (s : Source) (op : Program (Except Failure α)) (k : Option KeptToken)
    (p : Exchange (Option (Except Failure α) × Option KeptToken)) : Prop :=
  ∃ wait next go, p = .ask (.pause wait s.deadline) next ∧
    next (some ()) = ((op >>= go : Program (Except Failure α)).run.run k)

-- What comes after an attempt that ended so.
def afterAttempt (s : Source) (op : Program (Except Failure α)) (n : Nat) :
    Except Failure α → Program (Except Failure α)
  | .ok a    => return .ok a
  | .error f =>
    if n < s.client.options.retry.maxRetries ∧ f.isTransient then do
      Program.pause s (s.client.options.retry.backoff n)
      s.attempts op (n + 1)
    else return .error f

theorem attempts_eq : s.attempts op n = op >>= s.afterAttempt op n := by
  refine RetryPolicy.afterFailures_eq.trans (congrArg (op >>= ·) (funext fun x => ?_))
  cases x with
  | ok _    => simp only [RetryPolicy.isFinal, afterAttempt, Bool.true_eq_false, and_false, if_false]
  | error _ =>
    simp only [RetryPolicy.isFinal, afterAttempt, Bool.not_eq_eq_eq_not, Bool.not_false]
    rfl

theorem attempts_reaches (given : Gives op k t x k') :
    ((s.attempts op n).run.run k).Reaches t ((s.afterAttempt op n x).run.run k') :=
  attempts_eq ▸ given.reaches_bind

theorem Tried.reaches (tried : Tried s op n k t k₁)
    (within : n ≤ s.client.options.retry.maxRetries) :
    ((s.persistently op).run.run k).Reaches t ((s.attempts op n).run.run k₁) := by
  induction tried with
  | none => exact .refl
  | @again n _ _ _ _ _ f tried fails transient hi =>
    have before := hi (by omega)
    have failed := attempts_reaches (s := s) (n := n) fails
    rw [afterAttempt, if_pos ⟨by omega, transient⟩] at failed
    exact before.trans (failed.trans (.step .refl))

theorem gives_attempts (tried : Tried s op n k t k₁)
    (within : n ≤ s.client.options.retry.maxRetries) (h : Gives (s.attempts op n) k₁ t' x k') :
    ∃ m t₁ t₂ k₂, m ≤ s.client.options.retry.maxRetries ∧ t ++ t' = t₁ ++ t₂ ∧
      Tried s op m k t₁ k₂ ∧ Gives op k₂ t₂ x k' ∧
      ∀ f, x = .error f → f.isTransient → m = s.client.options.retry.maxRetries := by
  induction hb : s.client.options.retry.maxRetries - n using Nat.strongRecOn
    generalizing n t k₁ t' with
  | ind budget hi =>
    rw [attempts_eq] at h
    have ⟨t₁, t₂, y, k₂, ht, first, go⟩ := gives_bind h
    cases y with
    | ok a    =>
      have ⟨hx, done, hk⟩ := gives_pure go
      rw [done, List.append_nil] at ht
      subst hx hk
      exact ⟨n, t, t', k₁, within, rfl, tried, ht ▸ first, by simp⟩
    | error f =>
      dsimp only [afterAttempt] at go
      split at go
      case isTrue more =>
        have ⟨t₃, t₄, _, k₃, ht₂, paused, again⟩ := gives_bind go
        have ⟨ht₃, hk⟩ := gives_pause paused
        subst hk
        have ⟨m, t₅, t₆, k₄, hm, ht₄, tried, last, final⟩ :=
          hi _ (by omega) (tried.again first more.2) more.1 again rfl
        refine ⟨m, t₅, t₆, k₄, hm, ?_, tried, last, final⟩
        rw [← ht₄, ht, ht₂, ht₃]
        simp
      case isFalse spent =>
        have ⟨hx, done, hk⟩ := gives_pure go
        rw [done, List.append_nil] at ht
        subst hx hk
        refine ⟨n, t, t', k₁, within, rfl, tried, ht ▸ first, fun f' hf transient => ?_⟩
        cases hf
        exact Nat.le_antisymm within (Nat.le_of_not_lt fun more => spent ⟨more, transient⟩)

-- All attempts but the last one have failed in passing. The last one has not, or there are no more.
theorem gives_persistently (h : Gives (s.persistently op) k t x k') :
    ∃ n t₁ t₂ k₁, n ≤ s.client.options.retry.maxRetries ∧ t = t₁ ++ t₂ ∧ Tried s op n k t₁ k₁ ∧
      Gives op k₁ t₂ x k' ∧
      ∀ f, x = .error f → f.isTransient → n = s.client.options.retry.maxRetries :=
  gives_attempts .none (Nat.zero_le _) h

end Source

end ArtifactSync.Registry
