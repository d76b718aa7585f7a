import ArtifactSync.Crd.Wait
import ArtifactSync.Proofs.Timed

namespace ArtifactSync.Crd

open Timed (IsExact beginnings call called rested sleep waited)

variable {ε : Type} {outcomes : Nat → Except ε Bool} {start k n : Nat}
  {pause : Duration → Timed Unit}

-- The seconds between that look-up and the next one.
def intervalAfter : Nat → Nat
  | 0     => firstInterval
  | k + 1 => nextInterval (intervalAfter k)

theorem intervalAfter_eq : intervalAfter k = Nat.min (10 * 2 ^ k) 60 := by
  induction k with
  | zero      => rfl
  | succ k hi =>
    rw [intervalAfter, nextInterval, hi, Nat.pow_succ, longestInterval]
    simp only [Nat.min_def]
    repeat' split
    all_goals omega

theorem le_intervalAfter : 10 ≤ intervalAfter k := by
  have := Nat.one_le_two_pow (n := k)
  rw [intervalAfter_eq]
  exact Nat.le_min.2 ⟨by omega, by decide⟩

theorem intervalAfter_le : intervalAfter k ≤ 60 :=
  intervalAfter_eq ▸ Nat.min_le_right ..

def pauseAfter (k : Nat) : Duration :=
  .ofSeconds (intervalAfter k)

theorem nanos_pauseAfter : (pauseAfter k).nanos = intervalAfter k * nanosPerSecond :=
  Duration.nanos_ofSeconds (Nat.lt_of_le_of_lt intervalAfter_le (by decide))

-- The first look-up that finds the resource.
structure IsFirst (outcomes : Nat → Except ε Bool) (k : Nat) : Prop where
  found  : outcomes k = .ok true
  before : ∀ j < k, outcomes j ≠ .ok true

-- What the wait does from look-up number `k` on.
def waitingFrom (pause : Duration → Timed Unit) (outcomes : Nat → Except ε Bool) (k : Nat) :
    (lookUps : Nat) → Timed Bool :=
  waitFrom (call outcomes) pause (intervalAfter k)

theorem waitingFrom_found (found : outcomes k = .ok true) :
    waitingFrom pause outcomes k (n + 1) (rested pauseAfter start k) =
      (true, called pauseAfter start k) := by
  simp [waitingFrom, waitFrom, found]

-- Neither absence nor an error counts for more than another pause.
theorem waitingFrom_missing (exact : IsExact pause) (missing : outcomes k ≠ .ok true) :
    waitingFrom pause outcomes k (n + 1) (rested pauseAfter start k) =
      waitingFrom pause outcomes (k + 1) n (rested pauseAfter start (k + 1)) := by
  have paused : pause (pauseAfter k) (called pauseAfter start k) =
      ((), rested pauseAfter start (k + 1)) := exact.called
  rw [pauseAfter] at paused
  cases h : outcomes k with
  | error _ => simp [waitingFrom, waitFrom, intervalAfter, h, paused]
  | ok here =>
    cases here with
    | true  => exact absurd h missing
    | false => simp [waitingFrom, waitFrom, intervalAfter, h, paused]

-- As many look-ups as find nothing are gone through.
theorem wait_missing (exact : IsExact pause) (missing : ∀ j < k, outcomes j ≠ .ok true) :
    wait (call outcomes) pause (k + n) ⟨start, []⟩ =
      waitingFrom pause outcomes k n (rested pauseAfter start k) := by
  induction k generalizing n with
  | zero      => rw [Nat.zero_add]; rfl
  | succ k hi =>
    have here := missing k (Nat.lt_succ_self k)
    have earlier : ∀ j < k, outcomes j ≠ .ok true := fun j hj => missing j (Nat.lt_succ_of_lt hj)
    rw [Nat.add_assoc, Nat.add_comm 1, hi earlier, waitingFrom_missing exact here]

-- Of the look-ups of a wait, those up to the first that finds the resource are made.
theorem wait_timetable (exact : IsExact pause) (outcomes : Nat → Except ε Bool) (start : Nat) :
    (∀ k, intervalAfter k = Nat.min (10 * 2 ^ k) 60 ∧ 10 ≤ intervalAfter k ∧
      intervalAfter k ≤ 60 ∧ intervalAfter k * 2 < 2 ^ 64) ∧
    waited pauseAfter 0 = 0 ∧
    (∀ k, waited pauseAfter (k + 1) =
      waited pauseAfter k + Nat.min (10 * 2 ^ k) 60 * nanosPerSecond) ∧
    (∀ k, IsFirst outcomes k → ∀ n, k < n → wait (call outcomes) pause n ⟨start, []⟩ =
      (true, ⟨start + waited pauseAfter k, beginnings pauseAfter start (k + 1)⟩)) ∧
    ∀ n, (∀ k < n, outcomes k ≠ .ok true) → wait (call outcomes) pause n ⟨start, []⟩ =
      (false, ⟨start + waited pauseAfter n, beginnings pauseAfter start n⟩) := by
  refine ⟨fun k => ?intervals, rfl, fun k => ?pauses, fun k first n enough => ?found,
    fun n missing => wait_missing (n := 0) exact missing⟩
  case intervals =>
    have most : intervalAfter k ≤ 60 := intervalAfter_le
    exact ⟨intervalAfter_eq, le_intervalAfter, most, by omega⟩
  case pauses => rw [waited, nanos_pauseAfter, intervalAfter_eq]
  case found =>
    obtain ⟨more, same⟩ := Nat.exists_eq_add_of_lt enough
    rw [same, Nat.add_assoc, wait_missing exact first.before]
    exact waitingFrom_found first.found

-- A resource that is there after a minute, where the first look-up fails.
namespace Late

def results : Nat → Except String Bool
  | 0     => .error "unreachable"
  | 1 | 2 => .ok false
  | _     => .ok true

theorem missing {k : Nat} (early : k < 3) : results k ≠ .ok true := by
  have : k = 0 ∨ k = 1 ∨ k = 2 := by omega
  rcases this with rfl | rfl | rfl <;> nofun

theorem isFirst : IsFirst results 3 where
  found  := rfl
  before := fun _ => missing

end Late

open Late in
theorem wait_timetable_sample :
    wait (call results) sleep 3 ⟨0, []⟩ =
      (false, ⟨70000000000, [0, 10000000000, 30000000000]⟩) ∧
    wait (call results) sleep 5 ⟨0, []⟩ =
      (true, ⟨70000000000, [0, 10000000000, 30000000000, 70000000000]⟩) := by
  have ⟨_, _, _, found, goes_on⟩ := wait_timetable Timed.isExact_sleep results 0
  rw [goes_on 3 fun _ => missing, found 3 isFirst 5 (by decide)]
  exact ⟨rfl, rfl⟩

end ArtifactSync.Crd
