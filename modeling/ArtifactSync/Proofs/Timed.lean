import ArtifactSync.Duration

namespace ArtifactSync

-- What time it is, and when each call so far was made.
structure Journal where
  now : Nat
  calls : List Nat := []
  deriving DecidableEq, Repr

abbrev Timed := StateM Journal

namespace Timed

variable {α β : Type} {outcomes : Nat → α} {waits : Nat → Duration} {start k : Nat} {j : Journal}
  {pause : Duration → Timed Unit}

-- A call takes no time and comes to the outcome whose turn it is.
def call (outcomes : Nat → α) : Timed α := fun j =>
  (outcomes j.calls.length, { j with calls := j.calls ++ [j.now] })

-- The clock goes on by exactly what a pause is to last.
def IsExact (pause : Duration → Timed Unit) : Prop :=
  ∀ d j, pause d j = ((), { j with now := j.now + d.nanos })

def sleep (d : Duration) : Timed Unit := fun j =>
  ((), { j with now := j.now + d.nanos })

theorem isExact_sleep : IsExact sleep :=
  fun _ _ => rfl

-- The nanoseconds of that many waits.
def waited (waits : Nat → Duration) : Nat → Nat
  | 0 => 0
  | k + 1 => waited waits k + (waits k).nanos

-- The beginnings of that many calls.
def beginnings (waits : Nat → Duration) (start k : Nat) : List Nat :=
  (List.range k).map fun j => start + waited waits j

-- So many calls have been made, and each of them has been paused after.
def rested (waits : Nat → Duration) (start k : Nat) : Journal :=
  ⟨start + waited waits k, beginnings waits start k⟩

-- Another one has been made as well.
def called (waits : Nat → Duration) (start k : Nat) : Journal :=
  ⟨start + waited waits k, beginnings waits start (k + 1)⟩

@[simp]
theorem bind_eq (x : Timed α) (f : α → Timed β) : (x >>= f) j = f (x j).1 (x j).2 := rfl

@[simp]
theorem pure_eq (a : α) : (pure a : Timed α) j = (a, j) := rfl

@[simp]
theorem rested_zero : rested waits start 0 = ⟨start, []⟩ := rfl

@[simp]
theorem call_rested :
    call outcomes (rested waits start k) = (outcomes k, called waits start k) := by
  simp [call, rested, called, beginnings, List.range_succ]

theorem IsExact.called (exact : IsExact pause) :
    pause (waits k) (called waits start k) = ((), rested waits start (k + 1)) := by
  simp [exact (waits k), rested, Timed.called, waited, Nat.add_assoc]

end Timed

end ArtifactSync
