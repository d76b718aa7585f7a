import ArtifactSync.Instances

namespace ArtifactSync

def nanosPerSecond : Nat := 1000000000

@[ext]
structure Duration where
  nanos : Nat
  bounded : nanos < 2 ^ 64 * 1000000000 := by decide
  deriving DecidableEq, Repr

namespace Duration

def max : Duration := ⟨2 ^ 64 * 1000000000 - 1, by decide⟩

def ofNanosSaturating (n : Nat) : Duration :=
  if h : n < 2 ^ 64 * 1000000000 then ⟨n, h⟩ else max

def ofSeconds (n : Nat) : Duration :=
  ofNanosSaturating (n * 1000000000)

def ofMillis (n : Nat) : Duration :=
  ofNanosSaturating (n * 1000000)

def seconds (d : Duration) : Nat :=
  d.nanos / 1000000000

def subsecNanos (d : Duration) : Nat :=
  d.nanos % 1000000000

def saturatingMul (d : Duration) (k : Nat) : Duration :=
  ofNanosSaturating (d.nanos * k)

instance : LE Duration := ⟨fun a b => a.nanos ≤ b.nanos⟩

instance (a b : Duration) : Decidable (a ≤ b) :=
  inferInstanceAs (Decidable (a.nanos ≤ b.nanos))

protected def min (a b : Duration) : Duration :=
  if a ≤ b then a else b

theorem nanos_ofNanosSaturating (n : Nat) : (ofNanosSaturating n).nanos = Nat.min n max.nanos := by
  simp only [ofNanosSaturating, max]
  split <;> simp only [Nat.min_def] <;> split <;> omega

theorem nanos_ofSeconds {n : Nat} (h : n < 2 ^ 64) :
    (ofSeconds n).nanos = n * nanosPerSecond := by
  rw [ofSeconds, ofNanosSaturating, dif_pos (by omega), nanosPerSecond]

theorem nanos_min (a b : Duration) : (Duration.min a b).nanos = Nat.min a.nanos b.nanos := by
  simp only [Duration.min, Nat.min_def, LE.le]
  split <;> simp_all

end Duration

-- A reading of a clock, in nanoseconds.
structure Instant where
  nanos : Nat
  deriving DecidableEq, Repr

namespace Instant

-- The clock counts its seconds in a signed word.
def add? (t : Instant) (d : Duration) : Option Instant :=
  if (t.nanos + d.nanos) / 1000000000 < 2 ^ 63 then some ⟨t.nanos + d.nanos⟩ else none

-- What is left until `deadline`, nothing once it has passed.
def remaining (t deadline : Instant) : Duration :=
  .ofNanosSaturating (deadline.nanos - t.nanos)

end Instant

end ArtifactSync
