import ArtifactSync.Duration

namespace ArtifactSync.Duration

theorem nanos_le_max (d : Duration) : d.nanos ≤ max.nanos :=
  Nat.le_sub_one_of_lt d.bounded

structure Words where
  secs      : UInt64
  subsec    : UInt32
  subsec_lt : subsec.toNat < 1000000000

namespace Words

variable {w w' r : Words} {a c : UInt64} {k : UInt32} {d : Duration} {n : Nat}

-- The span that the words stand for.
def span (w : Words) : Duration where
  nanos   := w.secs.toNat * 1000000000 + w.subsec.toNat
  bounded := by
    have := w.secs.toNat_lt
    have := w.subsec_lt
    omega

def ofSpan (d : Duration) : Words where
  secs      := .ofNat d.seconds
  subsec    := .ofNat d.subsecNanos
  subsec_lt := by
    rw [subsecNanos, UInt32.toNat_ofNat']
    omega

theorem span_ofSpan : (ofSpan d).span = d := by
  have := d.bounded
  apply Duration.ext
  simp only [span, ofSpan, seconds, subsecNanos, UInt32.toNat_ofNat', UInt64.toNat_ofNat']
  omega

-- The longest span there is.
def longest : Words :=
  ⟨.ofNat (2 ^ 64 - 1), 999999999, by decide⟩

theorem span_longest : longest.span = max := by
  apply Duration.ext
  decide +kernel

-- The word that an operation leaves, if the exact result fits into a word.
def checked (word : UInt64) (exact : Nat) : Option UInt64 :=
  if exact < UInt64.size then some word else none

theorem toNat_checked (wraps : a.toNat = n % 2 ^ 64) (h : checked a n = some c) : c.toNat = n := by
  unfold checked at h
  split at h
  case isTrue fits =>
    cases h
    exact wraps.trans (Nat.mod_eq_of_lt fits)
  case isFalse     => cases h

theorem size_le_of_checked (h : checked a n = none) : UInt64.size ≤ n := by
  unfold checked at h
  split at h
  case isTrue       => cases h
  case isFalse much => exact Nat.not_lt.1 much

-- The nanoseconds by themselves need no check.
def nanosTimes (w : Words) (k : UInt32) : UInt64 :=
  w.subsec.toUInt64 * k.toUInt64

theorem toNat_nanosTimes : (w.nanosTimes k).toNat = w.subsec.toNat * k.toNat := by
  have fits : w.subsec.toNat * k.toNat < 1000000000 * 2 ^ 32 :=
    Nat.mul_lt_mul'' w.subsec_lt k.toNat_lt
  rw [nanosTimes, UInt64.toNat_mul, UInt32.toNat_toUInt64, UInt32.toNat_toUInt64]
  exact Nat.mod_eq_of_lt (by omega)

-- The full seconds among the nanoseconds.
def carry (w : Words) (k : UInt32) : UInt64 :=
  w.nanosTimes k / 1000000000

theorem toNat_carry : (w.carry k).toNat = w.subsec.toNat * k.toNat / 1000000000 := by
  rw [carry, UInt64.toNat_div, toNat_nanosTimes]
  rfl

def mul? (w : Words) (k : UInt32) : Option Words := do
  let full ← checked (w.secs * k.toUInt64) (w.secs.toNat * k.toNat)
  let secs ← checked (full + w.carry k) (full.toNat + (w.carry k).toNat)
  return ⟨secs, (w.nanosTimes k % 1000000000).toUInt32, by
    simp only [UInt64.toNat_toUInt32, UInt64.toNat_mod, UInt64.reduceToNat]
    omega⟩

def saturatingMul (w : Words) (k : UInt32) : Words :=
  (w.mul? k).getD longest

theorem toNat_times {full : UInt64}
    (h : checked (w.secs * k.toUInt64) (w.secs.toNat * k.toNat) = some full) :
    full.toNat = w.secs.toNat * k.toNat :=
  toNat_checked (UInt64.toNat_mul _ _) h

-- The exact product, by seconds and the rest.
theorem nanos_times : w.span.nanos * k.toNat =
    (w.secs.toNat * k.toNat + (w.carry k).toNat) * 1000000000 +
      (w.nanosTimes k).toNat % 1000000000 := by
  rw [span, toNat_carry, toNat_nanosTimes, Nat.add_mul, Nat.mul_right_comm]
  omega

theorem nanos_mul? (h : w.mul? k = some r) : r.span.nanos = w.span.nanos * k.toNat := by
  simp only [mul?, Option.bind_eq_bind, Option.bind_eq_some_iff, Option.pure_def,
    Option.some.injEq] at h
  have ⟨full, times, secs, plus, words⟩ := h
  have total := toNat_checked (UInt64.toNat_add _ _) plus
  have small : (w.nanosTimes k).toNat % 1000000000 < 1000000000 := Nat.mod_lt _ (by decide)
  subst words
  rw [nanos_times, ← toNat_times times, ← total, span]
  dsimp only
  rw [UInt64.toNat_toUInt32, UInt64.toNat_mod]
  exact congrArg (_ + ·) (Nat.mod_eq_of_lt (Nat.lt_trans small (by decide)))

theorem max_lt_of_mul? (h : w.mul? k = none) : max.nanos < w.span.nanos * k.toNat := by
  have tooMany : UInt64.size ≤ w.secs.toNat * k.toNat + (w.carry k).toNat := by
    cases times : checked (w.secs * k.toUInt64) (w.secs.toNat * k.toNat) with
    | none      => exact Nat.le_trans (size_le_of_checked times) (Nat.le_add_right _ _)
    | some full =>
      rw [← toNat_times times]
      refine size_le_of_checked (a := full + w.carry k) ?_
      cases plus : checked (full + w.carry k) (full.toNat + (w.carry k).toNat) with
      | none   => rfl
      | some _ => simp [mul?, times, plus] at h
  rw [nanos_times]
  simp only [max, UInt64.size] at *
  omega

theorem span_saturatingMul : (w.saturatingMul k).span = w.span.saturatingMul k.toNat := by
  apply Duration.ext
  rw [saturatingMul, Duration.saturatingMul, nanos_ofNanosSaturating]
  cases h : w.mul? k with
  | none   =>
    rw [Option.getD_none, span_longest]
    exact (Nat.min_eq_right (Nat.le_of_lt (max_lt_of_mul? h))).symm
  | some r =>
    rw [Option.getD_some, ← nanos_mul? h]
    exact (Nat.min_eq_left (nanos_le_max _)).symm

-- Seconds are compared first.
def IsLe (w w' : Words) : Prop :=
  w.secs < w'.secs ∨ w.secs = w'.secs ∧ w.subsec ≤ w'.subsec

instance : Decidable (IsLe w w') :=
  inferInstanceAs (Decidable (_ ∨ _))

protected def min (w w' : Words) : Words :=
  if IsLe w w' then w else w'

theorem isLe_iff : IsLe w w' ↔ w.span ≤ w'.span := by
  have := w.subsec_lt
  have := w'.subsec_lt
  rw [IsLe, UInt64.lt_iff_toNat_lt, ← UInt64.toNat_inj, UInt32.le_iff_toNat_le]
  change _ ↔ w.span.nanos ≤ w'.span.nanos
  simp only [span]
  omega

theorem span_min : (w.min w').span = Duration.min w.span w'.span := by
  unfold Words.min Duration.min
  simp only [isLe_iff]
  split <;> rfl

end Words

end ArtifactSync.Duration
