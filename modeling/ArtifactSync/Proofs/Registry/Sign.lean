import ArtifactSync.Proofs.Text.Ascii
import ArtifactSync.Registry.Reference

namespace ArtifactSync.Registry

open Text (isAsciiUpper isAsciiUpper_iff IsPrintable)

variable {cs : List Char} {c d : Char}

theorem isLowerOrDigit_iff : isLowerOrDigit c ↔
    97 ≤ c.toNat ∧ c.toNat ≤ 122 ∨ 48 ≤ c.toNat ∧ c.toNat ≤ 57 := by
  simp only [isLowerOrDigit, Char.le_def, Bool.or_eq_true, Bool.and_eq_true, decide_eq_true_eq]
  exact .rfl

theorem isAlphanumeric_iff : isAlphanumeric c ↔ isLowerOrDigit c ∨ isAsciiUpper c := by
  simp only [isAlphanumeric, isAsciiUpper, Bool.or_eq_true]

def IsSign (c : Char) : Prop :=
  isAlphanumeric c ∨ c ∈ ['_', '.', '-']

instance : DecidablePred IsSign :=
  fun c => inferInstanceAs (Decidable (isAlphanumeric c ∨ c ∈ ['_', '.', '-']))

theorem forall_isSign (h : cs.all (decide <| IsSign ·)) : ∀ c ∈ cs, IsSign c :=
  fun c hc => of_decide_eq_true (List.all_eq_true.1 h c hc)

namespace IsSign

theorem ne (h : IsSign c) (hd : ¬IsSign d) : c ≠ d :=
  fun same => hd (same ▸ h)

theorem bounds (h : IsSign c) : 0x20 < c.toNat ∧ c.toNat < 0x7F := by
  cases h with
  | inl alphanumeric =>
    rw [isAlphanumeric_iff, isLowerOrDigit_iff, isAsciiUpper_iff] at alphanumeric
    omega
  | inr other        =>
    have : c = '_' ∨ c = '.' ∨ c = '-' := by simpa using other
    rcases this with rfl | rfl | rfl <;> decide

theorem isPrintable (signs : ∀ c ∈ cs, IsSign c) : IsPrintable cs :=
  fun c hc => (signs c hc).bounds

end IsSign

end ArtifactSync.Registry
