import ArtifactSync.Text.Decimal

namespace ArtifactSync.Text.Decimal

variable {bound n m : Nat} {c : Char} {cs : List Char}

theorem lt_of_digits (h : digits bound n cs = .ok m) (hn : n < bound) : m < bound := by
  induction cs generalizing n with
  | nil          => exact Except.ok.inj h ▸ hn
  | cons c cs hi =>
    rw [digits] at h
    split at h
    case h_1 => cases h
    case h_2 =>
      split at h
      case isTrue below => exact hi h below
      case isFalse      => cases h

theorem lt_of_natural (h : natural bound cs = .ok n) (hb : 0 < bound) : n < bound := by
  unfold natural at h
  split at h
  case h_1 => cases h
  case h_2 => exact lt_of_digits h hb
  case h_3 => exact lt_of_digits h hb

theorem digit?_of_isDigit (h : c.isDigit) : digit? c = some (c.toNat - '0'.toNat) := by
  simp only [Char.isDigit, Bool.and_eq_true, decide_eq_true_eq] at h
  exact if_pos h

theorem digit?_of_not_isDigit (h : ¬c.isDigit) : digit? c = none := by
  simp only [Char.isDigit, Bool.and_eq_true, decide_eq_true_eq] at h
  exact if_neg h

theorem le_ofDigitChars : n ≤ Nat.ofDigitChars 10 cs n := by
  rw [Nat.ofDigitChars_eq_ofDigitChars_zero]
  exact Nat.le_add_right_of_le (Nat.le_mul_of_pos_left n (Nat.pow_pos (by decide)))

theorem digits_ok (all : ∀ c ∈ cs, c.isDigit) (small : Nat.ofDigitChars 10 cs n < bound) :
    digits bound n cs = .ok (Nat.ofDigitChars 10 cs n) := by
  induction cs generalizing n with
  | nil          => rfl
  | cons c cs hi =>
    have ⟨digit, others⟩ := List.forall_mem_cons.1 all
    rw [Nat.ofDigitChars_cons, Nat.mul_comm] at small ⊢
    rw [digits, digit?_of_isDigit digit]
    dsimp only
    rw [if_pos (Nat.lt_of_le_of_lt le_ofDigitChars small), hi others small]

theorem ok_of_digits (h : digits bound n cs = .ok m) :
    (∀ c ∈ cs, c.isDigit) ∧ m = Nat.ofDigitChars 10 cs n := by
  induction cs generalizing n with
  | nil          => exact ⟨nofun, (Except.ok.inj h).symm⟩
  | cons c cs hi =>
    rw [digits] at h
    by_cases digit : c.isDigit
    case pos =>
      rw [digit?_of_isDigit digit] at h
      dsimp only at h
      split at h
      case isTrue  =>
        have ⟨others, value⟩ := hi h
        rw [Nat.ofDigitChars_cons, Nat.mul_comm]
        exact ⟨List.forall_mem_cons.2 ⟨digit, others⟩, value⟩
      case isFalse => cases h
    case neg =>
      rw [digit?_of_not_isDigit digit] at h
      cases h

-- One digit or more, behind a plus sign or none, and the number that they mean.
inductive IsNumeral : List Char → Nat → Prop
  | plain {ds : List Char} (nonempty : ds ≠ []) (all : ∀ d ∈ ds, d.isDigit) :
    IsNumeral ds (Nat.ofDigitChars 10 ds 0)
  | signed {ds : List Char} (nonempty : ds ≠ []) (all : ∀ d ∈ ds, d.isDigit) :
    IsNumeral ('+' :: ds) (Nat.ofDigitChars 10 ds 0)

theorem natural_of_digits (nonempty : cs ≠ []) (all : ∀ c ∈ cs, c.isDigit) :
    natural bound cs = digits bound 0 cs := by
  unfold natural
  split
  case h_1 => exact absurd rfl nonempty
  case h_2 => exact absurd (all '+' List.mem_cons_self) (by decide)
  case h_3 => rfl

theorem natural_signed (nonempty : cs ≠ []) : natural bound ('+' :: cs) = digits bound 0 cs := by
  cases cs with
  | nil      => exact absurd rfl nonempty
  | cons _ _ => rfl

theorem natural_ok_iff (hb : 0 < bound) :
    natural bound cs = .ok n ↔ IsNumeral cs n ∧ n < bound := by
  constructor
  case mp  =>
    intro h
    refine ⟨?_, lt_of_natural h hb⟩
    unfold natural at h
    split at h
    case h_1                  => cases h
    case h_2                  =>
      have ⟨all, value⟩ := ok_of_digits h
      exact value ▸ .signed (List.cons_ne_nil _ _) all
    case h_3 cs nonempty _    =>
      have ⟨all, value⟩ := ok_of_digits h
      exact value ▸ .plain nonempty all
  case mpr =>
    intro ⟨numeral, small⟩
    cases numeral with
    | plain nonempty all  => rw [natural_of_digits nonempty all, digits_ok all small]
    | signed nonempty all => rw [natural_signed nonempty, digits_ok all small]

end ArtifactSync.Text.Decimal
