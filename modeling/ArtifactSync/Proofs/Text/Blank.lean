import ArtifactSync.Text.Blank
import Mathlib.Data.List.TakeWhile

namespace ArtifactSync.Text

variable {cs inner rest : List Char}

-- No white space at either end.
structure IsTrimmed (cs : List Char) : Prop where
  front : ∀ c ∈ cs.head?, isBlank c = false
  back  : ∀ c ∈ cs.getLast?, isBlank c = false

-- The first text is the second one without the white space around it.
structure IsTrimOf (inner cs : List Char) : Prop where
  trimmed : IsTrimmed inner
  padded  : ∃ before after, (∀ c ∈ before, isBlank c) ∧ (∀ c ∈ after, isBlank c) ∧
    cs = before ++ inner ++ after

theorem trimLeft_eq_iff : trimLeft cs = rest ↔
    (∀ c ∈ rest.head?, isBlank c = false) ∧
      ∃ before, (∀ c ∈ before, isBlank c) ∧ cs = before ++ rest := by
  constructor
  case mp  =>
    intro left
    subst left
    refine ⟨fun c hc => ?_, cs.takeWhile isBlank, fun _ => List.mem_takeWhile_imp, ?_⟩
    case refine_1 =>
      have visible := List.head?_dropWhile_not isBlank cs
      rw [show (cs.dropWhile isBlank).head? = some c from hc] at visible
      exact visible
    case refine_2 => exact List.takeWhile_append_dropWhile.symm
  case mpr =>
    intro ⟨visible, before, blank, whole⟩
    subst whole
    rw [trimLeft, List.dropWhile_append_of_pos blank]
    cases rest with
    | nil      => rfl
    | cons c _ => exact List.dropWhile_cons_of_neg (by simp [visible c rfl])

-- What is done in front is done at the end of the reversed text.
theorem trimRight_eq : trimRight cs = (trimLeft cs.reverse).reverse := rfl

theorem trimRight_eq_iff : trimRight cs = rest ↔
    (∀ c ∈ rest.getLast?, isBlank c = false) ∧
      ∃ after, (∀ c ∈ after, isBlank c) ∧ cs = rest ++ after := by
  rw [trimRight_eq, List.reverse_eq_iff, trimLeft_eq_iff, List.head?_reverse]
  apply and_congr_right
  intro
  constructor
  case mp  =>
    intro ⟨after, blank, whole⟩
    refine ⟨after.reverse, fun c hc => blank c (List.mem_reverse.1 hc), ?_⟩
    rw [← List.reverse_inj, whole, List.reverse_append, List.reverse_reverse]
  case mpr =>
    intro ⟨after, blank, whole⟩
    exact ⟨after.reverse, fun c hc => blank c (List.mem_reverse.1 hc), by simp [whole]⟩

theorem IsTrimOf.trimLeft (trim : IsTrimOf inner cs) : ∃ after, (∀ c ∈ after, isBlank c) ∧
    Text.trimLeft cs = inner ++ after := by
  have ⟨before, after, front, back, whole⟩ := trim.padded
  cases inner with
  | nil      =>
    have all : ∀ c ∈ before ++ after, isBlank c := List.forall_mem_append.2 ⟨front, back⟩
    exact ⟨[], nofun, trimLeft_eq_iff.2 ⟨nofun, before ++ after, all, by simp [whole]⟩⟩
  | cons d _ =>
    have visible : ∀ c ∈ some d, isBlank c = false := trim.trimmed.front
    exact ⟨after, back, trimLeft_eq_iff.2 ⟨visible, before, front, by simp [whole]⟩⟩

theorem trimChars_eq_iff : trimChars cs = inner ↔ IsTrimOf inner cs := by
  constructor
  case mp  =>
    intro trim
    have ⟨visible, before, front, whole⟩ := trimLeft_eq_iff.1 (rfl : trimLeft cs = trimLeft cs)
    have ⟨last, after, back, rest⟩ := trimRight_eq_iff.1 trim
    have first : ∀ c ∈ inner.head?, isBlank c = false := by
      intro c hc
      have front : inner.head? = some c := hc
      exact visible c (by simp [rest, List.head?_append, front])
    exact ⟨⟨first, last⟩, before, after, front, back, by rw [List.append_assoc, ← rest, ← whole]⟩
  case mpr =>
    intro trim
    have ⟨after, back, rest⟩ := trim.trimLeft
    exact trimRight_eq_iff.2 ⟨trim.trimmed.back, after, back, rest⟩

theorem trimChars_eq_nil_iff : trimChars cs = [] ↔ ∀ c ∈ cs, isBlank c := by
  rw [trimChars_eq_iff]
  constructor
  case mp  =>
    intro ⟨_, before, after, front, back, whole⟩
    rw [whole, List.append_nil]
    exact List.forall_mem_append.2 ⟨front, back⟩
  case mpr => exact fun all => ⟨⟨nofun, nofun⟩, cs, [], all, nofun, by simp⟩

theorem IsTrimmed.isTrimOf (trimmed : IsTrimmed cs) : IsTrimOf cs cs :=
  ⟨trimmed, [], [], nofun, nofun, by simp⟩

end ArtifactSync.Text
