import ArtifactSync.Proofs.Text.Blank
import ArtifactSync.Proofs.Text.Utf8
import ArtifactSync.Text.Lowercase
import ArtifactSync.Text.Split

namespace ArtifactSync.Text

variable {c : Char} {cs : List Char}

def IsAscii (cs : List Char) : Prop :=
  ∀ c ∈ cs, c.toNat < 0x80

-- What is neither a control nor a blank.
def IsPrintable (cs : List Char) : Prop :=
  ∀ c ∈ cs, 0x20 < c.toNat ∧ c.toNat < 0x7F

instance : Decidable (IsPrintable cs) :=
  List.decidableBAll _ cs

theorem IsPrintable.isAscii (h : IsPrintable cs) : IsAscii cs :=
  fun c hc => Nat.lt_trans (h c hc).2 (by decide)

theorem IsPrintable.append {cs' : List Char} (h : IsPrintable cs) (h' : IsPrintable cs') :
    IsPrintable (cs ++ cs') :=
  fun c hc => (List.mem_append.1 hc).elim (h c) (h' c)

theorem IsPrintable.not_isBlank (h : IsPrintable cs) (hc : c ∈ cs) : isBlank c = false := by
  have bounds := h c hc
  simp only [isBlank, Bool.or_eq_false_iff, Bool.and_eq_false_iff, decide_eq_false_iff_not,
    beq_eq_false_iff_ne]
  omega

theorem IsPrintable.isTrimmed (h : IsPrintable cs) : IsTrimmed cs where
  front := fun _ hc => h.not_isBlank (List.mem_of_mem_head? hc)
  back  := fun _ hc => h.not_isBlank (List.mem_of_mem_getLast? hc)

theorem IsPrintable.trimChars (h : IsPrintable cs) : trimChars cs = cs :=
  trimChars_eq_iff.2 h.isTrimmed.isTrimOf

-- Blanks around are taken off, however many there are.
theorem IsPrintable.trimChars_between {before after : List Char} (h : IsPrintable cs)
    (front : ∀ c ∈ before, isBlank c) (back : ∀ c ∈ after, isBlank c) :
    Text.trimChars (before ++ cs ++ after) = cs :=
  trimChars_eq_iff.2 ⟨h.isTrimmed, before, after, front, back, rfl⟩

theorem isAsciiUpper_iff : isAsciiUpper c ↔ 65 ≤ c.toNat ∧ c.toNat ≤ 90 := by
  simp only [isAsciiUpper, Char.le_def, Bool.and_eq_true, decide_eq_true_eq]
  exact .rfl

theorem toNat_asciiLower :
    (asciiLower c).toNat = if isAsciiUpper c then c.toNat + 32 else c.toNat := by
  unfold asciiLower
  split
  case isTrue h  =>
    rw [isAsciiUpper_iff] at h
    have valid : (c.toNat + 32).isValidChar := .inl (by omega)
    rw [Char.ofNat, dif_pos valid]
    rfl
  case isFalse => rfl

theorem asciiLower_asciiLower : asciiLower (asciiLower c) = asciiLower c := by
  have lower : isAsciiUpper (asciiLower c) = false := by
    rw [Bool.eq_false_iff, ne_eq, isAsciiUpper_iff, toNat_asciiLower]
    split
    case isTrue h  => rw [isAsciiUpper_iff] at h; omega
    case isFalse h => rwa [isAsciiUpper_iff] at h
  rw [asciiLower, lower]
  rfl

theorem asciiLower_eq_self (h : isAsciiUpper c = false) : asciiLower c = c := by
  rw [asciiLower, h]
  rfl

theorem IsAscii.map_asciiLower (h : IsAscii cs) : IsAscii (cs.map asciiLower) := by
  intro d hd
  have ⟨c, hc, same⟩ := List.mem_map.1 hd
  have bound := h c hc
  rw [← same, toNat_asciiLower]
  split
  case isTrue hu => rw [isAsciiUpper_iff] at hu; omega
  case isFalse   => exact bound

theorem mem_of_mem_splitOn {sep : Char} {piece : List Char} (hp : piece ∈ splitOn sep cs)
    (hc : c ∈ piece) : c ∈ cs := by
  induction cs generalizing piece with
  | nil          =>
    rw [splitOn, List.mem_singleton] at hp
    exact absurd hc (hp ▸ List.not_mem_nil)
  | cons d cs hi =>
    rw [splitOn] at hp
    split at hp
    case isTrue  =>
      cases hp with
      | head      => cases hc
      | tail _ hp => exact .tail _ (hi hp hc)
    case isFalse =>
      split at hp
      case h_1 none              => exact absurd none (splitOn_ne_nil sep cs)
      case h_2 first others same =>
        rw [same] at hi
        cases hp with
        | tail _ hp => exact .tail _ (hi (.tail _ hp) hc)
        | head      =>
          cases hc with
          | head      => exact .head _
          | tail _ hc => exact .tail _ (hi (.head _) hc)

theorem IsAscii.of_mem_splitOn {sep : Char} {piece : List Char} (h : IsAscii cs)
    (hp : piece ∈ splitOn sep cs) : IsAscii piece :=
  fun c hc => h c (mem_of_mem_splitOn hp hc)

theorem lowerFrom_ascii {before : List Char} (h : IsAscii cs) :
    lowerFrom before cs = cs.map asciiLower := by
  induction cs generalizing before with
  | nil          => rfl
  | cons c cs hi =>
    have ⟨here, there⟩ := List.forall_mem_cons.1 h
    have other : c ≠ 'Σ' := by rintro rfl; exact absurd here (by decide)
    rw [lowerFrom, if_neg other, lowerChar, if_pos here, hi there]
    rfl

theorem toList_lower {s : String} (h : IsAscii s.toList) :
    (lower s).toList = s.toList.map asciiLower := by
  rw [lower, String.toList_ofList, lowerFrom_ascii h]

theorem Utf8.encodeChar_ascii (h : c.toNat < 0x80) :
    String.utf8EncodeChar c = [UInt8.ofNat c.toNat] := by
  have short : c.val.toNat ≤ 0x7F := Nat.le_of_lt_succ h
  unfold String.utf8EncodeChar
  dsimp only
  rw [if_pos short]
  rfl

theorem Utf8.encode_ascii (h : IsAscii cs) :
    Utf8.encode cs = cs.map fun c => UInt8.ofNat c.toNat := by
  induction cs with
  | nil          => rfl
  | cons c cs hi =>
    have ⟨here, there⟩ := List.forall_mem_cons.1 h
    rw [Utf8.encode, List.flatMap_cons, encodeChar_ascii here, List.map_cons, ← hi there]
    rfl

end ArtifactSync.Text
