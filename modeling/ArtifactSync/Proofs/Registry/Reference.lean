import ArtifactSync.Proofs.Text.Ascii
import ArtifactSync.Proofs.Registry.Attempt

namespace ArtifactSync.Registry

open Fallible (bind_ok)
open Retrieval

-- The hash of a manifest, in 64 digits.
def IsPin (artifact : String) : Prop :=
  ∃ hex : List Char, artifact = "sha256:" ++ String.ofList hex ∧ hex.length = 64 ∧
    ∀ c ∈ hex, isHexadecimal c

namespace Reference

variable {cs front back d : List Char} {c : Char} {artifact : String} {r : Reference}

theorem drop_takeWhile (p : Char → Bool) (cs : List Char) :
    cs.drop (cs.takeWhile p).length = cs.dropWhile p := by
  have parts : cs.takeWhile p ++ cs.dropWhile p = cs := List.takeWhile_append_dropWhile
  have := congrArg (List.drop (cs.takeWhile p).length) parts
  rw [← this, List.drop_left]

theorem isHexadecimal_bounds (h : isHexadecimal c) :
    48 ≤ c.toNat ∧ c.toNat ≤ 57 ∨ 65 ≤ c.toNat ∧ c.toNat ≤ 70 ∨ 97 ≤ c.toNat ∧ c.toNat ≤ 102 := by
  unfold isHexadecimal Text.Hexadecimal.value? at h
  split at h
  case isTrue digit => exact .inl digit
  case isFalse =>
    split at h
    case isTrue small => exact .inr (.inr small)
    case isFalse =>
      split at h
      case isTrue capital => exact .inr (.inl capital)
      case isFalse        => cases h

-- What cannot stand in a digest ends the name before it.
theorem not_mem_of_isAlgorithm {start : Bool} (h : isAlgorithmFrom start cs) : '@' ∉ cs := by
  induction cs generalizing start with
  | nil => simp
  | cons c rest hi =>
    unfold isAlgorithmFrom at h
    intro mem
    cases List.mem_cons.1 mem with
    | inl here  =>
      subst here
      cases start <;> exact absurd h (by simp [isLetter, isAlphanumeric, isLowerOrDigit])
    | inr there =>
      split at h
      case isTrue =>
        rw [Bool.and_eq_true] at h
        exact hi h.2 there
      case isFalse =>
        split at h
        case isTrue => exact hi h there
        case isFalse =>
          rw [Bool.and_eq_true] at h
          exact hi h.2 there

theorem not_mem_of_isDigest (h : isDigest cs) : '@' ∉ cs := by
  unfold isDigest at h
  dsimp only at h
  rw [Bool.and_eq_true, drop_takeWhile] at h
  have ⟨algorithm, rest⟩ := h
  have parts : cs.takeWhile (· ≠ ':') ++ cs.dropWhile (· ≠ ':') = cs :=
    List.takeWhile_append_dropWhile
  have last := List.head?_dropWhile_not (· ≠ ':') cs
  rw [← parts]
  intro mem
  cases List.mem_append.1 mem with
  | inl mem => exact not_mem_of_isAlgorithm algorithm mem
  | inr mem =>
    cases hd : cs.dropWhile (· ≠ ':') with
    | nil           =>
      rw [hd] at mem
      cases mem
    | cons colon hex =>
      rw [hd] at mem rest last
      simp only [List.head?_cons, decide_not, Bool.not_eq_false', decide_eq_true_eq] at last
      rw [Bool.and_eq_true, List.all_eq_true] at rest
      cases List.mem_cons.1 mem with
      | inl here  => simp [last] at here
      | inr there => exact absurd (rest.2 _ there) (by decide)

-- The first such sign is the one before the digest, or the digest has another one in it.
theorem dropWhile_front (front back : List Char) :
    ∃ d, (front ++ '@' :: back).dropWhile (· ≠ '@') = '@' :: d ∧ (d = back ∨ '@' ∈ d) := by
  induction front with
  | nil => exact ⟨back, by simp, .inl rfl⟩
  | cons c front hi =>
    by_cases here : c = '@'
    case pos => exact ⟨front ++ '@' :: back, by simp [here], .inr (by simp)⟩
    case neg =>
      have ⟨d, hd, same⟩ := hi
      exact ⟨d, by simpa [here] using hd, same⟩

theorem digest?_of_parts {parts : Parts} (h : Parts.ofText? (front ++ '@' :: back) = some parts) :
    parts.digest? = some back := by
  unfold Parts.ofText? at h
  dsimp only at h
  have ⟨d, hd, same⟩ := dropWhile_front front back
  rw [drop_takeWhile (· ≠ '@') (front ++ '@' :: back), hd] at h
  split at h
  case isTrue good =>
    cases h
    simp only [List.tail?_cons, Bool.and_eq_true, Option.all_some] at good
    have clean := not_mem_of_isDigest good.2
    rw [List.tail?_cons, same.resolve_right clean]
  case isFalse => cases h

theorem ofText_ok {text : String} (h : ofText text = .ok r) :
    ∃ parts, Parts.ofText? text.toList = some parts ∧
      r = ⟨(splitName parts.name).1, (splitName parts.name).2,
        if parts.tag?.isNone && parts.digest?.isNone then some defaultTag
        else parts.tag?.map String.ofList, parts.digest?.map String.ofList⟩ := by
  unfold ofText at h
  split at h
  case isTrue  => cases h
  case isFalse =>
    split at h
    case h_1 => cases h
    case h_2 parts hp =>
      dsimp only at h
      split at h
      case isTrue  => cases h
      case isFalse =>
        have ⟨_, _, made⟩ := bind_ok h
        cases made
        exact ⟨parts, hp, rfl⟩

theorem digest?_ofText {text : String} (h : ofText text = .ok r)
    (ht : text.toList = front ++ '@' :: back) : r.digest? = some (String.ofList back) := by
  have ⟨parts, hp, made⟩ := ofText_ok h
  rw [made, digest?_of_parts (ht ▸ hp)]
  rfl

theorem trimChars_pin (pin : IsPin artifact) :
    Text.trimChars artifact.toList = artifact.toList := by
  have ⟨hex, ha, _, digits⟩ := pin
  have printable : Text.IsPrintable artifact.toList := by
    rw [ha, String.toList_append]
    refine .append (by decide) fun c hc => ?_
    rw [String.toList_ofList] at hc
    have bounds := isHexadecimal_bounds (digits c hc)
    omega
  exact printable.trimChars

-- A pin is what the manifest is asked for by.
theorem selector_of_pin {client : Client} (pin : IsPin artifact)
    (h : client.reference artifact = .ok r) : r.selector = artifact := by
  have trimmed := trimChars_pin pin
  have ⟨hex, ha, _⟩ := pin
  have colon : artifact.toList.contains ':' := by
    rw [ha, String.toList_append]
    simp
  unfold Client.reference Address.reference at h
  dsimp only at h
  rw [trimmed, if_pos colon] at h
  split at h
  case h_1 r' hr =>
    cases h
    split at hr
    case isTrue => cases hr
    case isFalse =>
      split at hr
      case h_1 r' found =>
        cases hr
        have text : (client.address.registry ++ "/" ++ client.address.repository ++ "@" ++
            String.ofList artifact.toList).toList =
            (client.address.registry ++ "/" ++ client.address.repository).toList ++
              '@' :: artifact.toList := by simp [String.toList_append]
        have named := digest?_ofText found text
        rw [selector, named, String.ofList_toList]
        rfl
      case h_2 => cases hr
  case h_2 => cases h

end Reference

end ArtifactSync.Registry
