import ArtifactSync.Proofs.Registry.Reference
import ArtifactSync.Registry.Address

namespace ArtifactSync.Registry.Reference

open Address (lastSegment)

variable {cs front back name tag digest : List Char} {digest? : Option (List Char)} {c d : Char}

theorem isComponentFrom_cons {last : Last} (h : isComponentFrom last (d :: cs)) :
    (isLowerOrDigit d ∨ d ∈ ['.', '_', '-']) ∧ ∃ last', isComponentFrom last' cs := by
  cases last with
  | separator | word | underscore | hyphen =>
    rw [isComponentFrom] at h
    grind

theorem not_mem_of_isComponentFrom {last : Last} (h : isComponentFrom last cs)
    (hl : isLowerOrDigit c = false) (hc : c ∉ ['.', '_', '-']) : c ∉ cs := by
  induction cs generalizing last with
  | nil            => exact List.not_mem_nil
  | cons d rest hi =>
    have ⟨here, last', there⟩ := isComponentFrom_cons h
    rw [List.mem_cons, not_or]
    exact ⟨by grind, hi there⟩

-- Neither a port nor a digest is in a path.
theorem not_mem_of_isPath (h : (Text.splitOn '/' cs).all isComponent) : ':' ∉ cs ∧ '@' ∉ cs := by
  rw [List.all_eq_true] at h
  have foreign {c : Char} (hs : c ≠ '/') (hl : isLowerOrDigit c = false)
      (hc : c ∉ ['.', '_', '-']) : c ∉ cs := by
    intro mem
    have ⟨piece, hp, mem⟩ := Text.exists_mem_splitOn '/' mem hs
    exact not_mem_of_isComponentFrom (h piece hp) hl hc mem
  constructor <;> apply foreign <;> decide

theorem not_mem_of_isDomainLabel (h : isDomainLabel cs) : '@' ∉ cs := by
  unfold isDomainLabel at h
  simp only [Bool.and_eq_true, List.all_eq_true] at h
  exact fun mem => absurd (h.1.1 _ mem) (by decide)

theorem not_mem_of_labels (h : ∀ label ∈ Text.splitOn '.' cs, isDomainLabel label) :
    '@' ∉ cs := by
  intro mem
  have ⟨label, hl, mem⟩ := Text.exists_mem_splitOn '.' mem (by decide)
  exact not_mem_of_isDomainLabel (h label hl) mem

theorem not_mem_of_isDomain (h : isDomain cs) : '@' ∉ cs := by
  unfold isDomain at h
  simp only [Bool.and_eq_true, List.all_eq_true, drop_takeWhile] at h
  rw [← List.takeWhile_append_dropWhile (p := (· ≠ ':')) (l := cs), List.mem_append, not_or]
  constructor
  case left  => exact not_mem_of_labels h.1
  case right =>
    have port := h.2
    have last := List.head?_dropWhile_not (· ≠ ':') cs
    cases hp : cs.dropWhile (· ≠ ':') with
    | nil               => exact List.not_mem_nil
    | cons colon digits =>
      rw [hp] at port last
      simp only [List.head?_cons, decide_not, Bool.not_eq_false', decide_eq_true_eq] at last
      simp only [Bool.and_eq_true, List.all_eq_true] at port
      rw [List.mem_cons, not_or]
      exact ⟨by simp [last], fun mem => absurd (port.2 _ mem) (by decide)⟩

-- A colon in a name belongs to the port of its domain.
theorem isName_plain (h : isName cs) (hs : '/' ∉ cs) : ':' ∉ cs ∧ '@' ∉ cs := by
  have plain := Text.splitOn_of_not_mem hs
  unfold isName isPath at h
  rw [plain] at h
  refine not_mem_of_isPath ?_
  rw [plain]
  simpa using h

theorem isName_append (h : isName (front ++ '/' :: back)) (hs : '/' ∉ front) :
    '@' ∉ front ∧ ':' ∉ back ∧ '@' ∉ back := by
  unfold isName isPath at h
  rw [Text.splitOn_append back hs] at h
  simp only [Bool.or_eq_true, Bool.and_eq_true, List.all_cons] at h
  cases h with
  | inl path   =>
    have ⟨_, first, rest⟩ := path
    exact ⟨not_mem_of_isComponentFrom first (by decide) (by decide), not_mem_of_isPath rest⟩
  | inr domain => exact ⟨not_mem_of_isDomain domain.1, not_mem_of_isPath domain.2.2⟩

-- The last segment is behind the last slash, so it is in what follows any slash.
theorem mem_of_mem_lastSegment (h : c ∈ lastSegment (front ++ '/' :: back)) : c ∈ back := by
  unfold lastSegment at h
  rw [List.mem_reverse, List.reverse_append, List.reverse_cons, List.append_assoc] at h
  by_cases hs : '/' ∈ back.reverse
  case pos =>
    have ⟨as, bs, hb, ha⟩ := List.eq_append_cons_of_mem hs
    rw [hb, List.append_assoc, List.cons_append, Text.takeWhile_ne_cons _ ha] at h
    rw [← List.mem_reverse, hb]
    exact List.mem_append_left _ h
  case neg =>
    rw [List.singleton_append, Text.takeWhile_ne_cons _ hs] at h
    exact List.mem_reverse.1 h

theorem lastSegment_append (h : '/' ∉ back) :
    lastSegment (front ++ back) = lastSegment front ++ back := by
  unfold lastSegment
  rw [List.reverse_append, Text.takeWhile_ne_append _ (by simpa using h), List.reverse_append,
    List.reverse_reverse]

-- The parts of a text, once the digest is cut off.
def Parts.ofFront? (front : List Char) (digest? : Option (List Char)) : Option Parts :=
  let segment := lastSegment front
  let plain := segment.takeWhile (· ≠ ':')
  let tag? := (segment.drop plain.length).tail?
  let name := front.take (front.length - (segment.length - plain.length))
  if isName name && tag?.all isTag && digest?.all isDigest then some ⟨name, tag?, digest?⟩ else none

theorem ofText?_plain (h : '@' ∉ cs) : Parts.ofText? cs = Parts.ofFront? cs none := by
  have front := Text.takeWhile_ne_self h
  unfold Parts.ofText?
  rw [front]
  simp [Parts.ofFront?, lastSegment]

theorem ofText?_pinned (h : '@' ∉ front) :
    Parts.ofText? (front ++ '@' :: back) = Parts.ofFront? front (some back) := by
  have front := Text.takeWhile_ne_cons back h
  unfold Parts.ofText?
  rw [front]
  simp [Parts.ofFront?, lastSegment]

theorem ofFront?_untagged (h : ':' ∉ lastSegment front) :
    Parts.ofFront? front digest? =
      if isName front && digest?.all isDigest then some ⟨front, none, digest?⟩ else none := by
  unfold Parts.ofFront?
  dsimp only
  rw [Text.takeWhile_ne_self h]
  simp

theorem ofFront?_tagged (h : ':' ∉ lastSegment name) (hs : '/' ∉ tag) :
    Parts.ofFront? (name ++ ':' :: tag) digest? =
      if isName name && isTag tag && digest?.all isDigest then some ⟨name, some tag, digest?⟩
      else none := by
  have segment : lastSegment (name ++ ':' :: tag) = lastSegment name ++ ':' :: tag :=
    lastSegment_append (by simp [hs])
  unfold Parts.ofFront?
  dsimp only
  rw [segment, Text.takeWhile_ne_cons _ h]
  simp

theorem isDigest_of_ofFront? {parts : Parts}
    (h : Parts.ofFront? front (some digest) = some parts) : isDigest digest := by
  have ⟨good, _⟩ := Option.ite_none_right_eq_some.1 h
  rw [Bool.and_eq_true] at good
  exact good.2

theorem colon_mem_of_isDigest (h : isDigest cs) : ':' ∈ cs := by
  unfold isDigest at h
  rw [Bool.and_eq_true, drop_takeWhile] at h
  by_cases hc : ':' ∈ cs
  case pos => exact hc
  case neg =>
    rw [Text.dropWhile_ne_self hc] at h
    cases h.2

end ArtifactSync.Registry.Reference
