import ArtifactSync.Kubernetes.Discovery

namespace ArtifactSync.Kubernetes

namespace Version

variable {a b c : Version} {m n : List Char}

-- By stability and numbers, and names that tell neither against their own order.
theorem outranks_iff : a.outranks b ↔
    b.rank < a.rank ∨ ∃ m n, a = other m ∧ b = other n ∧ m < n := by
  cases a <;> cases b
  case other.other => simp [outranks, rank]
  all_goals simp only [outranks, decide_eq_true_eq, reduceCtorEq, false_and, and_false,
    exists_false, or_false]

theorem outranks_other_iff : (other m).outranks (other n) ↔ m < n :=
  decide_eq_true_iff

theorem eq_other_of_not_rank_lt (low : ¬(other n).rank < c.rank) : ∃ k, c = other k := by
  cases c with
  | other k => exact ⟨k, rfl⟩
  | _       => exact absurd (List.cons_lt_cons_iff.2 (.inl (by decide))) low

-- What is no more than one version is outranked by all that outrank that one.
theorem outranks_of_not_outranks (above : a.outranks b) (least : ¬c.outranks b) : a.outranks c := by
  have low : ¬b.rank < c.rank := fun h => least (outranks_iff.2 (.inl h))
  rcases outranks_iff.1 above with less | ⟨m, n, ha, hb, less⟩
  case inl => exact outranks_iff.2 (.inl (List.lt_of_le_of_lt low less))
  case inr =>
    subst ha hb
    have ⟨k, hc⟩ := eq_other_of_not_rank_lt low
    subst hc
    rw [outranks_other_iff] at least ⊢
    exact Std.lt_of_lt_of_le less (Std.not_lt.1 least)

theorem not_outranks_of_outranks (above : a.outranks b) : ¬b.outranks a := by
  intro below
  rcases outranks_iff.1 above with less | ⟨m, n, ha, hb, less⟩
  case inr =>
    subst ha hb
    exact Std.lt_irrefl (Std.lt_trans less (outranks_other_iff.1 below))
  case inl =>
    rcases outranks_iff.1 below with more | ⟨m, n, hb, ha, _⟩
    case inl => exact Std.lt_irrefl (Std.lt_trans less more)
    case inr =>
      subst ha hb
      exact Std.lt_irrefl less

end Version

namespace Discovery

variable {v w best : String} {vs : List String}

def Outranks (v w : String) : Prop :=
  (Version.ofName v).outranks (Version.ofName w)

instance : Decidable (Outranks v w) :=
  inferInstanceAs (Decidable (_ = true))

-- The first of those that none of the others outranks.
def IsLatest (v : String) (vs : List String) : Prop :=
  ∃ before after, vs = before ++ v :: after ∧ (∀ w ∈ before, Outranks v w) ∧
    ∀ w ∈ after, ¬Outranks w v

namespace IsLatest

-- Nor does a version behind the first one outrank it.
theorem not_outranks (h : IsLatest v vs) (hw : w ∈ vs) : ¬Outranks w v := by
  have ⟨before, after, split, above, below⟩ := h
  rw [split, List.mem_append, List.mem_cons] at hw
  rcases hw with hw | rfl | hw
  · exact Version.not_outranks_of_outranks (above w hw)
  · exact fun h => Version.not_outranks_of_outranks h h
  · exact below w hw

-- One more in front, which is outranked by the next.
theorem cons (h : IsLatest v (w :: vs)) (above : Outranks w best) :
    IsLatest v (best :: w :: vs) := by
  have least : ¬Outranks w v := h.not_outranks List.mem_cons_self
  have first : Outranks v best :=
    Decidable.of_not_not fun h => least (Version.outranks_of_not_outranks above h)
  have ⟨before, after, split, before_below, after_below⟩ := h
  refine ⟨best :: before, after, congrArg _ split, ?_, after_below⟩
  exact List.forall_mem_cons.2 ⟨first, before_below⟩

-- One more behind the first, which does not outrank it.
theorem insert (h : IsLatest v (best :: vs)) (below : ¬Outranks w best) :
    IsLatest v (best :: w :: vs) := by
  have ⟨before, after, split, before_below, after_below⟩ := h
  cases before with
  | nil           =>
    cases split
    exact ⟨[], w :: vs, rfl, before_below, List.forall_mem_cons.2 ⟨below, after_below⟩⟩
  | cons _ before =>
    cases split
    have ⟨first, before_below⟩ := List.forall_mem_cons.1 before_below
    have second : Outranks v w := Version.outranks_of_not_outranks first below
    refine ⟨best :: w :: before, after, rfl, ?_, after_below⟩
    exact List.forall_mem_cons.2 ⟨first, List.forall_mem_cons.2 ⟨second, before_below⟩⟩

theorem mem (h : IsLatest v vs) : v ∈ vs := by
  have ⟨before, after, split, _⟩ := h
  rw [split]
  exact List.mem_append_right before List.mem_cons_self

theorem unique (h : IsLatest v vs) (h' : IsLatest w vs) : v = w := by
  have ⟨before, after, split, above, _⟩ := h
  have ⟨before', after', split', above', _⟩ := h'
  -- The one that stands in front of the other would be outranked by it.
  rcases List.append_eq_append_iff.1 (split.symm.trans split')
    with ⟨c, front, back⟩ | ⟨c, front, back⟩
  case inl =>
    cases c with
    | nil      => exact (List.cons.inj back).1
    | cons _ c =>
      cases back
      exact absurd (above' v (by simp [front])) (h.not_outranks h'.mem)
  case inr =>
    cases c with
    | nil      => exact (List.cons.inj back).1.symm
    | cons _ c =>
      cases back
      exact absurd (above w (by simp [front])) (h'.not_outranks h.mem)

end IsLatest

theorem isLatest_of_latest (h : latest vs = some v) : IsLatest v vs := by
  cases vs with
  | nil          => cases h
  | cons best vs =>
    cases h
    induction vs generalizing best with
    | nil          => exact ⟨[], [], rfl, nofun, nofun⟩
    | cons w vs hi =>
      rw [List.foldl_cons]
      split
      case isTrue above   => exact (hi w).cons above
      case isFalse below => exact (hi best).insert below

theorem latest_eq_some_iff : latest vs = some v ↔ IsLatest v vs := by
  constructor
  case mp  => exact isLatest_of_latest
  case mpr =>
    intro h
    cases hl : latest vs with
    | none   =>
      cases vs with
      | nil      => exact absurd h.mem List.not_mem_nil
      | cons _ _ => cases hl
    | some w => rw [(isLatest_of_latest hl).unique h]

end Discovery

end ArtifactSync.Kubernetes
