import ArtifactSync.Sync.Store

namespace ArtifactSync

open Kubernetes (Secret)

-- The reads and the writes of a store, and the versions it has given so far.
class SecretStore (σ : Type) where
  secret? : σ → String → Option Secret
  create  : σ → Secret → Except Error σ
  replace : σ → Secret → Except Error σ
  Issued  : σ → String → Prop

namespace SecretStore

variable {σ : Type} [SecretStore σ] {st st' st'' : σ} {s : Secret} {k v : String}

def stamped (s : Secret) (v : String) : Secret :=
  { s with metadata := { s.metadata with resourceVersion := some v } }

structure Wrote (st : σ) (s : Secret) (v : String) (st' : σ) : Prop where
  fresh  : ¬Issued st v
  issued : ∀ w, Issued st' w ↔ w = v ∨ Issued st w
  stored : secret? st' (Store.key s) = some (stamped s v)
  others : ∀ k, k ≠ Store.key s → secret? st' k = secret? st k

structure Deleted (st : σ) (k : String) (st' : σ) : Prop where
  issued : ∀ w, Issued st' w ↔ Issued st w
  gone   : secret? st' k = none
  others : ∀ k', k' ≠ k → secret? st' k' = secret? st k'

-- Each object is stored under its own key, at a version that was given to it.
def Sound (st : σ) : Prop :=
  ∀ k s, secret? st k = some s →
    Store.key s = k ∧ ∃ v, s.metadata.resourceVersion = some v ∧ Issued st v

end SecretStore

open SecretStore in
-- A store that creates nothing that is there, and replaces nothing that is absent or has another
-- version than the one submitted.
class LawfulSecretStore (σ : Type) [SecretStore σ] : Prop where
  create_ok  : ∀ {st st' : σ} {s}, create st s = .ok st' →
    secret? st (Store.key s) = none ∧ ∃ v, Wrote st s v st'
  replace_ok : ∀ {st st' : σ} {s}, replace st s = .ok st' →
    (∃ old, secret? st (Store.key s) = some old ∧
      old.metadata.resourceVersion = s.metadata.resourceVersion) ∧ ∃ v, Wrote st s v st'

open SecretStore in
-- A store that refuses no replacement of what is stored.
class ObligingSecretStore (σ : Type) [SecretStore σ] : Prop where
  replaces : ∀ {st : σ} {s old}, secret? st (Store.key s) = some old →
    old.metadata.resourceVersion = s.metadata.resourceVersion → ∃ st', replace st s = .ok st'

namespace SecretStore

variable {σ : Type} [SecretStore σ] {st st' : σ} {s : Secret} {k v : String}

theorem Wrote.sound (w : Wrote st s v st') (h : Sound st) : Sound st' := by
  intro k s' hs
  by_cases hk : k = Store.key s
  case pos =>
    subst hk
    cases w.stored.symm.trans hs
    exact ⟨rfl, v, rfl, (w.issued v).2 (.inl rfl)⟩
  case neg =>
    have ⟨hk', u, hu, hi⟩ := h k s' ((w.others k hk) ▸ hs)
    exact ⟨hk', u, hu, (w.issued u).2 (.inr hi)⟩

theorem Deleted.sound (d : Deleted st k st') (h : Sound st) : Sound st' := by
  intro k' s' hs
  by_cases hk : k' = k
  case pos =>
    rw [hk, d.gone] at hs
    cases hs
  case neg =>
    have ⟨hk', u, hu, hi⟩ := h k' s' ((d.others k' hk) ▸ hs)
    exact ⟨hk', u, hu, (d.issued u).2 hi⟩

-- What an event can do to a store.
inductive Change
  | wrote (s : Secret)
  | deleted (k : String)

def Change.key : Change → String
  | wrote s   => Store.key s
  | deleted k => k

inductive Changed (st : σ) : Option Change → σ → Prop
  | same : Changed st none st
  | wrote {s : Secret} {v : String} {st' : σ} :
    (Wrote st s v st') → Changed st (some (.wrote s)) st'
  | deleted {k : String} {st' : σ} : (Deleted st k st') → Changed st (some (.deleted k)) st'

-- Whatever is under the key was written after the time of the first store.
def Moved (base : σ) (k : String) (st : σ) : Prop :=
  ∀ s, secret? st k = some s → ∃ v, s.metadata.resourceVersion = some v ∧ ¬Issued base v

namespace Changed

variable {change : Option Change} {base : σ}

theorem sound (c : Changed st change st') (h : Sound st) : Sound st' := by
  cases c with
  | same      => exact h
  | wrote w   => exact w.sound h
  | deleted d => exact d.sound h

theorem issued (c : Changed st change st') (h : Issued st v) : Issued st' v := by
  cases c with
  | same      => exact h
  | wrote w   => exact (w.issued v).2 (.inr h)
  | deleted d => exact (d.issued v).2 h

theorem others (c : Changed st change st') (h : ∀ x ∈ change, x.key ≠ k) :
    secret? st' k = secret? st k := by
  cases c with
  | same      => rfl
  | wrote w   => exact w.others k (h _ rfl).symm
  | deleted d => exact d.others k (h _ rfl).symm

theorem moves {x : Change} (c : Changed st (some x) st')
    (older : ∀ v, Issued base v → Issued st v) : Moved base x.key st' := by
  intro s' hs
  cases c with
  | wrote w   =>
    cases w.stored.symm.trans hs
    exact ⟨_, rfl, fun hb => w.fresh (older _ hb)⟩
  | deleted d => cases d.gone.symm.trans hs

theorem moved (c : Changed st change st') (older : ∀ v, Issued base v → Issued st v)
    (m : Moved base k st) : Moved base k st' := by
  by_cases h : ∃ x ∈ change, x.key = k
  case pos =>
    have ⟨x, hx, hk⟩ := h
    cases hx
    subst hk
    exact c.moves older
  case neg =>
    simp only [not_exists, not_and] at h
    intro s hs
    exact m s (c.others h ▸ hs)

end Changed

end SecretStore

namespace Store

instance : SecretStore Store where
  secret? st k := st.secrets.find? k
  create       := create
  replace      := replace
  Issued st v  := ∃ n ≤ st.writes, v = toString n

open SecretStore

variable {st : Store} {s : Secret}

theorem toString_inj {n m : Nat} (h : toString n = toString m) : n = m := by
  have := congrArg String.toList h
  simp only [Nat.toString_eq_repr, Nat.toList_repr] at this
  rw [← Nat.ofDigitChars_ten_toDigits (n := n), this, Nat.ofDigitChars_ten_toDigits]

theorem wrote_put : Wrote st s (toString (st.writes + 1)) (st.put s) where
  fresh h := by
    have ⟨n, hn, he⟩ := h
    have := toString_inj he
    omega
  issued w := by
    constructor
    case mp =>
      intro ⟨n, hn, hw⟩
      cases Nat.le_succ_iff.1 hn with
      | inl h => exact .inr ⟨n, h, hw⟩
      | inr h => exact .inl (by rw [hw, h])
    case mpr =>
      intro h
      cases h with
      | inl hw => exact ⟨_, Nat.le_refl _, hw⟩
      | inr hi =>
        have ⟨n, hn, hw⟩ := hi
        exact ⟨n, Nat.le_succ_of_le hn, hw⟩
  stored      := Dict.find?_insert_self _ _ _
  others k hk := (Dict.find?_insert _ _ _ _).trans (if_neg hk)

theorem deleted_delete {k : String} : Deleted st k (st.delete k) where
  issued _     := .rfl
  gone         := (Dict.find?_filter _ _ _).trans (if_neg (by simp))
  others k' hk := (Dict.find?_filter _ _ _).trans (if_pos (by simpa using hk))

instance : LawfulSecretStore Store where
  create_ok {st st' s} h := by
    change st.create s = _ at h
    unfold create at h
    split at h
    case h_1 => cases h
    case h_2 hs =>
      cases h
      exact ⟨hs, _, wrote_put⟩
  replace_ok {st st' s} h := by
    change st.replace s = _ at h
    unfold replace at h
    split at h
    case isTrue hc =>
      cases h
      refine ⟨?_, _, wrote_put⟩
      unfold isCurrent at hc
      split at hc
      case h_1 old ho => exact ⟨old, ho, of_decide_eq_true hc⟩
      case h_2        => cases hc
    case isFalse => cases h

instance : ObligingSecretStore Store where
  replaces {st s old} there same := by
    have current : st.isCurrent s = true := by
      change st.secrets.find? (key s) = some old at there
      simp [isCurrent, there, same]
    exact ⟨st.put s, if_pos current⟩

theorem sound_empty : Sound ({} : Store) :=
  fun _ _ h => nomatch h

end Store

end ArtifactSync
