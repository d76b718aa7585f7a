import ArtifactSync.Proofs.Sync.History
import ArtifactSync.Proofs.Sync.Target

namespace ArtifactSync.Pass

open Kubernetes (Secret)
open SecretStore

variable {ρ σ : Type} {config : Config} {name : String} {o : OciSecret} {found : Option OciSecret}
  {fresh filled : Secret} {h : History ρ} {p : Underway ρ} {s : Stage ρ}

-- The store answers with what is stored under the reference it is asked for.
def Addressed (h : History ρ) : Prop :=
  ∀ r s, ⟨.getSecret r, .ok (some s)⟩ ∈ h → Store.key s = r.text

structure Atomic (config : Config) (o : OciSecret) (h : History ρ) (p : Underway ρ) : Prop where
  order    : ∃ fresh filled, (writes h).Sublist [.create fresh, .replace filled]
  target   : ∀ w ∈ writes h, Store.key w.secret = o.spec.target.text
  created  : ∀ s, .create s ∈ writes h → Target.Blank o s ∧ ∃ source current,
    [⟨.fetchDigest source o.spec.artifact, .ok current⟩, ⟨.getSecret o.spec.target, .ok none⟩,
      ⟨.createSecret s, .ok ()⟩] <:+: h
  replaced : ∀ s, .replace s ∈ writes h → p = .done (.ok config.requeueInterval) ∧
    ∃ source content,
      [⟨.fetchContent source o.spec.artifact, .ok content⟩, ⟨.replaceSecret s, .ok ()⟩] <:+ h
  result   : ∀ d, p = .done (.ok d) → d = config.requeueInterval
  unharmed : (∀ d, p ≠ .done (.ok d)) →
    ∀ {σ : Type} [SecretStore σ] [LawfulSecretStore σ] (st st' : σ),
      (writes h).foldlM Write.on st = .ok st' →
        (∀ k s, secret? st k = some s → secret? st' k = some s) ∧
        ∀ k s, secret? st k = none → secret? st' k = some s →
          k = o.spec.target.text ∧ Target.Blank o s

-- A pass is either in the time before the replacement, or it is over with it.
theorem Past.early_or_replaced (past : Past config name s h) :
    (∃ found, Early name found h) ∨
      ∃ o filled, Replaced name o filled h ∧ s = .ended (.ok config.requeueInterval) := by
  cases s with
  | start n =>
    have ⟨hn, hh⟩ := past
    exact .inl ⟨none, hh ▸ ⟨by simp, .inl rfl⟩⟩
  | pull o | clock o | connecting o | resolving o => exact .inl ⟨some o, past.early⟩
  | stuck =>
    have ⟨o, u⟩ := past
    exact .inl ⟨some o, u.early⟩
  | looking o | creating o => exact .inl ⟨some o, past.1.early⟩
  | reading o => exact .inl ⟨some o, past⟩
  | fetching o | replacing o => exact .inl ⟨some o, past.1⟩
  | ended r =>
    cases past with
    | inl early =>
      have ⟨found, p, _⟩ := early
      exact .inl ⟨found, p⟩
    | inr replaced =>
      have ⟨o, filled, rep, hr⟩ := replaced
      exact .inr ⟨o, filled, rep, by rw [hr]⟩

-- Performing the creation of a blank target adds this target and nothing else.
theorem create_unharmed [SecretStore σ] [LawfulSecretStore σ] {st st' : σ}
    (b : Target.Blank o fresh) (h : SecretStore.create st fresh = .ok st') :
    (∀ k s, secret? st k = some s → secret? st' k = some s) ∧
      ∀ k s, secret? st k = none → secret? st' k = some s →
        k = o.spec.target.text ∧ Target.Blank o s := by
  have ⟨absent, v, w⟩ := LawfulSecretStore.create_ok h
  constructor
  case left =>
    intro k s hs
    have hk : k ≠ Store.key fresh := by
      intro hk
      rw [hk, absent] at hs
      cases hs
    rw [w.others k hk, hs]
  case right =>
    intro k s hn hs
    by_cases hk : k = Store.key fresh
    case pos =>
      subst hk
      cases w.stored.symm.trans hs
      exact ⟨b.key, b.stamped⟩
    case neg =>
      rw [w.others k hk, hn] at hs
      cases hs

theorem Created.blank (c : Created o fresh h) : Target.Blank o fresh :=
  Target.blank_of_create c.create

namespace Early

theorem order (e : Early name found h) : ∃ fresh, (writes h).Sublist [.create fresh] := by
  cases e.written with
  | inl hw      => exact ⟨{}, by simp [hw]⟩
  | inr created =>
    have ⟨_, fresh, _, c⟩ := created
    exact ⟨fresh, by simp [c.written]⟩

theorem not_replace (e : Early name found h) (hr : .replace filled ∈ writes h) : False := by
  have ⟨_, sub⟩ := e.order
  have := sub.subset hr
  simp at this

theorem created (e : Early name (some o) h) (hc : .create fresh ∈ writes h) :
    Created o fresh h := by
  cases e.written with
  | inl hw => simp [hw] at hc
  | inr created =>
    have ⟨_, made, ho, c⟩ := created
    cases ho
    simp only [c.written, List.mem_singleton, Write.create.injEq] at hc
    exact hc ▸ c

theorem target {w : Write} (e : Early name (some o) h) (hw : w ∈ writes h) :
    Store.key w.secret = o.spec.target.text := by
  cases w with
  | create _  => exact (e.created hw).blank.key
  | replace _ => exact (e.not_replace hw).elim

theorem unharmed [SecretStore σ] [LawfulSecretStore σ] {st st' : σ} (e : Early name (some o) h)
    (hst : (writes h).foldlM Write.on st = .ok st') :
    (∀ k s, secret? st k = some s → secret? st' k = some s) ∧
      ∀ k s, secret? st k = none → secret? st' k = some s →
        k = o.spec.target.text ∧ Target.Blank o s := by
  cases e.written with
  | inl hw =>
    simp only [hw, List.foldlM_nil] at hst
    cases hst
    exact ⟨fun _ _ hs => hs, fun _ _ hn hs => nomatch hn.symm.trans hs⟩
  | inr created =>
    have ⟨_, fresh, ho, c⟩ := created
    cases ho
    simp only [c.written, List.foldlM_cons, List.foldlM_nil, bind_pure] at hst
    exact create_unharmed c.blank hst

theorem atomic (e : Early name (some o) h)
    (result : ∀ d, p = .done (.ok d) → d = config.requeueInterval) : Atomic config o h p where
  order := by
    have ⟨fresh, sub⟩ := e.order
    exact ⟨fresh, {}, sub.trans (by simp)⟩
  target _ hw   := e.target hw
  created _ hc  := ⟨(e.created hc).blank, (e.created hc).order⟩
  replaced _ hr := (e.not_replace hr).elim
  result        := result
  unharmed _    := fun _ _ hst => e.unharmed hst

end Early

theorem Replaced.written (r : Replaced name o filled h) :
    ∃ before, Early name (some o) before ∧ before <+: h ∧
      writes h = writes before ++ [.replace filled] := by
  have ⟨before, _, _, _, e, _, _, hh⟩ := r
  refine ⟨before, e, hh ▸ List.prefix_append _ _, ?_⟩
  rw [hh, writes_append]
  rfl

theorem Replaced.spec (r : Replaced name o filled h) (o' : OciSecret) :
    ⟨.getSpec name, .ok (some o')⟩ ∈ h ↔ some o = some o' := by
  have ⟨before, _, _, _, e, _, _, hh⟩ := r
  simp [hh, ← e.spec]

theorem Replaced.key (r : Replaced name o filled h) (a : Addressed h) :
    Store.key filled = o.spec.target.text := by
  have ⟨before, target, source, content, _, hs, hf, hh⟩ := r
  rw [hf, Target.key_fill]
  refine a _ _ ?_
  have := hs.subset List.mem_cons_self
  simp [hh, this]

theorem Replaced.fetched (r : Replaced name o filled h) : ∃ source content,
    [⟨.fetchContent source o.spec.artifact, .ok content⟩,
      ⟨.replaceSecret filled, .ok ()⟩] <:+ h := by
  have ⟨before, target, source, content, _, hs, _, hh⟩ := r
  have := (List.suffix_cons _ _).trans hs
  exact ⟨source, content, hh ▸ List.suffix_append_self_iff.2 this⟩

theorem Replaced.atomic (r : Replaced name o filled h) (a : Addressed h) :
    Atomic config o h (.done (.ok config.requeueInterval)) := by
  have ⟨before, e, hp, hw⟩ := r.written
  exact {
    order := by
      have ⟨fresh, sub⟩ := e.order
      exact ⟨fresh, filled, hw ▸ sub.append (.refl [Write.replace filled])⟩
    target w hm := by
      simp only [hw, List.mem_append, List.mem_singleton] at hm
      cases hm with
      | inl hm => exact e.target hm
      | inr hm => exact hm ▸ r.key a
    created s hm := by
      simp only [hw, List.mem_append, List.mem_singleton, reduceCtorEq, or_false] at hm
      have ⟨source, current, order⟩ := (e.created hm).order
      exact ⟨(e.created hm).blank, source, current, order.trans hp.isInfix⟩
    replaced s hm := by
      simp only [hw, List.mem_append, List.mem_singleton, Write.replace.injEq] at hm
      cases hm with
      | inl hm => exact (e.not_replace hm).elim
      | inr hm => exact ⟨rfl, hm ▸ r.fetched⟩
    result _ hd := by
      cases hd
      rfl
    unharmed hn := absurd rfl (hn _)
  }

theorem Past.result {d : Duration} (past : Past config name (.ended (.ok d)) h) :
    d = config.requeueInterval := by
  cases past with
  | inl early =>
    have ⟨_, _, hd⟩ := early
    exact hd d rfl
  | inr replaced =>
    have ⟨_, _, _, hd⟩ := replaced
    cases hd
    rfl

-- A pass that has not been told a desired state is at its first call, or it is over.
theorem reconcile_atomic (r : (reconcile config name).run.Reaches h p) (a : Addressed h) :
    (∀ o, ⟨.getSpec name, .ok (some o)⟩ ∈ h → Atomic config o h p) ∧
      ((∀ o, ⟨.getSpec name, .ok (some o)⟩ ∉ h) →
        writes h = [] ∧ ∀ d, p = .done (.ok d) → d = config.requeueInterval) := by
  have ⟨s, u, past⟩ := past_of_reaches r
  have result : ∀ d, p = .done (.ok d) → d = config.requeueInterval := by
    intro d hd
    subst hd
    have hs := u.done
    subst hs
    exact past.result
  cases past.early_or_replaced with
  | inl early =>
    have ⟨found, e⟩ := early
    constructor
    case left =>
      intro o ho
      have := (e.spec o).1 ho
      subst this
      exact e.atomic result
    case right =>
      intro missing
      refine ⟨?_, result⟩
      cases e.written with
      | inl hw => exact hw
      | inr created =>
        have ⟨o, _, ho, _⟩ := created
        exact absurd ((e.spec o).2 ho) (missing o)
  | inr replaced =>
    have ⟨o, filled, rep, hs⟩ := replaced
    subst hs
    have hp := u.of_ended
    subst hp
    constructor
    case left =>
      intro o' ho
      cases (rep.spec o').1 ho
      exact rep.atomic a
    case right =>
      intro missing
      exact absurd ((rep.spec o).2 rfl) (missing o)

theorem reconcile_atomic_sample : ∃ filled,
    (reconcile {} "site").run.Reaches (Sample.history ++ [⟨.replaceSecret filled, .ok ()⟩])
      (.done (.ok (.ofSeconds 60))) ∧
    Atomic {} Sample.desired (Sample.history ++ [⟨.replaceSecret filled, .ok ()⟩])
      (.done (.ok (.ofSeconds 60))) := by
  have ⟨p, r, u⟩ := (Stage.start_unfolds {} "site").reaches Sample.steps
  have ⟨f, hp, u⟩ := u.asks rfl
  have r := (hp ▸ r).snoc (.ok ())
  rw [(u (.ok ())).of_ended] at r
  refine ⟨_, r, (reconcile_atomic r ?_).1 Sample.desired List.mem_cons_self⟩
  intro r s hs
  simp [Sample.history] at hs
  exact hs.1 ▸ hs.2 ▸ rfl

end ArtifactSync.Pass
