import ArtifactSync.Proofs.Sync.Schedule
import ArtifactSync.Proofs.Sync.Target

namespace ArtifactSync.Pass

open Kubernetes (Secret)
open Interaction (Turn)
open SecretStore Target

variable {ρ σ : Type} [SecretStore σ] {config : Config} {name : String} {o o' : OciSecret}
  {F : Digest → FileMap} {s fresh target : Secret} {content : Content} {st st' : σ}
  {a b : Scene σ ρ} {e : Event ρ} {es : List (Event ρ)}

-- What owns a target and what goes into it are the same in both.
structure SameDesire (o o' : OciSecret) : Prop where
  spec : o'.spec = o.spec
  name : o'.metadata.name = o.metadata.name
  uid  : o'.metadata.uid = o.metadata.uid

theorem SameDesire.refl (o : OciSecret) : SameDesire o o :=
  ⟨rfl, rfl, rfl⟩

theorem SameDesire.ownerReference? (d : SameDesire o o') :
    Target.ownerReference? o' = Target.ownerReference? o := by
  simp [Target.ownerReference?, d.name, d.uid]

-- The files are those of the artifact that the target was filled from last.
def FilledFrom (F : Digest → FileMap) (allow : List String) (s : Secret) : Prop :=
  ∃ d, d ≠ sentinel ∧ lastDigest? s = some d ∧ s.data = some ((F d).restrictTo allow)

structure Fits (o : OciSecret) (F : Digest → FileMap) (s : Secret) : Prop where
  key     : Store.key s = o.spec.target.text
  owned   : OwnedBy o s
  content : (lastDigest? s = some sentinel ∧ s.data = none) ∨ FilledFrom F o.spec.allowList s

theorem Fits.stamped {v : String} (h : Fits o F s) : Fits o F (stamped s v) where
  key     := h.key
  owned   := h.owned
  content := h.content

theorem fits_of_create (d : SameDesire o o') (h : Target.create o' = .ok fresh) :
    Fits o F fresh where
  key := by
    rw [(blank_of_create h).key, d.spec]
  owned := by
    have := (blank_of_create h).owned
    rwa [OwnedBy, d.ownerReference?] at this
  content := .inl ⟨(blank_of_create h).digest, (blank_of_create h).data⟩

theorem Fits.fill (h : Fits o F target) (hd : content.digest ≠ sentinel)
    (hf : content.files = F content.digest) :
    Fits o F (Target.fill target (content.restrictTo o.spec.allowList)) where
  key     := h.key
  owned   := h.owned
  content := .inr ⟨content.digest, hd, lastDigest?_fill, by rw [← hf]; rfl⟩

-- The desired state stays what it is, and the registry has one content for each digest.
def Lawful (o : OciSecret) (F : Digest → FileMap) : Turn (Answer (ρ := ρ)) → Prop
  | ⟨.getSpec _, .ok (some o')⟩ => SameDesire o o'
  | ⟨.fetchContent .., .ok content⟩ =>
    content.digest ≠ sentinel ∧ content.files = F content.digest
  | _ => True

-- Other writers may delete the target, and may write any secret but the target.
def Event.Lawful (o : OciSecret) (F : Digest → FileMap) : Event ρ → Prop
  | turn t  => Pass.Lawful o F t
  | write s => Store.key s ≠ o.spec.target.text
  | _       => True

-- What a pass carries along to write it later.
def Ready (o : OciSecret) (F : Digest → FileMap) : Stage ρ → Prop
  | .start _ | .stuck | .ended _ => True
  | .pull o' _ | .clock o' _ | .connecting o' _ _ | .resolving o' _ | .looking o' _ _
  | .reading o' _ _ => SameDesire o o'
  | .creating o' _ _ fresh => SameDesire o o' ∧ Fits o F fresh
  | .fetching o' _ target => SameDesire o o' ∧ Fits o F target
  | .replacing o' target content =>
    SameDesire o o' ∧ Fits o F target ∧ content.digest ≠ sentinel ∧ content.files = F content.digest

theorem ready_given {α : Type} {go : α → Stage ρ} {x : Except Error α}
    (ok : ∀ a, x = .ok a → Ready o F (go a)) : Ready o F (.given go x) := by
  cases x with
  | ok a    => exact ok a rfl
  | error _ => exact trivial

-- One answer more, where a target that was read was one that fits.
theorem Ready.next {stage : Stage ρ} {c : Call ρ} {go : Answer c → Stage ρ} {x : Answer c}
    (h : Ready o F stage) (hn : stage.next config = some ⟨c, go⟩) (lawful : Lawful o F ⟨c, x⟩)
    (read : ∀ s, (⟨c, x⟩ : Turn (Answer (ρ := ρ))) = ⟨.getSecret o.spec.target, .ok (some s)⟩ →
      Fits o F s) : Ready o F (go x) := by
  cases stage with
  | start n =>
    cases hn
    match x with
    | .ok (some o') =>
      change Ready o F (.given _ o'.validate)
      refine ready_given fun _ _ => ?_
      cases o'.spec.pullSecretRef <;> exact lawful
    | .ok none      => exact trivial
    | .error _      => exact trivial
  | pull o' r =>
    cases hn
    match x with
    | .ok (some s) =>
      change Ready o F (.given _ (PullCredential.ofSecret s))
      exact ready_given fun _ _ => h
    | .ok none     => exact trivial
    | .error _     => exact trivial
  | clock o' credential =>
    cases hn
    dsimp only
    cases Instant.add? x config.registryTimeout with
    | some _ => exact h
    | none   => exact trivial
  | stuck =>
    cases hn
    cases x
  | connecting o' credential deadline =>
    cases hn
    exact ready_given fun _ _ => h
  | resolving o' source =>
    cases hn
    exact ready_given fun _ _ => h
  | looking o' source current =>
    cases hn
    match x with
    | .ok (some _) => exact h
    | .ok none     =>
      change Ready o F (.given _ (Target.create o'))
      exact ready_given fun _ hc => ⟨h, fits_of_create h hc⟩
    | .error _     => exact trivial
  | creating o' source current fresh =>
    cases hn
    exact ready_given fun _ _ => h.1
  | reading o' source current =>
    cases hn
    match x with
    | .ok (some target) =>
      have fits : Fits o F target := read target (by rw [h.spec])
      dsimp only [Stage.given]
      split
      · exact ⟨h, fits⟩
      · exact trivial
    | .ok none          => exact trivial
    | .error _          => exact trivial
  | fetching o' source target =>
    cases hn
    refine ready_given fun content hx => ?_
    subst hx
    exact ⟨h.1, h.2, lawful⟩
  | replacing o' target content =>
    cases hn
    exact ready_given fun _ _ => trivial
  | ended r => cases hn

-- What a pass writes fits.
theorem Ready.write {stage : Stage ρ} {c : Call ρ} {go : Answer c → Stage ρ} {x : Answer c}
    {w : Write} (h : Ready o F stage) (hn : stage.next config = some ⟨c, go⟩)
    (hw : write? ⟨c, x⟩ = some w) : Fits o F w.secret := by
  cases stage with
  | creating o' source current fresh =>
    cases hn
    cases x with
    | ok _    =>
      cases hw
      exact h.2
    | error _ => cases hw
  | replacing o' target content =>
    cases hn
    have ⟨same, fits, hd, hf⟩ := h
    cases x with
    | ok _    =>
      cases hw
      exact same.spec ▸ fits.fill hd hf
    | error _ => cases hw
  | ended _ => cases hn
  | _ =>
    cases hn
    cases hw

structure Kept (config : Config) (o : OciSecret) (F : Digest → FileMap) (a : Scene σ ρ) : Prop where
  target : ∀ s, secret? a.store o.spec.target.text = some s → Fits o F s
  pass   : ∀ p ∈ a.pass, ∃ stage, Stage.Unfolds config stage p ∧ Ready o F stage

-- A change to the store keeps what fits, if what it writes under the key of the target fits.
theorem fits_of_changed {change : Option Change} (c : Changed st change st')
    (written : ∀ s, change = some (.wrote s) → Store.key s = o.spec.target.text → Fits o F s)
    (h : ∀ s, secret? st o.spec.target.text = some s → Fits o F s)
    (hs : secret? st' o.spec.target.text = some s) : Fits o F s := by
  by_cases touched : ∃ x ∈ change, x.key = o.spec.target.text
  case neg =>
    simp only [not_exists, not_and] at touched
    exact h s (c.others touched ▸ hs)
  case pos =>
    have ⟨x, hx, hk⟩ := touched
    cases c with
    | same      => cases hx
    | wrote w   =>
      cases hx
      rw [← hk] at hs
      cases w.stored.symm.trans hs
      exact (written _ rfl hk).stamped
    | deleted d =>
      cases hx
      rw [← hk] at hs
      cases d.gone.symm.trans hs

variable [LawfulSecretStore σ]

theorem Kept.step (k : Kept config o F a) (step : Step config name a e b) (lawful : e.Lawful o F) :
    Kept config o F b where
  target s hs := by
    refine fits_of_changed step.changed ?_ k.target hs
    intro s hc hk
    cases step with
    | turn serves =>
      have ⟨stage, u, ready⟩ := k.pass _ rfl
      have ⟨go, hn, _⟩ := u.next
      have ⟨w, hw, hs⟩ := Option.map_eq_some_iff.1 hc
      cases hs
      exact ready.write hn hw
    | write w =>
      cases hc
      exact absurd hk lawful
    | start | leave | delete => cases hc
  pass p hp := by
    cases step with
    | start =>
      cases hp
      exact ⟨_, Stage.start_unfolds config name, trivial⟩
    | turn serves =>
      cases hp
      have ⟨stage, u, ready⟩ := k.pass _ rfl
      have ⟨go, hn, u⟩ := u.next
      refine ⟨_, u _, ready.next hn lawful ?_⟩
      intro s ht
      cases ht
      exact k.target s serves.read.1
    | leave => cases hp
    | write | delete => exact k.pass p hp

theorem Kept.run (k : Kept config o F a) (run : Run config name a es b)
    (lawful : ∀ e ∈ es, e.Lawful o F) : Kept config o F b := by
  induction run with
  | refl => exact k
  | snoc _ s hi =>
    have ⟨before, last⟩ := List.forall_mem_append.1 lawful
    exact (hi before).step s (last _ List.mem_cons_self)

-- The target at any time of any run, whichever passes have been left off by then.
theorem target_fits {st₀ : σ} (run : Run config name ⟨st₀, none⟩ es b)
    (absent : secret? st₀ o.spec.target.text = none) (lawful : ∀ e ∈ es, e.Lawful o F)
    (hs : secret? b.store o.spec.target.text = some s) : Fits o F s := by
  have first : Kept config o F (⟨st₀, none⟩ : Scene σ ρ) := {
    target _ h := nomatch absent.symm.trans h
    pass _ h   := nomatch h
  }
  exact (first.run run lawful).target s hs

theorem target_fits_sample :
    Fits Sample.desired (fun _ => Sample.fetched.files) (Store.withVersion Sample.filled 2) := by
  have ⟨p, r, u⟩ := (Stage.start_unfolds {} "site").reaches Sample.steps
  have ⟨next, hp, _⟩ := u.asks rfl
  subst hp
  have run := (Run.started.trans (.of_reaches r Sample.served)).snoc (.turn (.replaced rfl))
  refine target_fits run rfl ?_ rfl
  simp [Sample.history, Sample.fetched, sentinel, Event.Lawful, Lawful, SameDesire.refl]

end ArtifactSync.Pass
