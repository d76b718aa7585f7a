import ArtifactSync.Proofs.Sync.Twin

namespace ArtifactSync.Pass

open Kubernetes (Secret)
open SecretStore

variable {ρ σ : Type} {config : Config} {name₁ name₂ : String} {o o₁ o₂ : OciSecret}
  {t t₁ t₂ d d₁ d₂ : Instant} {h h₁ h₂ : History ρ} {r r₁ r₂ r₁' r₂' : Except Error Duration}
  {s s₁ s₂ : Stage ρ}

-- A pass over the one neither writes nor reads what a pass over the other writes.
structure Apart (o o' : OciSecret) : Prop where
  target : o.spec.target.text ≠ o'.spec.target.text
  pull   : ∀ r, o.spec.pullSecretRef = some r → r.text ≠ o'.spec.target.text

namespace World

variable {w : World ρ} [SecretStore σ] {st st' st₀ st₁ st₂ st₂' : σ}

-- The calls of two passes in any order, one answered before the next one is made. Time goes by as
-- it likes.
inductive Together (w : World ρ) : σ → History ρ → History ρ → σ → Prop
  | refl {st : σ} : Together w st [] [] st
  | first {t : Instant} {st st₁ st' : σ} {c : Call ρ} {x : Answer c} {h₁ h₂ : History ρ} :
    ((w.later t).answer st c = some (x, st₁)) → Together w st₁ h₁ h₂ st' →
    Together w st (⟨c, x⟩ :: h₁) h₂ st'
  | second {t : Instant} {st st₁ st' : σ} {c : Call ρ} {x : Answer c} {h₁ h₂ : History ρ} :
    ((w.later t).answer st c = some (x, st₁)) → Together w st₁ h₁ h₂ st' →
    Together w st h₁ (⟨c, x⟩ :: h₂) st'

-- One pass after the other, the first at one time and the second at another.
def InTurn (w : World ρ) (config : Config) (name₁ name₂ : String) (t₁ t₂ : Instant) (st : σ)
    (r₁ r₂ : Except Error Duration) (st' : σ) : Prop :=
  ∃ h₁ h₂ st₁, (w.later t₁).Completes config name₁ st h₁ r₁ st₁ ∧
    (w.later t₂).Completes config name₂ st₁ h₂ r₂ st'

-- There is one way for that to end.
theorem InTurn.unique (i : w.InTurn config name₁ name₂ t₁ t₂ st r₁ r₂ st₂)
    (i' : w.InTurn config name₁ name₂ t₁ t₂ st r₁' r₂' st₂') :
    r₁ = r₁' ∧ r₂ = r₂' ∧ st₂ = st₂' := by
  have ⟨_, _, _, first, second⟩ := i
  have ⟨_, _, _, first', second'⟩ := i'
  have ⟨_, hr, hs⟩ := first.unique first'
  subst hs
  have ⟨_, hr', hs'⟩ := second.unique second'
  exact ⟨hr, hr', hs'⟩

theorem Together.symm (together : w.Together st h₁ h₂ st') : w.Together st h₂ h₁ st' := by
  induction together with
  | refl           => exact .refl
  | first ha _ hi  => exact .second ha hi
  | second ha _ hi => exact .first ha hi

variable [LawfulSecretStore σ] [ImpartialSecretStore σ]

-- The run: the first pass does alone what it did in company, in any store that differs in the
-- target of the second pass and in versions at most. The induction is on the calls of both passes;
-- one of the first pass is matched by its twin, and one of the second touches nothing that the
-- first sees.
theorem Together.alone (together : w.Together st h₁ h₂ st')
    (steps₁ : Stage.Steps config s₁ h₁ (.ended r₁)) (steps₂ : Stage.Steps config s₂ h₂ (.ended r₂))
    (holds₁ : Holds w o₁ st s₁) (holds₂ : Holds w o₂ st s₂) (twin : Twin w s₁ s)
    (holds : Holds w o₁ st₀ s) (keyed : Keyed st) (keyed₀ : Keyed st₀)
    (alike : ∀ k, k ≠ o₂.spec.target.text → AlikeAt st st₀ k) (apart : Apart o₁ o₂)
    (steady : w.Steady) (clock : t.add? config.registryTimeout = some d) :
    ∃ h st₁, (w.later t).Finishes config s st₀ h r₁ st₁ ∧ Touched o₁.spec.target.text st₀ st₁ ∧
      ∀ k, k ≠ o₂.spec.target.text → AlikeAt st' st₁ k := by
  induction together generalizing s₁ s₂ s st₀ with
  | refl            =>
    cases steps₁
    cases twin
    exact ⟨[], st₀, finishes_ended.2 ⟨rfl, rfl, rfl⟩, .refl, alike⟩
  | first ha _ hi  =>
    cases steps₁ with
    | step hn steps₁ =>
      have ⟨c, go, x, st₀', hn', ha', twin, kept⟩ := twin.next hn ha holds₁ holds keyed steady clock
        (alike _ apart.target) fun r hr => alike _ (apart.pull r hr)
      have ⟨holds₁, touched⟩ := holds₁.next keyed hn ha
      have ⟨holds, touched₀⟩ := holds.next keyed₀ hn' ha'
      have holds₂ := holds₂.of_eq (touched.others _ apart.target.symm)
      have ⟨h, st₁, finishes, touched₁, alike⟩ := hi steps₁ steps₂ holds₁ holds₂ twin holds
        (touched.keyed keyed) (touched₀.keyed keyed₀) fun k hk => kept k (alike k hk)
      exact ⟨_, st₁, (finishes_step hn' ha').2 ⟨h, rfl, finishes⟩, touched₀.trans touched₁, alike⟩
  | second ha _ hi =>
    cases steps₂ with
    | step hn steps₂ =>
      have ⟨holds₂, touched⟩ := holds₂.next keyed hn ha
      have holds₁ := holds₁.of_eq (touched.others _ apart.target)
      refine hi steps₁ steps₂ holds₁ holds₂ twin holds (touched.keyed keyed) keyed₀ fun k hk => ?_
      unfold AlikeAt
      rw [touched.others k hk]
      exact alike k hk

-- All that two passes have done together they do one after the other.
theorem Together.inTurn (together : w.Together st h₁ h₂ st')
    (reaches₁ : (reconcile config name₁).run.Reaches h₁ (.done r₁))
    (reaches₂ : (reconcile config name₂).run.Reaches h₂ (.done r₂))
    (spec₁ : w.spec name₁ = .ok (some o₁)) (spec₂ : w.spec name₂ = .ok (some o₂))
    (keyed : Keyed st) (apart₁ : Apart o₁ o₂) (apart₂ : Apart o₂ o₁) (steady : w.Steady)
    (clock₁ : t₁.add? config.registryTimeout = some d₁)
    (clock₂ : t₂.add? config.registryTimeout = some d₂) :
    ∃ st₂, w.InTurn config name₁ name₂ t₁ t₂ st r₁ r₂ st₂ ∧ ∀ k, AlikeAt st' st₂ k := by
  have steps₁ := reaches_iff_steps.1 reaches₁
  have steps₂ := reaches_iff_steps.1 reaches₂
  have ⟨h₁', st₁, alone₁, touched₁, alike₁⟩ := together.alone steps₁ steps₂ spec₁ spec₂ .start spec₁
    keyed keyed (fun _ _ => .refl) apart₁ steady clock₁
  -- The second pass begins where the first one has left the store, at a target that is not its own.
  have begins (k) (hk : k ≠ o₁.spec.target.text) : AlikeAt st st₁ k :=
    congrArg (Option.map unversioned) (touched₁.others k hk).symm
  have ⟨h₂', st₂, alone₂, touched₂, alike₂⟩ := together.symm.alone steps₂ steps₁ spec₂ spec₁ .start
    spec₂ keyed (touched₁.keyed keyed) begins apart₂ steady clock₂
  have inTurn : w.InTurn config name₁ name₂ t₁ t₂ st r₁ r₂ st₂ :=
    ⟨h₁', h₂', st₁, completes_iff_finishes.2 alone₁, completes_iff_finishes.2 alone₂⟩
  refine ⟨st₂, inTurn, fun k => ?_⟩
  by_cases hk : k = o₁.spec.target.text
  case pos =>
    have kept := touched₂.others k (hk ▸ apart₁.target)
    unfold AlikeAt
    rw [kept]
    exact alike₁ k (hk ▸ apart₁.target)
  case neg => exact alike₂ k hk

-- Two passes whose calls take turns in any way come to what they come to one after the other, in
-- either order. The clock is not so late in any of them that the timeout cannot be added to it.
theorem together_inTurn (together : w.Together st h₁ h₂ st')
    (reaches₁ : (reconcile config name₁).run.Reaches h₁ (.done r₁))
    (reaches₂ : (reconcile config name₂).run.Reaches h₂ (.done r₂))
    (spec₁ : w.spec name₁ = .ok (some o₁)) (spec₂ : w.spec name₂ = .ok (some o₂))
    (keyed : Keyed st) (apart₁ : Apart o₁ o₂) (apart₂ : Apart o₂ o₁) (steady : w.Steady)
    (clock₁ : t₁.add? config.registryTimeout = some d₁)
    (clock₂ : t₂.add? config.registryTimeout = some d₂) :
    (∃ st₂, w.InTurn config name₁ name₂ t₁ t₂ st r₁ r₂ st₂ ∧ ∀ k, AlikeAt st' st₂ k) ∧
    (∃ st₂, w.InTurn config name₂ name₁ t₂ t₁ st r₂ r₁ st₂ ∧ ∀ k, AlikeAt st' st₂ k) :=
  ⟨together.inTurn reaches₁ reaches₂ spec₁ spec₂ keyed apart₁ apart₂ steady clock₁ clock₂,
    together.symm.inTurn reaches₂ reaches₁ spec₂ spec₁ keyed apart₂ apart₁ steady clock₂ clock₁⟩

end World

-- Two desired states with a target each, neither of which has been made yet.
namespace Sample

def other : OciSecret where
  metadata := { name := some "docs", uid := some "u2" }
  spec     := { artifact := "v2", registry := "r.io/docs", target := ⟨some "docs", some "web"⟩ }

def both : World Unit where
  now           := ⟨0⟩
  spec name     := .ok (some (if name = "site" then desired else other))
  connect _ _ _ := .ok ()
  digest _ _    := .ok fetched.digest
  content _ _   := .ok fetched

theorem both_apart : Apart desired other ∧ Apart other desired :=
  ⟨⟨by decide, nofun⟩, ⟨by decide, nofun⟩⟩

theorem both_steady : both.Steady :=
  fun _ _ _ _ => rfl

def fresh (o : OciSecret) : Secret :=
  (Target.create o).toOption.getD {}

def created (o : OciSecret) (n : Nat) : Secret :=
  Store.withVersion (fresh o) n

-- A pass that finds no target and makes it, by the n-th write to the store.
def calls (name : String) (o : OciSecret) (n : Nat) : History Unit := [
  ⟨.getSpec name, .ok (some o)⟩,
  ⟨.now, (⟨0⟩ : Instant)⟩,
  ⟨.connect o.spec.registry none ⟨120000000000⟩, .ok ()⟩,
  ⟨.fetchDigest () o.spec.artifact, .ok fetched.digest⟩,
  ⟨.getSecret o.spec.target, .ok none⟩,
  ⟨.createSecret (fresh o), .ok ()⟩,
  ⟨.getSecret o.spec.target, .ok (some (created o n))⟩,
  ⟨.fetchContent () o.spec.artifact, .ok fetched⟩,
  ⟨.replaceSecret (World.filled o (created o n) fetched), .ok ()⟩
]

theorem site_steps :
    Stage.Steps {} (.start "site") (calls "site" desired 1) (.ended (.ok (.ofSeconds 60))) := by
  iterate 9 refine .step rfl ?_
  exact .refl

theorem docs_steps :
    Stage.Steps {} (.start "docs") (calls "docs" other 2) (.ended (.ok (.ofSeconds 60))) := by
  iterate 9 refine .step rfl ?_
  exact .refl

def after : Store :=
  ((({} : Store).put (fresh desired)).put (fresh other)).put
    (World.filled desired (created desired 1) fetched) |>.put
    (World.filled other (created other 2) fetched)

-- The two passes take turns, call by call.
theorem both_together :
    both.Together ({} : Store) (calls "site" desired 1) (calls "docs" other 2) after := by
  iterate 9 refine .first (t := ⟨0⟩) rfl (.second (t := ⟨0⟩) rfl ?_)
  exact .refl

end Sample

open Sample in
theorem World.together_inTurn_sample :
    (∃ st₂, both.InTurn {} "site" "docs" ⟨1⟩ ⟨2⟩ ({} : Store) (.ok (.ofSeconds 60))
      (.ok (.ofSeconds 60)) st₂ ∧ ∀ k, AlikeAt after st₂ k) ∧
    (∃ st₂, both.InTurn {} "docs" "site" ⟨2⟩ ⟨1⟩ ({} : Store) (.ok (.ofSeconds 60))
      (.ok (.ofSeconds 60)) st₂ ∧ ∀ k, AlikeAt after st₂ k) :=
  World.together_inTurn both_together (reaches_iff_steps.2 site_steps)
    (reaches_iff_steps.2 docs_steps) rfl rfl Store.sound_empty.keyed both_apart.1 both_apart.2
    both_steady rfl rfl

end ArtifactSync.Pass
