import ArtifactSync.Proofs.Sync.History
import ArtifactSync.Proofs.Sync.Versions

namespace ArtifactSync.Pass

open Kubernetes (Secret)
open Interaction (Reaches)
open SecretStore

variable {ρ σ : Type} {config : Config} {name : String} {h h₁ h₂ : History ρ}
  {s : Stage ρ} {d : Duration}

-- Everything but the secrets. It is as it is, whoever asks and how often.
structure World (ρ : Type) where
  now     : Instant
  spec    : String → Except Error (Option OciSecret)
  connect : String → Option PullCredential → Instant → Except Error ρ
  digest  : ρ → String → Except Error Digest
  content : ρ → String → Except Error Content

namespace World

variable {w : World ρ} [SecretStore σ] {st st' st₁ st₂ : σ} {r r₁ r₂ : Except Error Duration}

-- A write that is refused has no effect.
def written (st : σ) : Except Error σ → Except Error Unit × σ
  | .ok st'  => (.ok (), st')
  | .error e => (.error e, st)

def answer (w : World ρ) (st : σ) : (c : Call ρ) → Option (Answer c × σ)
  | .now                => some (w.now, st)
  | .getSpec name       => some (w.spec name, st)
  | .getSecret r        => some (.ok (secret? st r.text), st)
  | .createSecret s     => some (written st (create st s))
  | .replaceSecret s    => some (written st (replace st s))
  | .connect a c t      => some (w.connect a c t, st)
  | .fetchDigest src a  => some (w.digest src a, st)
  | .fetchContent src a => some (w.content src a, st)
  | .halt               => none

inductive Plays (w : World ρ) : σ → History ρ → σ → Prop
  | refl {st : σ} : Plays w st [] st
  | step {st st₁ st' : σ} {c : Call ρ} {x : Answer c} {h : History ρ} :
    (w.answer st c = some (x, st₁)) → Plays w st₁ h st' → Plays w st (⟨c, x⟩ :: h) st'

-- A whole pass, with all of its calls.
structure Completes (w : World ρ) (config : Config) (name : String) (st : σ) (h : History ρ)
    (r : Except Error Duration) (st' : σ) : Prop where
  reaches : (reconcile config name).run.Reaches h (.done r)
  plays   : w.Plays st h st'

-- The world leaves a pass no choice.
theorem Plays.deterministic {p : Underway ρ} (p₁ : w.Plays st h₁ st₁) (p₂ : w.Plays st h₂ st₂)
    (e₁ : p.Reaches h₁ (.done r₁)) (e₂ : p.Reaches h₂ (.done r₂)) :
    h₁ = h₂ ∧ r₁ = r₂ ∧ st₁ = st₂ := by
  induction p₁ generalizing p h₂ with
  | refl =>
    cases e₁
    cases e₂
    cases p₂
    exact ⟨rfl, rfl, rfl⟩
  | step ha _ hi =>
    cases e₁ with
    | step e₁ =>
      cases e₂ with
      | step e₂ =>
        cases p₂ with
        | step ha' p₂ =>
          cases ha.symm.trans ha'
          have ⟨hh, hr, hs⟩ := hi p₂ e₁ e₂
          exact ⟨congrArg _ hh, hr, hs⟩

theorem Completes.unique (c₁ : w.Completes config name st h₁ r₁ st₁)
    (c₂ : w.Completes config name st h₂ r₂ st₂) :
    h₁ = h₂ ∧ r₁ = r₂ ∧ st₁ = st₂ :=
  c₁.plays.deterministic c₂.plays c₁.reaches c₂.reaches

-- What is left to do at a stage is done.
structure Finishes (w : World ρ) (config : Config) (s : Stage ρ) (st : σ) (h : History ρ)
    (r : Except Error Duration) (st' : σ) : Prop where
  steps : Stage.Steps config s h (.ended r)
  plays : w.Plays st h st'

theorem completes_iff_finishes :
    w.Completes config name st h r st' ↔ w.Finishes config (.start name) st h r st' := by
  constructor
  case mp =>
    intro c
    exact ⟨reaches_iff_steps.1 c.reaches, c.plays⟩
  case mpr =>
    intro f
    exact ⟨reaches_iff_steps.2 f.steps, f.plays⟩

-- One call, to which the world has one answer.
theorem finishes_step {c : Call ρ} {go : Answer c → Stage ρ} {x : Answer c}
    (hn : s.next config = some ⟨c, go⟩) (ha : w.answer st c = some (x, st₁)) :
    w.Finishes config s st h r st' ↔
      ∃ rest, h = ⟨c, x⟩ :: rest ∧ w.Finishes config (go x) st₁ rest r st' := by
  constructor
  case mp =>
    intro ⟨steps, plays⟩
    cases steps with
    | refl => cases hn
    | step hn' steps =>
      cases hn.symm.trans hn'
      cases plays with
      | step ha' plays =>
        cases ha.symm.trans ha'
        exact ⟨_, rfl, steps, plays⟩
  case mpr =>
    intro ⟨rest, hh, steps, plays⟩
    subst hh
    exact ⟨.step hn steps, .step ha plays⟩

@[simp]
theorem finishes_ended {r' : Except Error Duration} :
    w.Finishes config (.ended r') st h r st' ↔ r' = r ∧ h = [] ∧ st' = st := by
  constructor
  case mp =>
    intro ⟨steps, plays⟩
    cases steps with
    | refl =>
      cases plays
      exact ⟨rfl, rfl, rfl⟩
    | step hn _ => cases hn
  case mpr =>
    intro ⟨hr, hh, hs⟩
    subst hr hh hs
    exact ⟨.refl, .refl⟩

@[simp]
theorem finishes_given {α : Type} {go : α → Stage ρ} {x : Except Error α} :
    w.Finishes config (.given go x) st h (.ok d) st' ↔
      ∃ a, x = .ok a ∧ w.Finishes config (go a) st h (.ok d) st' := by
  cases x <;> simp [Stage.given]

end World

end ArtifactSync.Pass
