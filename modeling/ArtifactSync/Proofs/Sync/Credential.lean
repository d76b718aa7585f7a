import ArtifactSync.Proofs.Operator.Retryable
import ArtifactSync.Proofs.Registry.Login

namespace ArtifactSync.Pass

open Kubernetes (Secret)
open Registry (Client Grants)
open Registry.CredentialStore (TakenAs)

variable {ρ : Type} {config : Config} {name : String} {o : OciSecret} {r : SecretRef}
  {h : History ρ} {s : Stage ρ} {credential : Option PullCredential} {bytes : Bytes}

-- The bytes of a pull secret, of which there are some.
def Carries (found : Except Error (Option Secret)) (bytes : Bytes) : Prop :=
  ∃ s data, found = .ok (some s) ∧ s.data = some data ∧
    data.find? PullCredential.key = some bytes ∧ bytes ≠ []

-- What a pass ends with that cannot have its pull secret.
def denial (r : SecretRef) : Except Error (Option Secret) → Error
  | .error e     => e
  | .ok none     => .notFound s!"Pull secret {r.text} does not exist"
  | .ok (some s) => .notFound s!"Pull secret {s.label} has no '{PullCredential.key}' key"

theorem carries_iff {secret : Secret} :
    Carries (.ok (some secret)) bytes ↔ PullCredential.ofSecret secret = .ok ⟨bytes⟩ := by
  unfold PullCredential.ofSecret Carries
  cases hd : secret.data with
  | none      => simp [hd]
  | some data =>
    cases hf : data.find? PullCredential.key with
    | none   => simp [hd, hf]
    | some b =>
      cases b with
      | nil      => simp [hd, hf, Option.filter]
      | cons _ _ =>
        simp only [hf, Option.bind_some, Option.filter]
        grind

theorem ofSecret_error {secret : Secret} {e : Error}
    (h : PullCredential.ofSecret secret = .error e) : e = denial r (.ok (some secret)) := by
  unfold PullCredential.ofSecret at h
  split at h
  case h_1 => cases h
  case h_2 =>
    cases h
    rfl

-- Connections are for this credential, and of the secrets only the target is read.
def Permitted (o : OciSecret) (credential : Option PullCredential) : Call ρ → Prop
  | .connect a c _ => a = o.spec.registry ∧ c = credential
  | .getSecret r   => r = o.spec.target
  | _              => True

-- It has been found out whom to act for.
def Acts (o : OciSecret) (credential : Option PullCredential) : Stage ρ → Prop
  | .start _ | .pull _ _                                        => False
  | .clock o' c | .connecting o' c _                            => o' = o ∧ c = credential
  | .resolving o' _ | .looking o' _ _ | .creating o' _ _ _      => o' = o
  | .reading o' _ _ | .fetching o' _ _ | .replacing o' _ _      => o' = o
  | .stuck | .ended _                                           => True

theorem acts_given {α : Type} {go : α → Stage ρ} {x : Except Error α}
    (ok : ∀ a, Acts o credential (go a)) : Acts o credential (.given go x) := by
  cases x with
  | ok a    => exact ok a
  | error _ => trivial

theorem Acts.next {c : Call ρ} {go : Answer c → Stage ρ} (a : Acts o credential s)
    (hn : s.next config = some ⟨c, go⟩) :
    Permitted o credential c ∧ ∀ x, Acts o credential (go x) := by
  cases s with
  | start _ | pull _ _ => cases a
  | stuck              =>
    cases hn
    exact ⟨trivial, nofun⟩
  | ended _            => cases hn
  | clock _ _          =>
    cases hn
    obtain ⟨rfl, rfl⟩ := a
    refine ⟨trivial, fun x => ?_⟩
    dsimp only
    split
    · exact ⟨rfl, rfl⟩
    · trivial
  | connecting _ _ _   =>
    cases hn
    obtain ⟨rfl, rfl⟩ := a
    exact ⟨⟨rfl, rfl⟩, fun _ => acts_given fun _ => rfl⟩
  | resolving _ _      =>
    cases hn
    cases a
    exact ⟨trivial, fun _ => acts_given fun _ => rfl⟩
  | looking _ _ _      =>
    cases hn
    cases a
    refine ⟨rfl, fun _ => acts_given fun found => ?_⟩
    split
    · exact acts_given fun _ => rfl
    · rfl
  | creating _ _ _ _   =>
    cases hn
    cases a
    exact ⟨trivial, fun _ => acts_given fun _ => rfl⟩
  | reading _ _ _      =>
    cases hn
    cases a
    refine ⟨rfl, fun _ => acts_given fun found => ?_⟩
    cases found with
    | none   => trivial
    | some _ =>
      dsimp only
      split
      · rfl
      · trivial
  | fetching _ _ _     =>
    cases hn
    cases a
    exact ⟨trivial, fun _ => acts_given fun _ => rfl⟩
  | replacing _ _ _    =>
    cases hn
    exact ⟨trivial, fun _ => acts_given fun _ => trivial⟩

theorem Acts.permitted {s' : Stage ρ} (a : Acts o credential s)
    (steps : Stage.Steps config s h s') : ∀ e ∈ h, Permitted o credential e.question := by
  induction steps with
  | refl           => simp
  | step hn _ hi =>
    have ⟨here, later⟩ := a.next hn
    exact List.forall_mem_cons.2 ⟨here, hi (later _)⟩

theorem steps_ended {result : Except Error Duration} {s : Stage ρ}
    (steps : Stage.Steps config (.ended result) h s) : h = [] ∧ s = .ended result := by
  cases steps with
  | refl      => exact ⟨rfl, rfl⟩
  | step hn _ => cases hn

-- What is read first, where a pull secret is named.
theorem steps_pull (steps : Stage.Steps config (.pull o r) h s) :
    h = [] ∨ ∃ found rest, h = ⟨.getSecret r, found⟩ :: rest ∧
      ((∃ bytes, Carries found bytes ∧ Stage.Steps config (.clock o (some ⟨bytes⟩)) rest s) ∨
        (∀ bytes, ¬Carries found bytes) ∧ rest = [] ∧ s = .ended (.error (denial r found))) := by
  cases steps with
  | refl => exact .inl rfl
  | step hn steps =>
    rename_i found rest
    cases hn
    refine .inr ⟨found, rest, rfl, ?_⟩
    match found with
    | .error _          => exact .inr ⟨by simp [Carries], steps_ended steps⟩
    | .ok none          => exact .inr ⟨by simp [Carries], steps_ended steps⟩
    | .ok (some secret) =>
      cases hc : PullCredential.ofSecret secret with
      | ok credential =>
        dsimp only [Stage.given] at steps
        rw [hc] at steps
        exact .inl ⟨_, carries_iff.2 hc, steps⟩
      | error e       =>
        dsimp only [Stage.given] at steps
        rw [hc] at steps
        have ⟨nothing, ended⟩ := steps_ended steps
        rw [ofSecret_error hc] at ended
        refine .inr ⟨fun bytes carried => ?_, nothing, ended⟩
        cases hc.symm.trans (carries_iff.1 carried)

theorem steps_start (valid : o.validate = .ok ())
    (steps : Stage.Steps config (.start name) (⟨.getSpec name, .ok (some o)⟩ :: h) s) :
    Stage.Steps config
      (match o.spec.pullSecretRef with | none => .clock o none | some r => .pull o r) h s := by
  cases steps with
  | step hn steps =>
    cases hn
    dsimp only [Stage.given] at steps
    rw [valid] at steps
    exact steps

-- Only a reference with both of its parts is followed.
theorem pullSecretRef_eq (hr : o.spec.pullSecret = some r) :
    o.spec.pullSecretRef = if r.name ≠ "" ∧ r.namespace ≠ "" then some r else none := by
  unfold Spec.pullSecretRef SecretRef.isComplete
  rw [hr, Option.filter]
  simp

-- What a pass does after it has read the desired state, up to whatever point.
theorem credential_flow {p : Underway ρ} (valid : o.validate = .ok ())
    (reaches : (reconcile config name).run.Reaches (⟨.getSpec name, .ok (some o)⟩ :: h) p) :
    (∀ r, o.spec.pullSecret = some r → r.name ≠ "" ∧ r.namespace ≠ "" →
      h = [] ∨ ∃ found rest, h = ⟨.getSecret r, found⟩ :: rest ∧
        ((∃ bytes, Carries found bytes ∧ (∀ e ∈ rest, Permitted o (some ⟨bytes⟩) e.question) ∧
            ∀ options client, Client.connect o.spec.registry (some ⟨bytes⟩) options = .ok client →
              Grants bytes client.address.registry client.login ∧
              ∀ order store, TakenAs bytes order (.ok store) →
                Grants bytes client.address.registry (store.login client.address.registry)) ∨
          (∀ bytes, ¬Carries found bytes) ∧ rest = [] ∧ p = .done (.error (denial r found)))) ∧
    ((∀ r, o.spec.pullSecret = some r → ¬(r.name ≠ "" ∧ r.namespace ≠ "")) →
      (∀ e ∈ h, Permitted o none e.question) ∧
      ∀ options client, Client.connect o.spec.registry none options = .ok client →
        client.login = .anonymous) := by
  have ⟨s, steps, unfolds⟩ := (Stage.start_unfolds config name).steps reaches
  have steps := steps_start valid steps
  constructor
  case left  =>
    intro r hr complete
    rw [pullSecretRef_eq hr, if_pos complete] at steps
    cases steps_pull steps with
    | inl none => exact .inl none
    | inr read =>
      have ⟨found, rest, hh, ending⟩ := read
      refine .inr ⟨found, rest, hh, ?_⟩
      cases ending with
      | inl carried =>
        have ⟨bytes, carried, steps⟩ := carried
        have acts : Acts (ρ := ρ) o (some ⟨bytes⟩) (.clock o (some ⟨bytes⟩)) := ⟨rfl, rfl⟩
        refine .inl ⟨bytes, carried, acts.permitted steps, fun options client h => ⟨?_, ?_⟩⟩
        · have ⟨_, _, _, _, _, nonempty⟩ := carried
          exact Registry.grants_of_connect nonempty h
        · exact fun _ _ taken => Registry.grants_of_takenAs taken
      | inr denied  =>
        have ⟨missing, last, ended⟩ := denied
        subst ended
        exact .inr ⟨missing, last, unfolds.of_ended⟩
  case right =>
    intro incomplete
    have unnamed : o.spec.pullSecretRef = none := by
      cases hr : o.spec.pullSecret with
      | none   => simp [Spec.pullSecretRef, hr]
      | some r => rw [pullSecretRef_eq hr, if_neg (incomplete r hr)]
    rw [unnamed] at steps
    have acts : Acts (ρ := ρ) o none (.clock o none) := ⟨rfl, rfl⟩
    exact ⟨acts.permitted steps, fun _ _ => Registry.anonymous_of_connect⟩

-- A pull secret with two entries for the registry, up to the connection.
namespace Sample

open Registry (Rivals.text)

def opened : History Unit := [
  ⟨.getSecret Mended.pullRef, .ok (some (Mended.pulled Rivals.text))⟩,
  ⟨.now, (⟨0⟩ : Instant)⟩,
  ⟨.connect "r.io/site" (some ⟨Rivals.text⟩) ⟨120000000000⟩, .ok ()⟩
]

theorem opened_steps :
    Stage.Steps {} (.start "site") (⟨.getSpec "site", .ok (some Mended.asking)⟩ :: opened)
      (.resolving Mended.asking ()) := by
  iterate 4 refine .step rfl ?_
  exact .refl

theorem ofSecret_opened :
    PullCredential.ofSecret (Mended.pulled Rivals.text) = .ok ⟨Rivals.text⟩ := rfl

theorem connect_opened :
    Client.connect "r.io/site" (some ⟨Rivals.text⟩) Mended.usual =
      .ok ⟨⟨"r.io", "site"⟩, .basic "b" "y", Mended.usual⟩ :=
  Registry.eq_ok_of_toOption (by decide +kernel)

end Sample

open Sample in
theorem credential_flow_sample : ∃ p bytes,
    (reconcile {} "site").run.Reaches
      (⟨.getSpec "site", .ok (some Mended.asking)⟩ :: opened) p ∧
    Carries (.ok (some (Mended.pulled Registry.Rivals.text))) bytes ∧
    Grants bytes "r.io" (.basic "b" "y") := by
  have ⟨p, reaches, _⟩ := (Stage.start_unfolds {} "site").reaches opened_steps
  have ⟨follows, _⟩ := credential_flow (o := Mended.asking) rfl reaches
  cases follows Mended.pullRef rfl (by decide) with
  | inl none => cases none
  | inr read =>
    have ⟨found, rest, hh, ending⟩ := read
    cases hh
    cases ending with
    | inl carried =>
      have ⟨bytes, carried, _, login⟩ := carried
      cases ofSecret_opened.symm.trans (carries_iff.1 carried)
      exact ⟨p, _, reaches, carried, (login _ _ connect_opened).1⟩
    | inr denied  =>
      have ⟨missing, _⟩ := denied
      exact absurd (carries_iff.2 ofSecret_opened) (missing _)

end ArtifactSync.Pass
