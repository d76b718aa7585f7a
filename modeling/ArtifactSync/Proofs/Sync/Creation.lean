import ArtifactSync.Proofs.Operator.Retryable
import ArtifactSync.Proofs.Sync.Convergence

namespace ArtifactSync.Pass

open Kubernetes (Secret)
open SecretStore

variable {ρ σ : Type} {config : Config} {name : String} {o : OciSecret} {h ensuring : History ρ}
  {d : Duration} {source : ρ} {current : Digest} {fresh target : Secret} {v : String}

namespace World

variable {w : World ρ} [SecretStore σ] [LawfulSecretStore σ] {st st' made : σ}

-- The target of a pass that has found none: the blank one, as it was stored.
theorem Ensured.blank (e : Ensured o st ensuring made)
    (absent : secret? st o.spec.target.text = none) :
    ∃ fresh v, Target.create o = .ok fresh ∧ writes ensuring = [.create fresh] ∧
      secret? made o.spec.target.text = some (stamped fresh v) := by
  cases e with
  | found hf    => cases hf.symm.trans absent
  | made _ hc hm =>
    have ⟨_, v, wrote⟩ := LawfulSecretStore.create_ok hm
    exact ⟨_, v, hc, rfl, (Target.blank_of_create hc).key ▸ wrote.stored⟩

-- The target was made by these calls, and it is judged as it was made.
structure Makes (o : OciSecret) (source : ρ) (current : Digest) (fresh : Secret) (v : String)
    (target : Secret) (h : History ρ) : Prop where
  create  : Target.create o = .ok fresh
  named   : ⟨.fetchDigest source o.spec.artifact, .ok current⟩ ∈ h
  written : writes h = [.create fresh]
  stored  : target = stamped fresh v

theorem Judges.makes (j : w.Judges config name o st source current made target h)
    (absent : secret? st o.spec.target.text = none) :
    ∃ fresh v, Makes o source current fresh v target h := by
  have ⟨before, ensuring, access, ensured, hh⟩ := j.calls
  have ⟨fresh, v, hc, hw, hs⟩ := ensured.blank absent
  have ⟨_, _, _, _, _, _, hb⟩ := access.opened
  refine ⟨fresh, v, hc, ?_, ?_, Option.some.inj (j.read.symm.trans hs)⟩
  · simp [hh, hb]
  · rw [hh, writes_append, writes_append, writes_of_idle access.idle, hw]
    rfl

theorem Makes.needsSync_eq_false_iff (m : Makes o source current fresh v target h) :
    Target.needsSync target current o.spec.allowList = false ↔
      current = Target.sentinel ∧ o.spec.allowList = [] := by
  rw [m.stored]
  exact (Target.blank_of_create m.create).stamped.needsSync_eq_false_iff

theorem Makes.fills {content : Content} (m : Makes o source current fresh v target h)
    (hr : replace made (filled o target content) = .ok st') :
    ∃ v', secret? st' o.spec.target.text = some (stamped (filled o target content) v') := by
  have ⟨_, v', wrote⟩ := LawfulSecretStore.replace_ok hr
  have key : Store.key (filled o target content) = o.spec.target.text := by
    rw [m.stored]
    exact (Target.blank_of_create m.create).key
  exact ⟨v', key ▸ wrote.stored⟩

end World

open World

variable {w : World ρ} [SecretStore σ] [LawfulSecretStore σ] {st st' : σ}

-- A pass over a target that is not there, in a world in which nobody else writes.
theorem created_filled (spec : w.spec name = .ok (some o))
    (absent : secret? st o.spec.target.text = none)
    (pass : w.Completes config name st h (.ok d) st') :
    ∃ source current fresh v, Target.create o = .ok fresh ∧
      ⟨.fetchDigest source o.spec.artifact, .ok current⟩ ∈ h ∧
      (¬(current = Target.sentinel ∧ o.spec.allowList = []) →
        ∃ content v', ⟨.fetchContent source o.spec.artifact, .ok content⟩ ∈ h ∧
          writes h = [.create fresh, .replace (filled o (stamped fresh v) content)] ∧
          secret? st' o.spec.target.text =
            some (stamped (filled o (stamped fresh v) content) v')) ∧
      (current = Target.sentinel ∧ o.spec.allowList = [] →
        writes h = [.create fresh] ∧
          secret? st' o.spec.target.text = some (stamped fresh v)) := by
  cases pass.outcome spec with
  | kept judges kept =>
    have ⟨fresh, v, makes⟩ := judges.makes absent
    have unnamed := makes.needsSync_eq_false_iff.1 kept
    refine ⟨_, _, fresh, v, makes.create, makes.named, fun other => absurd unnamed other,
      fun _ => ?_⟩
    exact ⟨makes.written, makes.stored ▸ judges.read⟩
  | filled judges stale _ hr =>
    have ⟨fresh, v, makes⟩ := judges.makes absent
    have other := mt makes.needsSync_eq_false_iff.2 (by simp [stale])
    have ⟨v', stored⟩ := makes.fills hr
    refine ⟨_, _, fresh, v, makes.create, List.mem_append_left _ makes.named, fun _ => ?_,
      fun unnamed => absurd unnamed other⟩
    refine ⟨_, v', List.mem_append_right _ (.head _), ?_, makes.stored ▸ stored⟩
    rw [writes_append, makes.written, makes.stored]
    rfl

open Sample in
theorem created_filled_sample : ∃ h fresh v content v',
    (world (asking ["index.html"]) fetched).Completes {} "site" ({} : Store) h
      (.ok (.ofSeconds 60)) (once ["index.html"]) ∧
    writes h =
      [.create fresh, .replace (filled (asking ["index.html"]) (stamped fresh v) content)] ∧
    secret? (once ["index.html"]) desired.spec.target.text =
      some (stamped (filled (asking ["index.html"]) (stamped fresh v) content) v') := by
  have ⟨h, pass, _⟩ := completes_once ["index.html"]
  have ⟨_, _, fresh, v, _, _, fills, _⟩ := created_filled rfl rfl pass
  have ⟨content, v', _, hw, hs⟩ := fills fun unnamed => nomatch unnamed.2
  exact ⟨h, fresh, v, content, v', pass, hw, hs⟩

-- A registry whose header names the artifact by what stands for none.
namespace Hollow

open Registry (Source)
open Sample (blank desired stored)

def registry : Registry.Surroundings where
  reply _ := .response {
    status  := ⟨200⟩
    phrase  := "OK"
    headers := [(Registry.Retrieval.digestHeader, bytesOf Target.sentinel.text)]
    body    := []
  }

theorem digest_eq :
    (((Mended.source.fetchDigest "v1").run none).answeredBy (m := Id) registry.world).1.toOption =
      some Target.sentinel := by
  decide +kernel

theorem misnamed : Genuine Mended.usual ⟨.fetchDigest Mended.source "v1", .ok Target.sentinel⟩ := by
  have ⟨k, reaches⟩ := Registry.reaches_ok digest_eq
  exact .fetchDigest reaches

def world : World Source where
  now           := ⟨0⟩
  spec _        := .ok (some desired)
  connect _ _ _ := .ok Mended.source
  digest _ _    := .ok Target.sentinel
  content _ _   := .ok Sample.fetched

def history : History Source := [
  ⟨.getSpec "site", .ok (some desired)⟩,
  ⟨.now, (⟨0⟩ : Instant)⟩,
  ⟨.connect "r.io/site" none ⟨120000000000⟩, .ok Mended.source⟩,
  ⟨.fetchDigest Mended.source "v1", .ok Target.sentinel⟩,
  ⟨.getSecret desired.spec.target, .ok none⟩,
  ⟨.createSecret blank, .ok ()⟩,
  ⟨.getSecret desired.spec.target, .ok (some stored)⟩
]

theorem within : Within Mended.usual "site" desired history :=
  .begin (.cons nofun .now (.cons nofun (Mended.granted Mended.connect_anonymous)
    (.cons nofun misnamed (.cons nofun (.getSecret nofun) (.cons nofun (.createSecret nofun)
      (.cons nofun (.getSecret nofun) .nil))))))

theorem completes :
    world.Completes {} "site" ({} : Store) history (.ok (.ofSeconds 60))
      (({} : Store).put blank) := by
  refine completes_iff_finishes.2 ⟨?steps, ?plays⟩
  case steps =>
    iterate 7 refine .step rfl ?_
    exact .refl
  case plays =>
    iterate 7 refine .step rfl ?_
    exact .refl

end Hollow

-- Every call is answered as in earnest, and the target is left as it was made.
theorem created_left_empty : ∃ h st,
    Within Mended.usual "site" Sample.desired h ∧
    Hollow.world.Completes {} "site" ({} : Store) h (.ok (.ofSeconds 60)) st ∧
    writes h = [.create Sample.blank] ∧ fetches h = [] ∧
    secret? st Sample.desired.spec.target.text = some Sample.stored ∧
    Sample.stored.data = none :=
  ⟨_, _, Hollow.within, Hollow.completes, rfl, rfl, rfl, rfl⟩

end ArtifactSync.Pass
