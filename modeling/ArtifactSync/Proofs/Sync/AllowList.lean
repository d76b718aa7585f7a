import ArtifactSync.Proofs.Sync.Idempotence

namespace ArtifactSync.Pass

open Kubernetes (Secret)
open SecretStore World

variable {ρ σ : Type} [SecretStore σ] [LawfulSecretStore σ] {config : Config} {name : String}
  {o : OciSecret} {h : History ρ} {w : World ρ} {st st' made : σ} {interval : Duration}
  {source : ρ} {d current : Digest} {s target : Secret} {files : FileMap} {old new : List String}

-- A list that a target of this many files is taken to agree with.
def Overlooked (stored : Nat) (allow : List String) : Prop :=
  allow = [] ∨ stored = allow.length

instance {stored : Nat} {allow : List String} : Decidable (Overlooked stored allow) :=
  inferInstanceAs (Decidable (_ ∨ _))

-- An edit is only ever overlooked if the new list is empty, or says some name more than once, or
-- one that no file has.
theorem size_restrictTo_of_overlooked (named : new ≠ []) (offers : files.Offers new)
    (overlooked : Overlooked (files.restrictTo old).size new) :
    (files.restrictTo old).size = (files.restrictTo new).size := by
  have length := (FileMap.offers_iff_size_restrictTo.1 offers).resolve_left named
  rw [overlooked.resolve_left named, length]

theorem World.Judges.found (j : w.Judges config name o st source current made target h)
    (stored : secret? st o.spec.target.text = some s) : target = s := by
  have ⟨_, _, _, ensured, _⟩ := j.calls
  exact Option.some.inj (j.read.symm.trans (ensured.kept stored))

theorem storedFiles_of_data (data : s.data = some files) : Target.storedFiles s = files.size := by
  simp [Target.storedFiles, data]

-- The data of the target once a pass has seen the list.
theorem data_of_edit (keyed : Keyed st) (spec : w.spec name = .ok (some o))
    (named : ∀ source current, w.digest source o.spec.artifact = .ok current → current = d)
    (holds : ∀ source content, w.content source o.spec.artifact = .ok content →
      content = ⟨d, files⟩)
    (stored : secret? st o.spec.target.text = some s) (digest : Target.lastDigest? s = some d)
    (data : s.data = some (files.restrictTo old))
    (pass : w.Completes config name st h (.ok interval) st') :
    ∃ s', secret? st' o.spec.target.text = some s' ∧ Target.lastDigest? s' = some d ∧
      s'.data = some (files.restrictTo
        (if Overlooked (files.restrictTo old).size o.spec.allowList then old
          else o.spec.allowList)) := by
  have agrees : Target.needsSync s d o.spec.allowList = false ↔
      Overlooked (files.restrictTo old).size o.spec.allowList := by
    rw [Target.needsSync_eq_false_iff, storedFiles_of_data data]
    simp [digest, Overlooked]
  cases pass.outcome spec with
  | kept judges kept       =>
    have ⟨_, _, access, _, _⟩ := judges.calls
    cases judges.found stored
    cases named _ _ access.digest
    exact ⟨s, judges.read, digest, by rw [if_pos (agrees.1 kept), data]⟩
  | filled judges stale hc hr =>
    have ⟨_, _, access, _, _⟩ := judges.calls
    cases judges.found stored
    cases named _ _ access.digest
    cases holds _ _ hc
    have ⟨_, written, _⟩ := judges.fills keyed hr
    refine ⟨_, written, Target.lastDigest?_fill, ?_⟩
    rw [if_neg fun overlooked => nomatch stale.symm.trans (agrees.2 overlooked)]
    rfl

theorem allowList_edit (keyed : Keyed st) (spec : w.spec name = .ok (some o))
    (named : ∀ source current, w.digest source o.spec.artifact = .ok current → current = d)
    (holds : ∀ source content, w.content source o.spec.artifact = .ok content →
      content = ⟨d, files⟩)
    (stored : secret? st o.spec.target.text = some s) (digest : Target.lastDigest? s = some d)
    (data : s.data = some (files.restrictTo old))
    (pass : w.Completes config name st h (.ok interval) st') :
    ∃ s', secret? st' o.spec.target.text = some s' ∧ Target.lastDigest? s' = some d ∧
      s'.data = some (files.restrictTo
        (if Overlooked (files.restrictTo old).size o.spec.allowList then old
          else o.spec.allowList)) ∧
      (Target.storedFiles s' = (files.restrictTo o.spec.allowList).size ↔
        (Overlooked (files.restrictTo old).size o.spec.allowList →
          (files.restrictTo old).size = (files.restrictTo o.spec.allowList).size)) ∧
      (o.spec.allowList ≠ [] → files.Offers o.spec.allowList →
        Target.storedFiles s' = (files.restrictTo o.spec.allowList).size) := by
  have ⟨s', hs, hd, data'⟩ := data_of_edit keyed spec named holds stored digest data pass
  have count : Target.storedFiles s' = (files.restrictTo o.spec.allowList).size ↔
      (Overlooked (files.restrictTo old).size o.spec.allowList →
        (files.restrictTo old).size = (files.restrictTo o.spec.allowList).size) := by
    rw [storedFiles_of_data data']
    split <;> simp [*]
  exact ⟨s', hs, hd, data', count, fun some offers =>
    count.2 (size_restrictTo_of_overlooked some offers)⟩

namespace Sample

def pair : Content :=
  ⟨⟨"sha256:c"⟩, (Dict.singleton "a.txt" [65]).insert "b.txt" [66]⟩

-- The target as a pass with the list has left it.
def held (old : List String) : Secret :=
  Store.withVersion (World.filled (asking old) blank pair) 1

def holding (old : List String) : Store :=
  ({} : Store).put (held old)

-- The target is not of the size that the new list asks for, and yet a pass succeeds and leaves it.
def Misses (old new : List String) : Prop :=
  Target.storedFiles (held old) ≠ (pair.files.restrictTo new).size ∧
    ∃ h, (world (asking new) pair).Completes {} "site" (holding old) h (.ok (.ofSeconds 60))
      (holding old)

theorem misses_of_kept (size : Target.storedFiles (held old) ≠ (pair.files.restrictTo new).size)
    (kept : Target.needsSync (held old) pair.digest new = false) : Misses old new := by
  have ⟨before, access⟩ := access (t := ⟨0⟩) new pair (holding old) rfl
  have ⟨h, pass, _⟩ := completes_idle access rfl kept
  exact ⟨size, h, pass⟩

end Sample

open Sample in
theorem allowList_edit_sample :
    ∃ h st s, (world (asking ["a.txt", "b.txt"]) pair).Completes {} "site" (holding ["a.txt"]) h
        (.ok (.ofSeconds 60)) st ∧
      secret? st desired.spec.target.text = some s ∧
      Target.storedFiles s = (pair.files.restrictTo ["a.txt", "b.txt"]).size := by
  have ⟨before, access⟩ := access (t := ⟨0⟩) ["a.txt", "b.txt"] pair (holding ["a.txt"]) rfl
  have judges : (world (asking ["a.txt", "b.txt"]) pair).Judges {} "site"
      (asking ["a.txt", "b.txt"]) (holding ["a.txt"]) () pair.digest (holding ["a.txt"])
      (held ["a.txt"]) _ :=
    ⟨⟨before, _, access, .found rfl, rfl⟩, rfl⟩
  have pass := completes_iff.2 ⟨rfl, .inr ⟨_, .filled judges (by decide +kernel) rfl rfl⟩⟩
  have keyed : Keyed (holding ["a.txt"]) := (Store.wrote_put.sound Store.sound_empty).keyed
  have data : (held ["a.txt"]).data = some (pair.files.restrictTo ["a.txt"]) := rfl
  have ⟨s, found, _, _, _, count⟩ := allowList_edit keyed rfl
    (fun _ _ h => (Except.ok.inj h).symm) (fun _ _ h => (Except.ok.inj h).symm) rfl rfl data pass
  refine ⟨_, _, s, pass, found, count nofun (.inr ⟨by decide +kernel, ?_⟩)⟩
  exact List.forall_mem_cons.2 ⟨.head _, List.forall_mem_singleton.2 (.tail _ (.head _))⟩

-- The list was cleared, a name in it was replaced by another one that was there already, or by one
-- that no file has.
open Sample in
theorem allowList_edit_overlooked :
    Misses ["a.txt"] [] ∧ Misses ["a.txt", "b.txt"] ["a.txt", "a.txt"] ∧
      Misses ["a.txt", "b.txt"] ["a.txt", "c.txt"] := by
  refine ⟨misses_of_kept ?_ ?_, misses_of_kept ?_ ?_, misses_of_kept ?_ ?_⟩
  all_goals decide +kernel

end ArtifactSync.Pass
