import ArtifactSync.Proofs.Artifact.Selection
import ArtifactSync.Proofs.Sync.Outcome
import ArtifactSync.Proofs.Sync.Target

namespace ArtifactSync

namespace SecretStore

variable {σ : Type} [SecretStore σ] {st st' : σ} {s : Kubernetes.Secret} {v : String}

-- Each object is stored under its own key.
def Keyed (st : σ) : Prop :=
  ∀ k s, secret? st k = some s → Store.key s = k

theorem Sound.keyed (h : Sound st) : Keyed st :=
  fun k s hs => (h k s hs).1

end SecretStore

namespace Pass

open Kubernetes (Secret)
open Interaction (Turn)
open SecretStore

variable {ρ σ : Type} {config : Config} {name k : String} {o : OciSecret} {t deadline : Instant}
  {h before ensuring pull : History ρ} {d : Duration} {s target : Secret} {source : ρ}
  {current : Digest} {credential : Option PullCredential}

namespace World

variable {w : World ρ} [SecretStore σ] {st st' made : σ}

def later (w : World ρ) (t : Instant) : World ρ :=
  { w with now := t }

-- What a connection leads to.
def gives (w : World ρ) (source : ρ) :
    (String → Except Error Digest) × (String → Except Error Content) :=
  (w.digest source, w.content source)

-- How long a connection may take makes no difference to what it leads to.
def Steady (w : World ρ) : Prop :=
  ∀ a c t t', (w.connect a c t).map w.gives = (w.connect a c t').map w.gives

-- An artifact has the digest that it is announced with.
def Truthful (w : World ρ) : Prop :=
  ∀ source artifact content, w.content source artifact = .ok content →
    w.digest source artifact = .ok content.digest

theorem Authorized.mono (a : Authorized o st credential pull)
    (kept : ∀ r s, o.spec.pullSecretRef = some r → secret? st r.text = some s →
      secret? st' r.text = some s) : Authorized o st' credential pull := by
  cases a with
  | anonymous hp    => exact .anonymous hp
  | pulled hp hs hc => exact .pulled hp (kept _ _ hp hs) hc

-- The registry names the same artifact again, to whom is known by the same secret.
theorem Access.later (access : w.Access config name o st source current before)
    (steady : w.Steady) (clock : t.add? config.registryTimeout = some deadline)
    (kept : ∀ r s, o.spec.pullSecretRef = some r → secret? st r.text = some s →
      secret? st' r.text = some s) :
    ∃ source before, (w.later t).Access config name o st' source current before := by
  have ⟨credential, pull, deadline₀, authorized, _, hc, _⟩ := access.opened
  have same := steady o.spec.registry credential deadline₀ deadline
  rw [hc] at same
  cases hc' : w.connect o.spec.registry credential deadline with
  | error _    =>
    rw [hc'] at same
    cases same
  | ok source' =>
    rw [hc'] at same
    have digest := congrFun (congrArg Prod.fst (Except.ok.inj same)) o.spec.artifact
    exact ⟨source', _, {
      spec   := access.spec
      valid  := access.valid
      opened := ⟨credential, pull, deadline, authorized.mono kept, clock, hc', rfl⟩
      digest := digest.symm.trans access.digest
    }⟩

-- A pass that finds the target as it should be does no more than look.
theorem completes_idle (access : w.Access config name o st source current before)
    (found : secret? st o.spec.target.text = some target)
    (kept : Target.needsSync target current o.spec.allowList = false) :
    ∃ h, w.Completes config name st h (.ok config.requeueInterval) st ∧ ∀ e ∈ h, Idle e := by
  have judges : w.Judges config name o st source current st target _ :=
    ⟨⟨before, _, access, .found found, rfl⟩, found⟩
  refine ⟨_, completes_iff.2 ⟨rfl, .inr ⟨o, .kept judges kept⟩⟩, ?_⟩
  intro e he
  simp only [List.append_assoc, List.mem_append, List.mem_singleton] at he
  rcases he with he | rfl | rfl
  · exact access.idle e he
  · exact trivial
  · exact trivial

-- So does one for which nothing is desired any more.
theorem completes_gone (gone : w.spec name = .ok none) :
    ∃ h, w.Completes config name st h (.ok config.requeueInterval) st ∧ ∀ e ∈ h, Idle e :=
  ⟨_, completes_iff.2 ⟨rfl, .inl ⟨gone, rfl, rfl⟩⟩, List.forall_mem_singleton.2 trivial⟩

-- Where something is, a pass that does no more than look has found the target as it should be.
theorem Completes.kept_of_idle (c : w.Completes config name st h (.ok d) st')
    (spec : w.spec name = .ok (some o)) (idle : ∀ e ∈ h, Idle e) :
    ∃ current target, secret? st' o.spec.target.text = some target ∧
      Target.needsSync target current o.spec.allowList = false := by
  cases c.outcome spec with
  | kept judges kept => exact ⟨_, _, judges.read, kept⟩
  | filled _ _ _ _   => exact (idle _ (List.mem_append_right _ (.tail _ (.head _)))).elim

variable [LawfulSecretStore σ]

theorem Ensured.kept (e : Ensured o st ensuring made) (hs : secret? st k = some s) :
    secret? made k = some s := by
  cases e with
  | found _       => exact hs
  | made hf _ hm  =>
    have ⟨absent, _, wrote⟩ := LawfulSecretStore.create_ok hm
    rw [wrote.others k, hs]
    intro hk
    rw [hk, absent] at hs
    cases hs

theorem Ensured.key (e : Ensured o st ensuring made) (keyed : Keyed st)
    (ht : secret? made o.spec.target.text = some target) :
    Store.key target = o.spec.target.text := by
  cases e with
  | found _       => exact keyed _ _ ht
  | made _ hc hm  =>
    have ⟨_, _, wrote⟩ := LawfulSecretStore.create_ok hm
    have key := (Target.blank_of_create hc).key
    rw [← key, wrote.stored] at ht
    cases ht
    exact key

-- What filling the target does to the store.
theorem Judges.fills {content : Content}
    (j : w.Judges config name o st source current made target h) (keyed : Keyed st)
    (hr : replace made (filled o target content) = .ok st') :
    ∃ v, secret? st' o.spec.target.text = some (stamped (filled o target content) v) ∧
      ∀ k s, k ≠ o.spec.target.text → secret? st k = some s → secret? st' k = some s := by
  have ⟨_, _, _, ensured, _⟩ := j.calls
  have ⟨_, v, wrote⟩ := LawfulSecretStore.replace_ok hr
  have key : Store.key (filled o target content) = Store.key target := Target.key_fill
  rw [ensured.key keyed j.read] at key
  refine ⟨v, key ▸ wrote.stored, fun k s hk hs => ?_⟩
  rw [wrote.others k (key ▸ hk)]
  exact ensured.kept hs

-- Filled from the artifact of this digest, the target is left alone if every name asked for has
-- found its file.
theorem needsSync_filled {content : Content} {v : String} :
    Target.needsSync (stamped (filled o target content) v) current o.spec.allowList = false ↔
      content.digest = current ∧ content.files.Offers o.spec.allowList := by
  rw [Target.needsSync_eq_false_iff, FileMap.offers_iff_size_restrictTo]
  simp [filled, Content.restrictTo]

theorem Outcome.settled (outcome : w.Outcome config name o st h st') (keyed : Keyed st)
    (truthful : w.Truthful)
    (apart : ∀ r, o.spec.pullSecretRef = some r → r.text = o.spec.target.text → fetches h = [])
    (offered : ∀ content ∈ fetches h, content.files.Offers o.spec.allowList) :
    ∃ source current target before, w.Access config name o st source current before ∧
      secret? st' o.spec.target.text = some target ∧
      Target.needsSync target current o.spec.allowList = false ∧
      ∀ r s, o.spec.pullSecretRef = some r → secret? st r.text = some s →
        secret? st' r.text = some s := by
  cases outcome with
  | kept judges kept          =>
    have ⟨before, _, access, ensured, _⟩ := judges.calls
    exact ⟨_, _, _, before, access, judges.read, kept, fun _ _ _ hs => ensured.kept hs⟩
  | filled judges stale hc hr =>
    have ⟨before, _, access, _, _⟩ := judges.calls
    have ⟨v, stored, others⟩ := judges.fills keyed hr
    have digest := Except.ok.inj ((truthful _ _ _ hc).symm.trans access.digest)
    simp only [judges.fetches_filled] at apart offered
    refine ⟨_, _, _, before, access, stored, ?_, fun r s hp hs => others _ _ ?_ hs⟩
    · exact needsSync_filled.2 ⟨digest, offered _ List.mem_cons_self⟩
    · exact fun overlap => nomatch apart r hp overlap

end World

open World

variable {w : World ρ} [SecretStore σ] [LawfulSecretStore σ] {st st' : σ}

-- A pass after a pass that succeeded, where nothing else has changed. The pull secret may be the
-- target itself as long as the first pass has not written over it.
theorem reconcile_idempotent (keyed : Keyed st) (steady : w.Steady) (truthful : w.Truthful)
    (clock : (t.add? config.registryTimeout).isSome)
    (first : w.Completes config name st h (.ok d) st')
    (apart : ∀ o r, w.spec name = .ok (some o) → o.spec.pullSecretRef = some r →
      r.text = o.spec.target.text → fetches h = []) :
    (∃ h', (w.later t).Completes config name st' h' (.ok config.requeueInterval) st' ∧
        ∀ e ∈ h', Idle e) ↔
      ∀ o, w.spec name = .ok (some o) → ∀ content ∈ fetches h,
        content.files.Offers o.spec.allowList := by
  constructor
  case mp =>
    intro ⟨h', second, idle⟩ o spec content hc
    cases first.outcome spec with
    | kept judges _       =>
      rw [judges.fetches_eq_nil] at hc
      cases hc
    | filled judges _ _ hr =>
      rw [judges.fetches_filled, List.mem_singleton] at hc
      subst hc
      have ⟨_, stored, _⟩ := judges.fills keyed hr
      have ⟨_, _, found, kept⟩ := second.kept_of_idle spec idle
      cases found.symm.trans stored
      exact (needsSync_filled.1 kept).2
  case mpr =>
    intro offered
    have ⟨_, ending⟩ := completes_iff.1 first
    cases ending with
    | inl gone    => exact completes_gone gone.1
    | inr outcome =>
      have ⟨o, outcome⟩ := outcome
      have ⟨source, current, target, before, access, found, kept, pulls⟩ :=
        outcome.settled keyed truthful (apart o · outcome.spec) (offered o outcome.spec)
      have ⟨deadline, clock⟩ := Option.isSome_iff_exists.1 clock
      have ⟨_, _, access⟩ := access.later steady clock pulls
      exact completes_idle access found kept

namespace Sample

-- A registry that has one artifact, for everybody and at any time.
def world (o : OciSecret) (content : Content) : World Unit where
  now           := ⟨0⟩
  spec _        := .ok (some o)
  connect _ _ _ := .ok ()
  digest _ _    := .ok content.digest
  content _ _   := .ok content

def asking (allow : List String) : OciSecret :=
  { desired with spec := { desired.spec with selection := some ⟨allow⟩ } }

def absent : List String := ["index.html", "missing.html"]

-- The pull secret is the target.
def overlapping : OciSecret :=
  { desired with spec := { desired.spec with pullSecret := some desired.spec.target } }

def pulling : Secret :=
  { stored with data := some (.singleton PullCredential.key [123, 125]) }

def overwritten : Secret :=
  World.filled overlapping pulling fetched

-- What the first pass leaves behind.
def once (allow : List String) : Store :=
  (({} : Store).put blank).put (World.filled (asking allow) stored fetched)

theorem steady (o : OciSecret) (content : Content) : (world o content).Steady :=
  fun _ _ _ _ => rfl

theorem truthful (o : OciSecret) (content : Content) : (world o content).Truthful := by
  intro _ _ _ h
  cases h
  rfl

theorem access (allow : List String) (content : Content) (st : Store)
    (clock : t.add? ({} : Config).registryTimeout = some deadline) :
    ∃ h, ((world (asking allow) content).later t).Access {} "site" (asking allow) st ()
      content.digest h :=
  ⟨_, {
    spec   := rfl
    valid  := (rfl : desired.validate = .ok ())
    opened := ⟨none, [], deadline, .anonymous rfl, clock, rfl, rfl⟩
    digest := rfl
  }⟩

theorem completes_once (allow : List String) :
    ∃ h, (world (asking allow) fetched).Completes {} "site" ({} : Store) h (.ok (.ofSeconds 60))
      (once allow) ∧ fetches h = [fetched] := by
  have ⟨before, access⟩ := access (t := ⟨0⟩) allow fetched ({} : Store) rfl
  have judges : (world (asking allow) fetched).Judges {} "site" (asking allow) ({} : Store) ()
      fetched.digest (({} : Store).put blank) stored _ :=
    ⟨⟨before, _, access, .made rfl (rfl : Target.create _ = .ok blank) rfl, rfl⟩, rfl⟩
  exact ⟨_, completes_iff.2 ⟨rfl, .inr ⟨_, .filled judges rfl rfl rfl⟩⟩, judges.fetches_filled⟩

end Sample

open Sample in
theorem reconcile_idempotent_sample :
    (∃ h, ((world (asking ["index.html"]) fetched).later ⟨60000000000⟩).Completes {} "site"
      (once ["index.html"]) h (.ok (.ofSeconds 60)) (once ["index.html"]) ∧ ∀ e ∈ h, Idle e) := by
  have ⟨h, first, hf⟩ := completes_once ["index.html"]
  refine (reconcile_idempotent Store.sound_empty.keyed (steady _ _) (truthful _ _) rfl first
    ?_).2 ?_
  · intro o r ho hr
    cases ho
    cases hr
  · intro o ho content hc
    cases ho
    rw [hf, List.mem_singleton] at hc
    subst hc
    exact .inr ⟨List.pairwise_singleton _ _, List.forall_mem_singleton.2 (.head _)⟩

-- A name that no file has makes every pass fetch and write again. And a target that is its own pull
-- secret is of no use to the pass after the one that fills it.
open Sample in
theorem reconcile_not_idempotent :
    (∃ h₁ h₂ st,
      (world (asking absent) fetched).Completes {} "site" ({} : Store) h₁ (.ok (.ofSeconds 60))
        (once absent) ∧
      ((world (asking absent) fetched).later ⟨60000000000⟩).Completes {} "site" (once absent) h₂
        (.ok (.ofSeconds 60)) st ∧
      fetches h₂ = [fetched] ∧ st.writes = (once absent).writes + 1) ∧
    (∃ h₁ h₂ err,
      (world overlapping fetched).Completes {} "site" (({} : Store).put pulling) h₁
        (.ok (.ofSeconds 60)) ((({} : Store).put pulling).put overwritten) ∧
      ((world overlapping fetched).later ⟨60000000000⟩).Completes {} "site"
        ((({} : Store).put pulling).put overwritten) h₂ (.error err)
        ((({} : Store).put pulling).put overwritten)) := by
  constructor
  case left =>
    have ⟨h₁, first, _⟩ := completes_once absent
    have ⟨before, access⟩ := access (t := ⟨60000000000⟩) absent fetched (once absent) rfl
    have judges : ((world (asking absent) fetched).later ⟨60000000000⟩).Judges {} "site"
        (asking absent) (once absent) () fetched.digest (once absent) _ _ :=
      ⟨⟨before, _, access, .found rfl, rfl⟩, rfl⟩
    exact ⟨h₁, _, _, first,
      completes_iff.2 ⟨rfl, .inr ⟨_, .filled judges (by decide +kernel) rfl rfl⟩⟩,
      judges.fetches_filled, rfl⟩
  case right =>
    have access : (world overlapping fetched).Access {} "site" overlapping
        (({} : Store).put pulling) () fetched.digest _ := {
      spec   := rfl
      valid  := rfl
      opened := ⟨_, _, ⟨120000000000⟩, .pulled (s := pulling) rfl rfl rfl, rfl, rfl, rfl⟩
      digest := rfl
    }
    have judges : (world overlapping fetched).Judges {} "site" overlapping
        (({} : Store).put pulling) () fetched.digest (({} : Store).put pulling) pulling _ :=
      ⟨⟨_, _, access, .found rfl, rfl⟩, rfl⟩
    have lost : ((world overlapping fetched).later ⟨60000000000⟩).Finishes {} (.start "site")
        ((({} : Store).put pulling).put overwritten)
        [⟨.getSpec "site", .ok (some overlapping)⟩,
          ⟨.getSecret desired.spec.target, .ok (some (Store.withVersion overwritten 2))⟩]
        _ ((({} : Store).put pulling).put overwritten) :=
      ⟨.step rfl (.step rfl .refl), .step rfl (.step rfl .refl)⟩
    exact ⟨_, _, _, completes_iff.2 ⟨rfl, .inr ⟨_, .filled judges rfl rfl rfl⟩⟩,
      completes_iff_finishes.2 lost⟩

end Pass

end ArtifactSync
