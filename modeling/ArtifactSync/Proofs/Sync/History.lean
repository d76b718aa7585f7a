import ArtifactSync.Proofs.Sync.Stage
import ArtifactSync.Proofs.Sync.Versions

namespace ArtifactSync.Pass

open Kubernetes (Secret)
open Interaction (Turn)

variable {ρ : Type} {config : Config} {name : String} {o : OciSecret} {found : Option OciSecret}
  {fresh target : Secret} {content : Content} {h : History ρ} {e : Turn (Answer (ρ := ρ))}

inductive Write
  | create (s : Secret)
  | replace (s : Secret)

def Write.secret : Write → Secret
  | create s | replace s => s

def Write.on {σ : Type} [SecretStore σ] (st : σ) : Write → Except Error σ
  | create s  => SecretStore.create st s
  | replace s => SecretStore.replace st s

-- A write that failed is no write.
def write? : Turn (Answer (ρ := ρ)) → Option Write
  | ⟨.createSecret s, .ok ()⟩  => some (.create s)
  | ⟨.replaceSecret s, .ok ()⟩ => some (.replace s)
  | _                          => none

def writes (h : History ρ) : List Write :=
  h.filterMap write?

@[simp]
theorem writes_append (h₁ h₂ : History ρ) : writes (h₁ ++ h₂) = writes h₁ ++ writes h₂ :=
  List.filterMap_append

theorem writes_singleton : writes [e] = (write? e).toList := by
  cases he : write? e <;> simp [writes, he]

-- The desired state was not read here, and nothing was written.
structure Quiet (e : Turn (Answer (ρ := ρ))) : Prop where
  spec  : ∀ name o, e ≠ ⟨.getSpec name, .ok (some o)⟩
  write : write? e = none

theorem Quiet.of {c : Call ρ} {x : Answer c} (spec : ∀ name, c ≠ .getSpec name)
    (write : write? ⟨c, x⟩ = none) : Quiet ⟨c, x⟩ where
  spec name _ h := spec name (congrArg Turn.question h)
  write         := write

theorem Quiet.create_error {s : Secret} {err : Error} :
    Quiet (ρ := ρ) ⟨.createSecret s, .error err⟩ :=
  .of nofun rfl

theorem Quiet.replace_error {s : Secret} {err : Error} :
    Quiet (ρ := ρ) ⟨.replaceSecret s, .error err⟩ :=
  .of nofun rfl

-- The target was made, and only after the registry had named the artifact and the store had been
-- found without a target.
structure Created (o : OciSecret) (fresh : Secret) (h : History ρ) : Prop where
  create  : Target.create o = .ok fresh
  written : writes h = [.create fresh]
  order   : ∃ source current,
    [⟨.fetchDigest source o.spec.artifact, .ok current⟩, ⟨.getSecret o.spec.target, .ok none⟩,
      ⟨.createSecret fresh, .ok ()⟩] <:+: h

theorem Created.snoc (c : Created o fresh h) (q : Quiet e) : Created o fresh (h ++ [e]) where
  create  := c.create
  written := by simp [writes_singleton, q.write, c.written]
  order   := by
    have ⟨source, current, hc⟩ := c.order
    exact ⟨source, current, hc.trans (List.prefix_append h [e]).isInfix⟩

-- The time before the replacement, in which the desired state is read once and the target is made
-- at most once.
structure Early (name : String) (found : Option OciSecret) (h : History ρ) : Prop where
  spec    : ∀ o, ⟨.getSpec name, .ok (some o)⟩ ∈ h ↔ found = some o
  written : writes h = [] ∨ ∃ o fresh, found = some o ∧ Created o fresh h

-- And before that, nothing is written at all.
structure Untouched (name : String) (o : OciSecret) (h : History ρ) : Prop where
  spec    : ∀ o', ⟨.getSpec name, .ok (some o')⟩ ∈ h ↔ some o = some o'
  written : writes h = []

theorem Untouched.early (u : Untouched name o h) : Early name (some o) h where
  spec    := u.spec
  written := .inl u.written

theorem Quiet.mem_iff (q : Quiet e) :
    ⟨.getSpec name, .ok (some o)⟩ ∈ h ++ [e] ↔ ⟨.getSpec name, .ok (some o)⟩ ∈ h := by
  have := (q.spec name o).symm
  simp [this]

theorem Quiet.writes_eq (q : Quiet e) : writes (h ++ [e]) = writes h := by
  simp [writes_singleton, q.write]

theorem Untouched.snoc (u : Untouched name o h) (q : Quiet e) : Untouched name o (h ++ [e]) where
  spec _  := q.mem_iff.trans (u.spec _)
  written := q.writes_eq.trans u.written

theorem Untouched.created (u : Untouched name o h) (create : Target.create o = .ok fresh)
    (order : ∃ source current,
      [⟨.fetchDigest source o.spec.artifact, .ok current⟩, ⟨.getSecret o.spec.target, .ok none⟩,
        ⟨.createSecret fresh, .ok ()⟩] <:+: h ++ [⟨.createSecret fresh, .ok ()⟩]) :
    Early name (some o) (h ++ [⟨.createSecret fresh, .ok ()⟩]) where
  spec _  := by simpa using u.spec _
  written := .inr ⟨o, fresh, rfl, create, by rw [writes_append, u.written]; rfl, order⟩

theorem Early.snoc (p : Early name found h) (q : Quiet e) : Early name found (h ++ [e]) where
  spec _  := q.mem_iff.trans (p.spec _)
  written := by
    cases p.written with
    | inl hw => exact .inl (q.writes_eq.trans hw)
    | inr hc =>
      have ⟨o, fresh, ho, c⟩ := hc
      exact .inr ⟨o, fresh, ho, c.snoc q⟩

-- The last three calls read the target, fetched the artifact, and put the one into the other.
def Replaced (name : String) (o : OciSecret) (s : Secret) (h : History ρ) : Prop :=
  ∃ before target source content,
    Early name (some o) before ∧
    [⟨.getSecret o.spec.target, .ok (some target)⟩,
      ⟨.fetchContent source o.spec.artifact, .ok content⟩] <:+ before ∧
    s = Target.fill target (content.restrictTo o.spec.allowList) ∧
    h = before ++ [⟨.replaceSecret s, .ok ()⟩]

-- All that can have happened before a stage.
def Past (config : Config) (name : String) : Stage ρ → History ρ → Prop
  | .start n, h => n = name ∧ h = []
  | .pull o _, h | .clock o _, h | .connecting o _ _, h | .resolving o _, h => Untouched name o h
  | .stuck, h => ∃ o, Untouched name o h
  | .looking o source current, h =>
    Untouched name o h ∧ [⟨.fetchDigest source o.spec.artifact, .ok current⟩] <:+ h
  | .creating o source current fresh, h =>
    Untouched name o h ∧ Target.create o = .ok fresh ∧
      [⟨.fetchDigest source o.spec.artifact, .ok current⟩,
        ⟨.getSecret o.spec.target, .ok none⟩] <:+ h
  | .reading o _ _, h => Early name (some o) h
  | .fetching o _ target, h =>
    Early name (some o) h ∧ [⟨.getSecret o.spec.target, .ok (some target)⟩] <:+ h
  | .replacing o target content, h =>
    Early name (some o) h ∧ ∃ source,
      [⟨.getSecret o.spec.target, .ok (some target)⟩,
        ⟨.fetchContent source o.spec.artifact, .ok content⟩] <:+ h
  | .ended r, h =>
    (∃ found, Early name found h ∧ ∀ d, r = .ok d → d = config.requeueInterval) ∨
      (∃ o s, Replaced name o s h ∧ r = .ok config.requeueInterval)

namespace Past

variable {α : Type} {s : Stage ρ}

theorem ended (p : Early name found h) : Past config name (.ended (.ok config.requeueInterval)) h :=
  .inl ⟨found, p, fun _ hd => by cases hd; rfl⟩

theorem failed {err : Error} (p : Early name found h) : Past config name (.ended (.error err)) h :=
  .inl ⟨found, p, fun _ hd => by cases hd⟩

theorem given {go : α → Stage ρ} {x : Except Error α} (p : Early name found h)
    (ok : ∀ a, x = .ok a → Past config name (go a) h) : Past config name (.given go x) h := by
  cases x with
  | ok a    => exact ok a rfl
  | error _ => exact failed p

theorem loaded : Untouched (ρ := ρ) name o [⟨.getSpec name, .ok (some o)⟩] where
  spec _  := by simpa using eq_comm
  written := rfl

theorem missed {x : Answer (ρ := ρ) (.getSpec name)} (hx : ∀ o, x ≠ .ok (some o)) :
    Early (ρ := ρ) name none [⟨.getSpec name, x⟩] where
  spec o  := by simpa using (hx o).symm
  written := .inl rfl

-- One answer more. The writes are told apart by whether they succeed; no other answer adds any.
theorem next {c : Call ρ} {go : Answer c → Stage ρ} (p : Past config name s h)
    (hn : s.next config = some ⟨c, go⟩) (x : Answer c) :
    Past config name (go x) (h ++ [⟨c, x⟩]) := by
  cases s with
  | start n =>
    cases hn
    obtain ⟨rfl, rfl⟩ := p
    match x with
    | .ok (some o) =>
      change Past config n (.given _ o.validate) _
      refine given loaded.early fun _ _ => ?_
      cases o.spec.pullSecretRef <;> exact loaded
    | .ok none     => exact ended (missed (by simp))
    | .error _     => exact failed (missed (by simp))
  | pull o r =>
    cases hn
    have u := p.snoc (e := ⟨.getSecret r, x⟩) (.of nofun rfl)
    match x with
    | .ok (some s) =>
      change Past config name (.given _ (PullCredential.ofSecret s)) _
      exact given u.early fun _ _ => u
    | .ok none     => exact failed u.early
    | .error _     => exact failed u.early
  | clock o credential =>
    cases hn
    have u := p.snoc (e := ⟨.now, x⟩) (.of nofun rfl)
    dsimp only
    cases Instant.add? x config.registryTimeout with
    | some _ => exact u
    | none   => exact ⟨o, u⟩
  | stuck =>
    cases hn
    cases x
  | connecting o credential deadline =>
    cases hn
    have u := p.snoc (e := ⟨.connect o.spec.registry credential deadline, x⟩) (.of nofun rfl)
    exact given u.early fun _ _ => u
  | resolving o source =>
    cases hn
    have u := p.snoc (e := ⟨.fetchDigest source o.spec.artifact, x⟩) (.of nofun rfl)
    refine given u.early fun _ hx => ⟨u, ?_⟩
    subst hx
    exact List.suffix_append _ _
  | looking o source current =>
    cases hn
    have ⟨u, hs⟩ := p
    have u' := u.snoc (e := ⟨.getSecret o.spec.target, x⟩) (.of nofun rfl)
    match x with
    | .ok (some _) => exact u'.early
    | .ok none     =>
      change Past config name (.given _ (Target.create o)) _
      exact given u'.early fun _ hc => ⟨u', hc, List.suffix_append_self_iff.2 hs⟩
    | .error _     => exact failed u'.early
  | creating o source current fresh =>
    cases hn
    have ⟨u, hc, hs⟩ := p
    match x with
    | .ok ()   => exact u.created hc ⟨source, current, (List.suffix_append_self_iff.2 hs).isInfix⟩
    | .error _ => exact failed (u.snoc .create_error).early
  | reading o source current =>
    cases hn
    have p' := Early.snoc (e := ⟨.getSecret o.spec.target, x⟩) p (.of nofun rfl)
    match x with
    | .ok (some target) =>
      dsimp only [Stage.given]
      split
      · exact ⟨p', List.suffix_append _ _⟩
      · exact ended p'
    | .ok none          => exact failed p'
    | .error _          => exact failed p'
  | fetching o source target =>
    cases hn
    have ⟨p, hs⟩ := p
    have p' := p.snoc (e := ⟨.fetchContent source o.spec.artifact, x⟩) (.of nofun rfl)
    refine given p' fun _ hx => ⟨p', source, ?_⟩
    subst hx
    exact List.suffix_append_self_iff.2 hs
  | replacing o target content =>
    cases hn
    have ⟨p, source, hs⟩ := p
    match x with
    | .ok ()   => exact .inr ⟨o, _, ⟨h, target, source, content, p, hs, rfl, rfl⟩, rfl⟩
    | .error _ => exact failed (p.snoc .replace_error)
  | ended r => cases hn

end Past

theorem past_of_steps {s : Stage ρ} (e : Stage.Steps config (.start name) h s) :
    Past config name s h :=
  e.keeps (P := Past config name) ⟨rfl, rfl⟩ fun x p hn => p.next hn x

theorem past_of_reaches {p : Underway ρ} (r : (reconcile config name).run.Reaches h p) :
    ∃ s, Stage.Unfolds config s p ∧ Past config name s h := by
  have ⟨s, e, u⟩ := (Stage.start_unfolds config name).steps r
  exact ⟨s, u, past_of_steps e⟩

-- A pass over a desired state whose target has to be made.
namespace Sample

def desired : OciSecret where
  metadata := { name := some "site", uid := some "u1" }
  spec     := { artifact := "v1", registry := "r.io/site", target := ⟨some "site", some "web"⟩ }

def blank : Secret where
  metadata := {
    name            := some "site"
    «namespace»     := some "web"
    annotations     := some (.singleton Target.digestAnnotation Target.sentinel.text)
    ownerReferences := some [{
      apiVersion := OciSecret.apiVersion
      kind       := OciSecret.kind
      name       := "site"
      uid        := "u1"
      controller := some true
    }]
  }
  type := some "Opaque"

def stored : Secret := Store.withVersion blank 1

def fetched : Content := ⟨⟨"sha256:b"⟩, .singleton "index.html" [60, 62]⟩

def filled : Secret := Target.fill stored (fetched.restrictTo desired.spec.allowList)

def history : History Unit := [
  ⟨.getSpec "site", .ok (some desired)⟩,
  ⟨.now, (⟨0⟩ : Instant)⟩,
  ⟨.connect "r.io/site" none ⟨120000000000⟩, .ok ()⟩,
  ⟨.fetchDigest () "v1", .ok ⟨"sha256:a"⟩⟩,
  ⟨.getSecret desired.spec.target, .ok none⟩,
  ⟨.createSecret blank, .ok ()⟩,
  ⟨.getSecret desired.spec.target, .ok (some stored)⟩,
  ⟨.fetchContent () "v1", .ok fetched⟩
]

theorem steps : Stage.Steps {} (.start "site") history (.replacing desired stored fetched) := by
  iterate 8 refine .step rfl ?_
  exact .refl

end Sample

end ArtifactSync.Pass
