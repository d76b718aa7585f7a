import ArtifactSync.Proofs.Operator.Genuine
import ArtifactSync.Proofs.Registry.Failing
import ArtifactSync.Proofs.Registry.Files
import ArtifactSync.Proofs.Sync.History

namespace ArtifactSync.Pass

open Interaction (Reaches Turn)
open Registry (Address CredentialStore Source)

variable {config : Config} {options : Registry.Options} {name : String} {o : OciSecret}
  {h h₁ h₂ : History Source} {s : Stage Source} {e : Error} {r : Except Error Duration}

-- A world that holds this desired state, and whatever else.
structure Within (options : Registry.Options) (name : String) (o : OciSecret)
    (h : History Source) : Prop where
  genuine : ∀ e ∈ h, Genuine options e
  holds   : ∀ found, ⟨.getSpec name, .ok found⟩ ∈ h → found = some o

-- Nothing is wrong with the desired state itself.
structure Sensible (o : OciSecret) : Prop where
  valid : o.validate = .ok ()
  named : ∃ address r, Address.ofText o.spec.registry = .ok address ∧
    address.reference o.spec.artifact = .ok r

-- What somebody can remedy who does not edit the desired state.
inductive Remediable (o : OciSecret) (h : History Source) : Error → Prop
  | credential {r : SecretRef} {s : Kubernetes.Secret} {c : PullCredential}
      {f : CredentialStore.Fault} :
    (o.spec.pullSecretRef = some r) → ⟨.getSecret r, .ok (some s)⟩ ∈ h →
    PullCredential.ofSecret s = .ok c → CredentialStore.ofDockerConfig c.bytes = .error f →
    Remediable o h (.invalidRegistry f.message)
  | target {e : Error} :
    (⟨.getSecret o.spec.target, .ok none⟩ ∈ h) → Target.create o = .error e → Remediable o h e

-- The credential is what the pull secret holds.
def Credited (o : OciSecret) (h : History Source) (credential : Option PullCredential) : Prop :=
  ∀ c ∈ credential, ∃ r s, o.spec.pullSecretRef = some r ∧
    ⟨.getSecret r, .ok (some s)⟩ ∈ h ∧ PullCredential.ofSecret s = .ok c

theorem Credited.snoc {credential : Option PullCredential} {turn : Turn (Answer (ρ := Source))}
    (c : Credited o h credential) : Credited o (h ++ [turn]) credential := by
  intro c' hc
  have ⟨r, s, hr, hs, held⟩ := c c' hc
  exact ⟨r, s, hr, List.mem_append_left _ hs, held⟩

-- The artifact has a reference within the repository of the source.
def Named (o : OciSecret) (source : Source) : Prop :=
  Address.ofText o.spec.registry = .ok source.client.address ∧
    ∃ r, source.client.reference o.spec.artifact = .ok r

-- What has turned out about the desired state by the time a pass stands at a stage.
def Known (name : String) (o : OciSecret) : Stage Source → History Source → Prop
  | .start n, _ => n = name
  | .pull o' r, _ => o' = o ∧ o.validate = .ok () ∧ o.spec.pullSecretRef = some r
  | .clock o' c, h | .connecting o' c _, h => o' = o ∧ o.validate = .ok () ∧ Credited o h c
  | .stuck, _ => True
  | .resolving o' source, _ =>
    o' = o ∧ o.validate = .ok () ∧ Address.ofText o.spec.registry = .ok source.client.address
  | .looking o' source _, _ | .creating o' source _ _, _ | .reading o' source _, _
  | .fetching o' source _, _ => o' = o ∧ o.validate = .ok () ∧ Named o source
  | .replacing o' _ _, _ => o' = o ∧ Sensible o
  | .ended (.ok _), _ => Sensible o
  | .ended (.error e), h => e.isRetryable = true ∨ ¬Sensible o ∨ Remediable o h e

theorem isRetryable_ofSecret {s : Kubernetes.Secret} (h : PullCredential.ofSecret s = .error e) :
    e.isRetryable = true := by
  unfold PullCredential.ofSecret at h
  split at h <;> cases h
  rfl

theorem reference_eq_ok_iff {client : Registry.Client} {artifact : String}
    {r : Registry.Reference} :
    client.reference artifact = .ok r ↔ client.address.reference artifact = .ok r := by
  unfold Registry.Client.reference
  cases client.address.reference artifact <;> simp

theorem Named.sensible {source : Source} (valid : o.validate = .ok ()) (n : Named o source) :
    Sensible o where
  valid := valid
  named := by
    have ⟨address, r, hr⟩ := n
    exact ⟨_, r, address, reference_eq_ok_iff.1 hr⟩

theorem not_sensible_of_reference {source : Source}
    (address : Address.ofText o.spec.registry = .ok source.client.address)
    (hr : source.client.reference o.spec.artifact = .error e) : ¬Sensible o := by
  intro sensible
  have ⟨_, r, ha, hr'⟩ := sensible.named
  cases address.symm.trans ha
  cases hr.symm.trans (reference_eq_ok_iff.2 hr')

namespace Known

variable {α : Type} {go : α → Stage Source} {x : Except Error α}

theorem given (ok : ∀ a, x = .ok a → Known name o (go a) h)
    (error : ∀ e, x = .error e → e.isRetryable = true ∨ ¬Sensible o ∨ Remediable o h e) :
    Known name o (.given go x) h := by
  cases x with
  | ok a    => exact ok a rfl
  | error e => exact error e rfl

-- Where nothing but the store can fail.
theorem stored (ok : ∀ a, x = .ok a → Known name o (go a) h)
    (genuine : ∀ e, x = .error e → IsOfStore e) : Known name o (.given go x) h :=
  given ok fun e he => .inl (genuine e he).isRetryable

-- Access fails over the address, or over what the pull secret holds.
theorem connected {credential : Option PullCredential} {t : Instant} {go : Source → Stage Source}
    (credited : Credited o h credential)
    (ok : ∀ source, Address.ofText o.spec.registry = .ok source.client.address →
      Known name o (go source) h) :
    Known name o
      (.given go ((Registry.Client.connect o.spec.registry credential options).map (⟨·, t⟩)))
      h := by
  unfold Registry.Client.connect
  cases ha : Address.ofText o.spec.registry with
  | error _ =>
    refine .inr (.inl fun sensible => ?_)
    have ⟨_, _, ha', _⟩ := sensible.named
    cases ha.symm.trans ha'
  | ok address =>
    dsimp only
    unfold Registry.Client.loginFor
    split
    case h_1 => exact ok ⟨_, t⟩ ha
    case h_2 c hc =>
      cases hd : CredentialStore.ofDockerConfig c.bytes with
      | ok _    => exact ok ⟨_, t⟩ ha
      | error _ =>
        have ⟨_, _, hr, hs, held⟩ := credited c (Option.filter_eq_some_iff.1 hc).1
        exact .inr (.inr (.credential hr hs held hd))

-- A fetch fails over the reference, or as fetches do.
theorem fetched {source : Source}
    (address : Address.ofText o.spec.registry = .ok source.client.address)
    (concludes : source.Concludes o.spec.artifact x)
    (ok : ∀ a, x = .ok a → Named o source → Known name o (go a) h) :
    Known name o (.given go x) h := by
  cases concludes with
  | named hr fails =>
    refine given (fun a ha => ok a ha ⟨address, _, hr⟩) fun e he => ?_
    have ⟨_, _, he⟩ := fails e he
    subst he
    exact .inl rfl
  | unnamed hr     => exact .inr (.inl (not_sensible_of_reference address hr))

-- One answer more. Only where something is parsed, or a target is made up, can it be the last one
-- over something that is not worth another try.
theorem next {c : Call Source} {x : Answer c} {go : Answer c → Stage Source}
    (k : Known name o s h) (hn : s.next config = some ⟨c, go⟩)
    (w : Within options name o (h ++ [⟨c, x⟩])) : Known name o (go x) (h ++ [⟨c, x⟩]) := by
  have here : ⟨c, x⟩ ∈ h ++ [⟨c, x⟩] := by simp
  have genuine := w.genuine _ here
  cases s with
  | start n =>
    cases hn
    subst k
    cases genuine with
    | getSpec fails =>
      refine stored (fun found hf => ?_) fails
      subst hf
      cases w.holds found here
      refine given (x := o.validate) (fun _ hv => ?_) fun _ hv => .inr (.inl fun sensible => ?_)
      · cases hp : o.spec.pullSecretRef with
        | none   => exact ⟨rfl, hv, nofun⟩
        | some r => exact ⟨rfl, hv, hp⟩
      · cases hv.symm.trans sensible.valid
  | pull o' r =>
    cases hn
    have ⟨ho, valid, hp⟩ := k
    subst ho
    cases genuine with
    | getSecret fails =>
      refine stored (fun found hf => ?_) fails
      subst hf
      cases found with
      | none   => exact .inl rfl
      | some s =>
        refine given (fun c hc => ⟨rfl, valid, ?_⟩) fun e he => .inl (isRetryable_ofSecret he)
        intro c' hc'
        cases hc'
        exact ⟨r, s, hp, here, hc⟩
  | clock o' credential =>
    cases hn
    have ⟨ho, valid, credited⟩ := k
    dsimp only
    cases Instant.add? x config.registryTimeout with
    | some _ => exact ⟨ho, valid, credited.snoc⟩
    | none   => trivial
  | stuck =>
    cases hn
    cases x
  | connecting o' credential t =>
    cases hn
    have ⟨ho, valid, credited⟩ := k
    subst ho
    cases genuine with
    | connect hx =>
      subst hx
      exact connected credited.snoc fun source address => ⟨rfl, valid, address⟩
  | resolving o' source =>
    cases hn
    have ⟨ho, valid, address⟩ := k
    subst ho
    cases genuine with
    | fetchDigest reaches =>
      exact fetched address (Source.fetchDigest_concludes reaches) fun _ _ n => ⟨rfl, valid, n⟩
  | looking o' source current =>
    cases hn
    have ⟨ho, valid, n⟩ := k
    subst ho
    cases genuine with
    | getSecret fails =>
      refine stored (fun found hf => ?_) fails
      subst hf
      cases found with
      | some _ => exact ⟨rfl, valid, n⟩
      | none   =>
        exact given (fun _ _ => ⟨rfl, valid, n⟩) fun e he => .inr (.inr (.target here he))
  | creating o' source current fresh =>
    cases hn
    cases genuine with
    | createSecret fails => exact stored (fun _ _ => k) fails
  | reading o' source current =>
    cases hn
    have ⟨ho, valid, n⟩ := k
    cases genuine with
    | getSecret fails =>
      refine stored (fun found hf => ?_) fails
      cases found with
      | none   => exact .inl rfl
      | some _ =>
        dsimp only
        split
        · exact k
        · exact n.sensible valid
  | fetching o' source target =>
    cases hn
    have ⟨ho, valid, n⟩ := k
    subst ho
    cases genuine with
    | fetchContent reaches =>
      exact fetched n.1 (Source.fetchContent_concludes reaches) fun _ _ n =>
        ⟨rfl, n.sensible valid⟩
  | replacing o' target content =>
    cases hn
    cases genuine with
    | replaceSecret fails => exact stored (fun _ _ => k.2) fails
  | ended r => cases hn

end Known

theorem Within.of_append (w : Within options name o (h₁ ++ h₂)) : Within options name o h₁ where
  genuine e he := w.genuine e (List.mem_append_left _ he)
  holds _ hf   := w.holds _ (List.mem_append_left _ hf)

theorem Known.of_reaches (w : Within options name o h)
    (reaches : (reconcile config name).run.Reaches h (.done r)) : Known name o (.ended r) h := by
  have steps := reaches_iff_steps.1 reaches
  refine steps.keeps (P := fun s h => Within options name o h → Known name o s h) (fun _ => rfl)
    ?_ w
  intro _ _ _ _ _ known hn w
  exact (known w.of_append).next hn w

-- A pass that succeeds does so over a desired state with which nothing is wrong.
theorem sensible_of_ok {d : Duration} (w : Within options name o h)
    (reaches : (reconcile config name).run.Reaches h (.done (.ok d))) : Sensible o :=
  Known.of_reaches w reaches

theorem not_retryable_stays (w₁ : Within options name o h₁)
    (failed : (reconcile config name).run.Reaches h₁ (.done (.error e)))
    (final : e.isRetryable = false) :
    Remediable o h₁ e ∨ ∀ h₂ r, Within options name o h₂ →
      (reconcile config name).run.Reaches h₂ (.done r) → ∀ d, r ≠ .ok d := by
  cases Known.of_reaches w₁ failed with
  | inl retryable => cases retryable.symm.trans final
  | inr fault     =>
    cases fault with
    | inl wrong      =>
      refine .inr fun h₂ r w₂ reaches d hd => wrong ?_
      subst hd
      exact sensible_of_ok w₂ reaches
    | inr remediable => exact .inl remediable

theorem Within.begin (w : Within options name o h) :
    Within options name o (⟨.getSpec name, .ok (some o)⟩ :: h) where
  genuine      := List.forall_mem_cons.2 ⟨.getSpec nofun, w.genuine⟩
  holds _ here := by
    cases here with
    | head      => rfl
    | tail _ hf => exact w.holds _ hf

theorem Within.cons {c : Call Source} {x : Answer c} (hc : ∀ n, c ≠ .getSpec n)
    (genuine : Genuine options ⟨c, x⟩) (w : Within options name o h) :
    Within options name o (⟨c, x⟩ :: h) where
  genuine      := List.forall_mem_cons.2 ⟨genuine, w.genuine⟩
  holds _ here := by
    cases here with
    | head      => exact (hc _ rfl).elim
    | tail _ hf => exact w.holds _ hf

theorem Within.nil : Within options name o [] where
  genuine _ he := (List.not_mem_nil he).elim
  holds _ hf   := (List.not_mem_nil hf).elim

-- A registry that names the artifact to anybody, and desired states that are told wrongly where it
-- is, that have a pull secret, and that nothing can be owned by.
namespace Mended

open Registry (Client)

def usual : Registry.Options := .ofConfig {}

def astray : OciSecret :=
  { Sample.desired with spec := { Sample.desired.spec with registry := "site" } }

def pullRef : SecretRef := ⟨some "pull", some "web"⟩

def asking : OciSecret :=
  { Sample.desired with spec := { Sample.desired.spec with pullSecret := some pullRef } }

def unowned : OciSecret :=
  { Sample.desired with metadata := { name := some "site" } }

def ownerless : Error :=
  .invalidSpec s!"OCISecret {unowned.anyName} has no uid to own {unowned.spec.target.text}"

def pulled (config : Bytes) : Kubernetes.Secret where
  data := some (.singleton PullCredential.key config)

def target : Kubernetes.Secret :=
  Target.fill Sample.stored ⟨⟨"sha256:m"⟩, ∅⟩

def source : Source := ⟨⟨⟨"r.io", "site"⟩, .anonymous, usual⟩, ⟨120000000000⟩⟩

def registry : Registry.Surroundings where
  reply _ := .response {
    status  := ⟨200⟩
    phrase  := "OK"
    headers := [(Registry.Retrieval.digestHeader, bytesOf "sha256:m")]
    body    := []
  }

theorem digest_eq :
    (((source.fetchDigest "v1").run none).answeredBy (m := Id) registry.world).1.toOption =
      some ⟨"sha256:m"⟩ := by
  decide +kernel

theorem connect_astray : (Client.connect "site" none usual).toOption = none := by
  decide +kernel

theorem connect_anonymous :
    (Client.connect "r.io/site" none usual).toOption = some source.client := by
  decide +kernel

-- The text `x`, which is no config, and one without entries.
theorem connect_malformed :
    (Client.connect "r.io/site" (some ⟨[120]⟩) usual).toOption = none := by
  decide +kernel

theorem connect_mended :
    (Client.connect "r.io/site" (some ⟨[123, 125]⟩) usual).toOption = some source.client := by
  decide +kernel

theorem isRetryable_connect {a : String} {c : Option PullCredential}
    (h : Client.connect a c options = .error e) : e.isRetryable = false := by
  unfold Client.connect Client.loginFor at h
  cases ha : Address.ofText a with
  | error _ =>
    rw [ha] at h
    cases h
    rfl
  | ok _    =>
    rw [ha] at h
    dsimp only at h
    split at h
    case h_1 => cases h
    case h_2 c _ =>
      cases hd : CredentialStore.ofDockerConfig c.bytes with
      | error _ =>
        rw [hd] at h
        cases h
        rfl
      | ok _    =>
        rw [hd] at h
        cases h

theorem refused {a : String} {c : Option PullCredential}
    (h : (Client.connect a c usual).toOption = none) :
    ∃ e, e.isRetryable = false ∧ ∀ t, Genuine usual ⟨.connect a c t, .error e⟩ := by
  cases hc : Client.connect a c usual with
  | ok _    =>
    rw [hc] at h
    cases h
  | error e => exact ⟨e, isRetryable_connect hc, fun t => .connect (by rw [hc]; rfl)⟩

theorem granted {a : String} {c : Option PullCredential}
    (h : (Client.connect a c usual).toOption = some source.client) :
    Genuine usual ⟨.connect a c ⟨120000000000⟩, .ok source⟩ := by
  cases hc : Client.connect a c usual with
  | error _ =>
    rw [hc] at h
    cases h
  | ok _    =>
    rw [hc] at h
    cases h
    exact .connect (by rw [hc]; rfl)

theorem named : Genuine usual ⟨.fetchDigest source "v1", .ok ⟨"sha256:m"⟩⟩ := by
  have ⟨k, reaches⟩ := Registry.reaches_ok digest_eq
  exact .fetchDigest reaches

-- What comes after access to the registry, where the target is there and up to date.
def settled (o : OciSecret) : History Source := [
  ⟨.fetchDigest source "v1", .ok ⟨"sha256:m"⟩⟩,
  ⟨.getSecret o.spec.target, .ok (some target)⟩,
  ⟨.getSecret o.spec.target, .ok (some target)⟩
]

def strayed (e : Error) : History Source := [
  ⟨.getSpec "site", .ok (some astray)⟩,
  ⟨.now, (⟨0⟩ : Instant)⟩,
  ⟨.connect "site" none ⟨120000000000⟩, .error e⟩
]

def malformed (e : Error) : History Source := [
  ⟨.getSpec "site", .ok (some asking)⟩,
  ⟨.getSecret pullRef, .ok (some (pulled [120]))⟩,
  ⟨.now, (⟨0⟩ : Instant)⟩,
  ⟨.connect "r.io/site" (some ⟨[120]⟩) ⟨120000000000⟩, .error e⟩
]

def mended : History Source := [
  ⟨.getSpec "site", .ok (some asking)⟩,
  ⟨.getSecret pullRef, .ok (some (pulled [123, 125]))⟩,
  ⟨.now, (⟨0⟩ : Instant)⟩,
  ⟨.connect "r.io/site" (some ⟨[123, 125]⟩) ⟨120000000000⟩, .ok source⟩
] ++ settled asking

def unmade : History Source := [
  ⟨.getSpec "site", .ok (some unowned)⟩,
  ⟨.now, (⟨0⟩ : Instant)⟩,
  ⟨.connect "r.io/site" none ⟨120000000000⟩, .ok source⟩,
  ⟨.fetchDigest source "v1", .ok ⟨"sha256:m"⟩⟩,
  ⟨.getSecret unowned.spec.target, .ok none⟩
]

def made : History Source := [
  ⟨.getSpec "site", .ok (some unowned)⟩,
  ⟨.now, (⟨0⟩ : Instant)⟩,
  ⟨.connect "r.io/site" none ⟨120000000000⟩, .ok source⟩
] ++ settled unowned

theorem within_settled : Within usual "site" o (settled o) :=
  .cons nofun named (.cons nofun (.getSecret nofun) (.cons nofun (.getSecret nofun) .nil))

theorem within_strayed (refused : ∀ t, Genuine usual ⟨.connect "site" none t, .error e⟩) :
    Within usual "site" astray (strayed e) :=
  .begin (.cons nofun .now (.cons nofun (refused _) .nil))

theorem within_malformed
    (refused : ∀ t, Genuine usual ⟨.connect "r.io/site" (some ⟨[120]⟩) t, .error e⟩) :
    Within usual "site" asking (malformed e) :=
  .begin (.cons nofun (.getSecret nofun) (.cons nofun .now (.cons nofun (refused _) .nil)))

theorem within_mended : Within usual "site" asking mended :=
  .begin (.cons nofun (.getSecret nofun) (.cons nofun .now
    (.cons nofun (granted connect_mended) within_settled)))

theorem within_unmade : Within usual "site" unowned unmade :=
  .begin (.cons nofun .now (.cons nofun (granted connect_anonymous) (.cons nofun named
    (.cons nofun (.getSecret nofun) .nil))))

theorem within_made : Within usual "site" unowned made :=
  .begin (.cons nofun .now (.cons nofun (granted connect_anonymous) within_settled))

theorem strayed_steps : Stage.Steps {} (.start "site") (strayed e) (.ended (.error e)) := by
  iterate 3 refine .step rfl ?_
  exact .refl

theorem malformed_steps : Stage.Steps {} (.start "site") (malformed e) (.ended (.error e)) := by
  iterate 4 refine .step rfl ?_
  exact .refl

theorem mended_steps :
    Stage.Steps {} (.start "site") mended (.ended (.ok (.ofSeconds 60))) := by
  iterate 7 refine .step rfl ?_
  exact .refl

theorem unmade_steps : Stage.Steps {} (.start "site") unmade (.ended (.error ownerless)) := by
  iterate 5 refine .step rfl ?_
  exact .refl

theorem made_steps : Stage.Steps {} (.start "site") made (.ended (.ok (.ofSeconds 60))) := by
  iterate 6 refine .step rfl ?_
  exact .refl

end Mended

open Mended in
theorem not_retryable_stays_sample : ∃ h₁ e,
    Within usual "site" astray h₁ ∧
    (reconcile {} "site").run.Reaches h₁ (.done (.error e)) ∧ e.isRetryable = false ∧
    (Remediable astray h₁ e ∨ ∀ h₂ r, Within usual "site" astray h₂ →
      (reconcile {} "site").run.Reaches h₂ (.done r) → ∀ d, r ≠ .ok d) := by
  have ⟨e, final, refused⟩ := refused connect_astray
  have within := within_strayed refused
  have failed := reaches_iff_steps.2 (strayed_steps (e := e))
  exact ⟨_, e, within, failed, final, not_retryable_stays within failed final⟩

-- A pull secret that is mended is enough, and so is a target that somebody else has made.
open Mended in
theorem not_retryable_goes_away :
    (∃ h₁ h₂ e d,
      Within usual "site" asking h₁ ∧
      (reconcile {} "site").run.Reaches h₁ (.done (.error e)) ∧ e.isRetryable = false ∧
      Within usual "site" asking h₂ ∧ (reconcile {} "site").run.Reaches h₂ (.done (.ok d))) ∧
    (∃ h₁ h₂ e d,
      Within usual "site" unowned h₁ ∧
      (reconcile {} "site").run.Reaches h₁ (.done (.error e)) ∧ e.isRetryable = false ∧
      Within usual "site" unowned h₂ ∧ (reconcile {} "site").run.Reaches h₂ (.done (.ok d))) := by
  constructor
  case left =>
    have ⟨e, final, refused⟩ := refused connect_malformed
    exact ⟨_, _, e, _, within_malformed refused, reaches_iff_steps.2 malformed_steps, final,
      within_mended, reaches_iff_steps.2 mended_steps⟩
  case right =>
    exact ⟨_, _, ownerless, _, within_unmade, reaches_iff_steps.2 unmade_steps, rfl, within_made,
      reaches_iff_steps.2 made_steps⟩

end ArtifactSync.Pass
