import ArtifactSync.Crd.Wait
import ArtifactSync.Proofs.Kubernetes.Catalogue

namespace ArtifactSync.Crd

open Kubernetes Kubernetes.Discovery

variable {m : Type → Type} {ε : Type} {host : Request → Answer} {c : Catalogue}
  {r : Except ε Bool} {pause : Duration → m Unit} {interval n : Nat}

-- What a look-up comes to where every request has one answer.
def lookUp (host : Request → Answer) : Except Discovery.Fault Bool :=
  isServed.answeredBy (m := Id) host

-- The kind that is looked for, in the known version.
def resource : Served := ⟨OciSecret.kind, OciSecret.version⟩

theorem lookUp_eq : lookUp host =
    (given host (recommendedBy OciSecret.group)).map (·.contains resource) := by
  unfold lookUp isServed given
  rw [Interaction.answeredBy_bind]
  rfl

theorem lookUp_true_iff (h : c.ServedBy host OciSecret.group) :
    lookUp host = .ok true ↔ c.Offers OciSecret.group resource := by
  rw [← Catalogue.exists_given_recommendedBy_iff h, lookUp_eq]
  cases given host (recommendedBy OciSecret.group) with
  | error _  => simp [Except.map]
  | ok found => simp [Except.map]

-- The pauses after that many look-ups that have found nothing.
def pauses (interval : Nat) : Nat → List Duration
  | 0 => []
  | n + 1 => .ofSeconds interval :: pauses (nextInterval interval) n

theorem waitFrom_found [Monad m] [LawfulMonad m] (found : r = .ok true) :
    waitFrom (pure r) pause interval (n + 1) = pure true := by
  rw [found, waitFrom, pure_bind]

theorem waitFrom_missing [Monad m] [LawfulMonad m] (missing : r ≠ .ok true) :
    waitFrom (pure r) pause interval n = (do forM (pauses interval n) pause; return false) := by
  induction n generalizing interval with
  | zero      => simp [waitFrom, pauses]
  | succ n hi =>
    have goes : waitFrom (pure r) pause interval (n + 1) =
        (do pause (.ofSeconds interval); waitFrom (pure r) pause (nextInterval interval) n) := by
      rw [waitFrom, pure_bind]
      split
      case h_1 => exact absurd rfl missing
      case h_2 => rfl
      case h_3 => rfl
    rw [goes, hi, pauses, List.forM_cons, bind_assoc]

-- A look-up where the answers stay the same.
def asking [Monad m] (host : Request → Answer) : m (Except Discovery.Fault Bool) :=
  isServed.answeredBy fun q => pure (host q)

-- All lists of groups, versions and resources that can be asked for can be given.
theorem isServed_iff [Monad m] [LawfulMonad m] (c : Catalogue) :
    (c.IsAddressable OciSecret.group → c.ServedBy c.api OciSecret.group) ∧
    ∀ host, c.ServedBy host OciSecret.group →
      (lookUp host = .ok true ↔ c.Offers OciSecret.group resource) ∧
      (c.IsRegular OciSecret.group →
        (lookUp host = .ok true ↔ c.Serves OciSecret.group resource ∧
          ∃ g ∈ c.groups, g.name = OciSecret.group ∧ g.Recommends OciSecret.version)) ∧
      ∀ (pause : Duration → m Unit) (lookUps : Nat),
        (lookUp host = .ok true → wait (asking host) pause (lookUps + 1) = pure true) ∧
        (lookUp host ≠ .ok true → wait (asking host) pause lookUps =
          (do forM (pauses firstInterval lookUps) pause; return false)) := by
  refine ⟨Catalogue.servedBy_api, fun host served => ?_⟩
  have exact := lookUp_true_iff served
  refine ⟨exact, fun regular => ?_, fun pause lookUps => ?_⟩
  case refine_1 => rw [exact, regular.offers_iff (by decide)]; rfl
  case refine_2 =>
    rw [asking, Interaction.answeredBy_pure]
    exact ⟨fun found => waitFrom_found found, fun missing => waitFrom_missing missing⟩

-- An API that serves the resource in two versions of which one is preferred.
namespace Twofold

def listed (version : String) : GroupVersion :=
  ⟨OciSecret.group ++ "/" ++ version, version⟩

def group (preferred : String) : Group where
  name      := OciSecret.group
  preferred := some (listed preferred)
  versions  := [listed "v1", listed "v1alpha1"]

def catalogue (preferred : String) : Catalogue where
  groups            := [{ name := "apps", versions := [⟨"apps/v1", "v1"⟩] }, group preferred]
  list groupVersion := ⟨groupVersion, [
    { kind := "OCISecret", name := "ocisecrets" },
    { kind := "OCISecret", name := "ocisecrets/status" }]⟩

variable {preferred : String}

theorem eq_group {g : Group} (hg : g ∈ (catalogue preferred).groups)
    (named : g.name = OciSecret.group) : g = group preferred := by
  rcases List.mem_cons.1 hg with rfl | hg
  case inl => exact absurd named (by decide)
  case inr => exact List.mem_singleton.1 hg

theorem isRegular : (catalogue preferred).IsRegular OciSecret.group := by
  constructor
  case unique   => exact fun _ h₁ _ h₂ n₁ n₂ => (eq_group h₁ n₁).trans (eq_group h₂ n₂).symm
  case filled   => exact fun g hg named => eq_group hg named ▸ List.cons_ne_nil _ _
  case distinct =>
    intro g hg named
    rw [eq_group hg named]
    exact List.pairwise_pair.2 (by decide)
  case spelt    =>
    intro g hg named
    rw [eq_group hg named]
    exact List.forall_mem_cons.2 ⟨rfl, List.forall_mem_singleton.2 rfl⟩
  case own      =>
    intro g hg named v _ r hr _ version given
    rcases List.mem_cons.1 hr with rfl | hr
    case inl => cases given
    case inr => cases List.mem_singleton.1 hr; cases given

theorem isAddressable : (catalogue preferred).IsAddressable OciSecret.group := by
  intro g hg named
  rw [eq_group hg named]
  refine List.forall_mem_cons.2 ⟨⟨List.all_eq_true.1 (by decide), by decide⟩, ?_⟩
  exact List.forall_mem_singleton.2 ⟨List.all_eq_true.1 (by decide), by decide⟩

theorem serves : (catalogue preferred).Serves OciSecret.group resource :=
  ⟨group preferred, .tail _ (.head _), rfl, listed "v1alpha1", .tail _ (.head _), rfl,
    { kind := "OCISecret", name := "ocisecrets" }, .head _, by decide, rfl⟩

theorem recommends : (group preferred).Recommends preferred :=
  .preferred rfl rfl

def pass (_ : Duration) : Id Unit :=
  ()

end Twofold

theorem isServed_iff_sample :
    lookUp (Twofold.catalogue "v1alpha1").api = .ok true ∧
    wait (m := Id) (asking (Twofold.catalogue "v1alpha1").api) Twofold.pass 1 = true := by
  have ⟨api, served⟩ := isServed_iff (m := Id) (Twofold.catalogue "v1alpha1")
  have ⟨_, regular, waiting⟩ := served _ (api Twofold.isAddressable)
  have found := (regular Twofold.isRegular).2
    ⟨Twofold.serves, _, .tail _ (.head _), rfl, Twofold.recommends⟩
  exact ⟨found, (waiting Twofold.pass 0).1 found⟩

-- Where another version is preferred the resource is not found, although it is served.
theorem served_but_not_found :
    (Twofold.catalogue "v1").ServedBy (Twofold.catalogue "v1").api OciSecret.group ∧
    (Twofold.catalogue "v1").Serves OciSecret.group resource ∧
    lookUp (Twofold.catalogue "v1").api = .ok false := by
  have served : (Twofold.catalogue "v1").ServedBy (Twofold.catalogue "v1").api OciSecret.group :=
    Catalogue.servedBy_api Twofold.isAddressable
  refine ⟨served, Twofold.serves, ?_⟩
  rw [lookUp_eq, (Catalogue.given_recommendedBy_ok_iff served).2 ⟨Twofold.isRegular.filled, rfl⟩]
  decide

end ArtifactSync.Crd
