import ArtifactSync.Operator.Pass
import ArtifactSync.Proofs.Interaction.Reaches

namespace ArtifactSync

open Interaction (Reaches Turn)
open Registry (KeptToken Source)

namespace Pass

variable {options : Registry.Options} {e : Error}

def IsOfStore (e : Error) : Prop :=
  (∃ cause, e = .api cause) ∨ ∃ target cause, e = .persistFailed target cause

-- A store fails as a store does, and the registry is accessed as it is in earnest, whatever comes
-- of that.
inductive Genuine (options : Registry.Options) : Turn (Answer (ρ := Source)) → Prop
  | now {t : Instant} : Genuine options ⟨.now, t⟩
  | getSpec {name : String} {x : Except Error (Option OciSecret)} :
    (∀ e, x = .error e → IsOfStore e) → Genuine options ⟨.getSpec name, x⟩
  | getSecret {r : SecretRef} {x : Except Error (Option Kubernetes.Secret)} :
    (∀ e, x = .error e → IsOfStore e) → Genuine options ⟨.getSecret r, x⟩
  | createSecret {s : Kubernetes.Secret} {x : Except Error Unit} :
    (∀ e, x = .error e → IsOfStore e) → Genuine options ⟨.createSecret s, x⟩
  | replaceSecret {s : Kubernetes.Secret} {x : Except Error Unit} :
    (∀ e, x = .error e → IsOfStore e) → Genuine options ⟨.replaceSecret s, x⟩
  | connect {a : String} {c : Option PullCredential} {t : Instant} {x : Except Error Source} :
    (x = (Registry.Client.connect a c options).map (⟨·, t⟩)) →
    Genuine options ⟨.connect a c t, x⟩
  | fetchDigest {source : Source} {a : String} {x : Except Error Digest}
      {t : List (Turn Registry.Answer)} {k k' : Option Registry.KeptToken} :
    ((source.fetchDigest a).run k).Reaches t (.done (x, k')) →
    Genuine options ⟨.fetchDigest source a, x⟩
  | fetchContent {source : Source} {a : String} {x : Except Error Content}
      {t : List (Turn Registry.Answer)} {k k' : Option Registry.KeptToken} :
    ((source.fetchContent a).run k).Reaches t (.done (x, k')) →
    Genuine options ⟨.fetchContent source a, x⟩

-- What a store fails with is worth another try.
theorem IsOfStore.isRetryable (i : IsOfStore e) : e.isRetryable = true := by
  cases i with
  | inl api    =>
    have ⟨_, he⟩ := api
    rw [he]
    rfl
  | inr failed =>
    have ⟨_, _, he⟩ := failed
    rw [he]
    rfl

end Pass

namespace Interaction

variable {Q Q' : Type} {A : Q → Type} {A' : Q' → Type} {α β : Type} {p : Interaction A α}
  {t : List (Turn A)} {a : α} {b : β}

theorem Reaches.map_elim {f : α → β} (r : (f <$> p).Reaches t (.done b)) :
    ∃ a, p.Reaches t (.done a) ∧ b = f a := by
  rw [map_eq_pure_bind] at r
  have ⟨t₁, t₂, a, ht, first, last⟩ := r.bind_elim
  have ⟨ht₂, hb⟩ := last.done_elim
  cases hb
  rw [ht, ht₂, List.append_nil]
  exact ⟨a, first, rfl⟩

-- What a program is answered with may be asked for elsewhere.
theorem Reaches.of_answeredBy {world : (q : Q) → Interaction A' (A q)} {t : List (Turn A')}
    (r : (p.answeredBy world).Reaches t (.done a)) : ∃ t', p.Reaches t' (.done a) := by
  induction p generalizing t with
  | done _        =>
    have ⟨_, hd⟩ := r.done_elim
    cases hd
    exact ⟨[], .refl⟩
  | ask q next hi =>
    rw [answeredBy_ask] at r
    have ⟨_, _, _, _, _, rest⟩ := r.bind_elim
    have ⟨_, rest⟩ := hi _ rest
    exact ⟨_, .step rest⟩

end Interaction

namespace Operator

open Kubernetes.SecretAccess (readResult writeResult)

variable {options : Registry.Options} {config : Config} {name : String} {α : Type}
  {t : List (Turn Answer)} {k k' : Option KeptToken} {r : Except Error Duration}

theorem reaches_of_cluster {x : Kubernetes.Exchange α} {a : α}
    (h : ((cluster x).run k).Reaches t (.done (a, k'))) : ∃ t', x.Reaches t' (.done a) := by
  have ⟨_, _, _, _, first, last⟩ := Reaches.bind_elim h
  have ⟨_, hd⟩ := last.done_elim
  cases hd
  exact first.of_answeredBy

theorem isOfStore_of_read {x : Kubernetes.Exchange (Except Kubernetes.Client.Fault α)}
    {y : Except Error α}
    (h : ((cluster (readResult <$> x)).run k).Reaches t (.done (y, k'))) :
    ∀ e, y = .error e → Pass.IsOfStore e := by
  have ⟨_, reaches⟩ := reaches_of_cluster h
  have ⟨result, _, hy⟩ := reaches.map_elim
  intro e he
  subst hy
  cases result with
  | ok _    => cases he
  | error _ =>
    cases he
    exact .inl ⟨_, rfl⟩

theorem isOfStore_of_write {s : Kubernetes.Secret}
    {x : Kubernetes.Exchange (Except Kubernetes.Client.Fault Kubernetes.Secret)}
    {y : Except Error Unit}
    (h : ((cluster (writeResult s <$> x)).run k).Reaches t (.done (y, k'))) :
    ∀ e, y = .error e → Pass.IsOfStore e := by
  have ⟨_, reaches⟩ := reaches_of_cluster h
  have ⟨result, _, hy⟩ := reaches.map_elim
  intro e he
  subst hy
  cases result with
  | ok _    => cases he
  | error _ =>
    cases he
    exact .inr ⟨_, _, rfl⟩

theorem genuine_of_serve {c : Pass.Call Source} {x : Pass.Answer c}
    (h : ((serve options c).run k).Reaches t (.done (x, k'))) : Pass.Genuine options ⟨c, x⟩ := by
  cases c with
  | now             => exact .now
  | getSpec _       => exact .getSpec (isOfStore_of_read h)
  | getSecret _     => exact .getSecret (isOfStore_of_read h)
  | createSecret _  => exact .createSecret (isOfStore_of_write h)
  | replaceSecret _ => exact .replaceSecret (isOfStore_of_write h)
  | connect _ _ _   =>
    have ⟨_, hd⟩ := h.done_elim
    cases hd
    exact .connect rfl
  | fetchDigest _ _ =>
    have ⟨_, reaches⟩ := Reaches.of_answeredBy h
    exact .fetchDigest reaches
  | fetchContent _ _ =>
    have ⟨_, reaches⟩ := Reaches.of_answeredBy h
    exact .fetchContent reaches
  | halt            => cases x

theorem genuine_of_answeredBy {p : Interaction (Pass.Answer (ρ := Source)) α} {a : α}
    (h : ((p.answeredBy (serve options)).run k).Reaches t (.done (a, k'))) :
    ∃ calls, p.Reaches calls (.done a) ∧ ∀ e ∈ calls, Pass.Genuine options e := by
  induction p generalizing t k with
  | done _        =>
    have ⟨_, hd⟩ := h.done_elim
    cases hd
    exact ⟨[], .refl, fun _ he => (List.not_mem_nil he).elim⟩
  | ask c next hi =>
    have ⟨_, _, (x, _), _, first, rest⟩ := Reaches.bind_elim (p := (serve options c).run k) h
    have ⟨calls, reaches, genuine⟩ := hi x rest
    exact ⟨_, .step reaches, List.forall_mem_cons.2 ⟨genuine_of_serve first, genuine⟩⟩

theorem reconcile_genuine (h : (reconcile options config name).Reaches t (.done r)) :
    ∃ calls, (Pass.reconcile config name).run.Reaches calls (.done r) ∧
      ∀ e ∈ calls, Pass.Genuine options e := by
  have ⟨_, reaches, hr⟩ := Reaches.map_elim h
  subst hr
  exact genuine_of_answeredBy reaches

end Operator

end ArtifactSync
