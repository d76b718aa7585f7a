import ArtifactSync.Proofs.Sync.Idempotence

namespace ArtifactSync

open Kubernetes (Secret)

namespace SecretStore

variable {σ : Type} [SecretStore σ] {st st' st₁ st₁' : σ} {s s' : Secret} {k v v' : String}

-- A secret but for the version it is stored at.
def unversioned (s : Secret) : Secret :=
  { s with metadata := { s.metadata with resourceVersion := none } }

def Alike (s s' : Secret) : Prop :=
  unversioned s = unversioned s'

-- What is found under the key is the same in both stores, but for its version.
def AlikeAt (st st' : σ) (k : String) : Prop :=
  (secret? st k).map unversioned = (secret? st' k).map unversioned

-- The secret names the version that it is to replace.
def Current (st : σ) (s : Secret) : Prop :=
  ∃ old, secret? st (Store.key s) = some old ∧
    old.metadata.resourceVersion = s.metadata.resourceVersion

def outcome : Except Error σ → Except Error Unit :=
  Except.map fun _ => ()

end SecretStore

open SecretStore in
-- A store in which nothing but what is there under its key decides on a write, whatever versions
-- it has got to.
class ImpartialSecretStore (σ : Type) [SecretStore σ] : Prop where
  creates  : ∀ {st st' : σ} {s s'}, Alike s s' → AlikeAt st st' (Store.key s) →
    outcome (create st s) = outcome (create st' s')
  replaces : ∀ {st st' : σ} {s s'}, Alike s s' → AlikeAt st st' (Store.key s) →
    (Current st s ↔ Current st' s') → outcome (replace st s) = outcome (replace st' s')

namespace SecretStore

variable {σ : Type} [SecretStore σ] {st st' st₁ st₁' : σ} {s s' : Secret} {k v v' : String}
  {content : Content} {current : Digest} {allow : List String}

theorem Alike.refl : Alike s s := rfl

-- What does not look at the version cannot tell two such secrets apart.
theorem Alike.congr {α : Type} {f : Secret → α} (a : Alike s s')
    (h : ∀ s, f (unversioned s) = f s) : f s = f s' := by
  rw [← h s, ← h s', show unversioned s = unversioned s' from a]

theorem Alike.key (a : Alike s s') : Store.key s = Store.key s' :=
  a.congr fun _ => rfl

theorem Alike.ofSecret (a : Alike s s') :
    PullCredential.ofSecret s = PullCredential.ofSecret s' :=
  a.congr fun _ => rfl

theorem Alike.needsSync (a : Alike s s') :
    Target.needsSync s current allow = Target.needsSync s' current allow :=
  a.congr (f := (Target.needsSync · current allow)) fun _ => rfl

theorem Alike.fill (a : Alike s s') : Alike (Target.fill s content) (Target.fill s' content) :=
  congrArg (Target.fill · content) a

theorem Alike.stamped (a : Alike s s') : Alike (stamped s v) (stamped s' v') :=
  a

theorem AlikeAt.refl : AlikeAt st st k := rfl

-- Either there is nothing in both, or much the same.
theorem AlikeAt.found (a : AlikeAt st st' k) : (secret? st k = none ∧ secret? st' k = none) ∨
    ∃ s s', secret? st k = some s ∧ secret? st' k = some s' ∧ Alike s s' := by
  unfold AlikeAt at a
  cases hs : secret? st k with
  | none   =>
    rw [hs] at a
    exact .inl ⟨rfl, Option.map_eq_none_iff.1 a.symm⟩
  | some s =>
    rw [hs] at a
    have ⟨s', hs', alike⟩ := Option.map_eq_some_iff.1 a.symm
    exact .inr ⟨s, s', rfl, hs', alike.symm⟩

theorem AlikeAt.of_some (h : secret? st k = some s) (h' : secret? st' k = some s')
    (a : Alike s s') : AlikeAt st st' k := by
  unfold AlikeAt
  rw [h, h']
  exact congrArg Option.some a

-- Whatever was done to the store, it was done under the key.
structure Touched (k : String) (st st' : σ) : Prop where
  keyed  : Keyed st → Keyed st'
  others : ∀ k', k' ≠ k → secret? st' k' = secret? st k'

theorem Touched.refl : Touched k st st where
  keyed h     := h
  others _ _  := rfl

theorem Touched.trans (t : Touched k st st₁) (t' : Touched k st₁ st') : Touched k st st' where
  keyed h      := t'.keyed (t.keyed h)
  others k' hk := (t'.others k' hk).trans (t.others k' hk)

theorem Wrote.touched (w : Wrote st s v st') : Touched (Store.key s) st st' where
  others := w.others
  keyed h := by
    intro k s' hs
    by_cases hk : k = Store.key s
    case pos =>
      subst hk
      cases w.stored.symm.trans hs
      rfl
    case neg => exact h k s' ((w.others k hk) ▸ hs)

-- Where the same is written to both, what was alike stays alike.
theorem Wrote.alikeAt (w : Wrote st s v st₁) (w' : Wrote st' s' v' st₁') (a : Alike s s')
    (h : AlikeAt st st' k) : AlikeAt st₁ st₁' k := by
  by_cases hk : k = Store.key s
  case pos =>
    subst hk
    exact .of_some w.stored (a.key ▸ w'.stored) a.stamped
  case neg =>
    unfold AlikeAt
    rw [w.others k hk, w'.others k (a.key ▸ hk)]
    exact h

-- To replace a target that is as it was read comes to the same in both stores.
theorem replace_alike [ImpartialSecretStore σ] (a : Alike s s') (h : secret? st k = some s)
    (h' : secret? st' k = some s') (hk : Store.key s = k) :
    outcome (replace st (Target.fill s content)) =
      outcome (replace st' (Target.fill s' content)) := by
  have current : Current st (Target.fill s content) := ⟨s, hk ▸ h, rfl⟩
  have current' : Current st' (Target.fill s' content) := ⟨s', a.key ▸ hk ▸ h', rfl⟩
  have found : AlikeAt st st' (Store.key s) := hk ▸ .of_some h h' a
  exact ImpartialSecretStore.replaces a.fill found (iff_of_true current current')

end SecretStore

namespace Store

open SecretStore

variable {st : Store} {s : Secret}

theorem isCurrent_iff : st.isCurrent s = true ↔ Current st s := by
  change _ ↔ ∃ old, st.secrets.find? (key s) = some old ∧ _
  unfold isCurrent
  cases st.secrets.find? (key s) <;> simp

instance : ImpartialSecretStore Store where
  creates {st st' s s'} a h := by
    change outcome (st.create s) = outcome (st'.create s')
    unfold create
    rw [← a.key]
    cases h.found with
    | inl neither =>
      have hs : st.secrets.find? (key s) = none := neither.1
      have hs' : st'.secrets.find? (key s) = none := neither.2
      rw [hs, hs']
      rfl
    | inr both    =>
      have ⟨old, old', found, found', _⟩ := both
      have hs : st.secrets.find? (key s) = some old := found
      have hs' : st'.secrets.find? (key s) = some old' := found'
      rw [hs, hs']
  replaces {st st' s s'} a _ current := by
    change outcome (st.replace s) = outcome (st'.replace s')
    unfold replace
    rw [← a.key]
    by_cases h : st.isCurrent s
    case pos =>
      rw [if_pos h, if_pos (isCurrent_iff.2 (current.1 (isCurrent_iff.1 h)))]
      rfl
    case neg =>
      rw [if_neg h, if_neg fun h' => h (isCurrent_iff.2 (current.2 (isCurrent_iff.1 h')))]

end Store

namespace Pass

open SecretStore

variable {ρ σ : Type} {config : Config} {o : OciSecret} {t t' deadline : Instant}
  {s s' : Stage ρ} {c : Call ρ} {x : Answer c} {go : Answer c → Stage ρ}

namespace World

variable {w : World ρ} [SecretStore σ] {st st' st₁ st₁' : σ}

-- What a stage carries along from the store is still there.
def Holds (w : World ρ) (o : OciSecret) (st : σ) : Stage ρ → Prop
  | .start n => w.spec n = .ok (some o)
  | .pull o' r => o' = o ∧ o.spec.pullSecretRef = some r
  | .clock o' _ | .connecting o' _ _ | .resolving o' _ | .looking o' _ _ | .reading o' _ _ => o' = o
  | .creating o' _ _ fresh =>
    o' = o ∧ Store.key fresh = o.spec.target.text ∧ secret? st o.spec.target.text = none
  | .fetching o' _ target | .replacing o' target _ =>
    o' = o ∧ secret? st o.spec.target.text = some target
  | .stuck | .ended _ => True

theorem holds_given {α : Type} {go : α → Stage ρ} {x : Except Error α}
    (ok : ∀ a, x = .ok a → Holds w o st (go a)) : Holds w o st (.given go x) := by
  cases x with
  | ok a    => exact ok a rfl
  | error _ => trivial

theorem Holds.of_eq (h : Holds w o st s)
    (kept : secret? st' o.spec.target.text = secret? st o.spec.target.text) :
    Holds w o st' s := by
  cases s with
  | creating _ _ _ _                    => exact ⟨h.1, h.2.1, kept.trans h.2.2⟩
  | fetching _ _ _ | replacing _ _ _ => exact ⟨h.1, kept.trans h.2⟩
  | _                                   => exact h

-- A write that is refused leaves the store alone.
theorem written_touched {result : Except Error σ} {y : Except Error Unit} {k : String}
    (ok : ∀ st', result = .ok st' → Touched k st st') (h : written st result = (y, st₁)) :
    Touched k st st₁ := by
  cases result with
  | ok _    =>
    cases h
    exact ok _ rfl
  | error _ =>
    cases h
    exact .refl

-- The same stage of a pass, at another time and in another store.
inductive Twin (w : World ρ) : Stage ρ → Stage ρ → Prop
  | start {name : String} : Twin w (.start name) (.start name)
  | pull {o : OciSecret} {r : SecretRef} : Twin w (.pull o r) (.pull o r)
  | clock {o : OciSecret} {credential : Option PullCredential} :
    Twin w (.clock o credential) (.clock o credential)
  | stuck {s : Stage ρ} : Twin w .stuck s
  | connecting {o : OciSecret} {credential : Option PullCredential} {t t' : Instant} :
    Twin w (.connecting o credential t) (.connecting o credential t')
  | resolving {o : OciSecret} {source source' : ρ} :
    (w.gives source = w.gives source') → Twin w (.resolving o source) (.resolving o source')
  | looking {o : OciSecret} {source source' : ρ} {current : Digest} :
    (w.gives source = w.gives source') →
    Twin w (.looking o source current) (.looking o source' current)
  | creating {o : OciSecret} {source source' : ρ} {current : Digest} {fresh : Secret} :
    (w.gives source = w.gives source') →
    Twin w (.creating o source current fresh) (.creating o source' current fresh)
  | reading {o : OciSecret} {source source' : ρ} {current : Digest} :
    (w.gives source = w.gives source') →
    Twin w (.reading o source current) (.reading o source' current)
  | fetching {o : OciSecret} {source source' : ρ} {target target' : Secret} :
    (w.gives source = w.gives source') → Alike target target' →
    Twin w (.fetching o source target) (.fetching o source' target')
  | replacing {o : OciSecret} {target target' : Secret} {content : Content} :
    Alike target target' → Twin w (.replacing o target content) (.replacing o target' content)
  | ended {r : Except Error Duration} : Twin w (.ended r) (.ended r)

-- The twin makes a call too, and what was alike in the stores before stays alike.
def Keeps (w : World ρ) (config : Config) (t : Instant) (next s' : Stage ρ) (st st₁ st' : σ) :
    Prop :=
  ∃ c go x st₁', s'.next config = some ⟨c, go⟩ ∧ (w.later t).answer st' c = some (x, st₁') ∧
    Twin w next (go x) ∧ ∀ k, AlikeAt st st' k → AlikeAt st₁ st₁' k

theorem twin_given {α β : Type} {go go' : α → Stage ρ} {x x' : Except Error α} {f : α → β}
    (same : x.map f = x'.map f)
    (ok : ∀ a a', x = .ok a → x' = .ok a' → f a = f a' → Twin w (go a) (go' a')) :
    Twin w (.given go x) (.given go' x') := by
  cases x with
  | ok a    =>
    cases x' with
    | ok a'   => exact ok a a' rfl rfl (Except.ok.inj same)
    | error _ => cases same
  | error _ =>
    cases x' with
    | ok _    => cases same
    | error _ =>
      cases same
      exact .ended

theorem twin_given_same {α : Type} {go go' : α → Stage ρ} {x : Except Error α}
    (ok : ∀ a, x = .ok a → Twin w (go a) (go' a)) : Twin w (.given go x) (.given go' x) := by
  cases x with
  | ok a    => exact ok a rfl
  | error _ => exact .ended

-- Both read what is there under one key.
theorem twin_found {go go' : Option Secret → Stage ρ} {k : String} (a : AlikeAt st st' k)
    (absent : Twin w (go none) (go' none))
    (present : ∀ s s', Alike s s' → Twin w (go (some s)) (go' (some s'))) :
    Twin w (.given go (.ok (secret? st k))) (.given go' (.ok (secret? st' k))) := by
  cases a.found with
  | inl neither =>
    have ⟨hs, hs'⟩ := neither
    rw [hs, hs']
    exact absent
  | inr both    =>
    have ⟨s, s', hs, hs', alike⟩ := both
    rw [hs, hs']
    exact present s s' alike

-- Both writes are refused, or they leave what was alike as it is.
theorem written_alike {result result' : Except Error σ} {y : Except Error Unit}
    (same : outcome result = outcome result') (h : written st result = (y, st₁))
    (ok : ∀ made made', result = .ok made → result' = .ok made' →
      ∀ k, AlikeAt st st' k → AlikeAt made made' k) :
    ∃ st₁', written st' result' = (y, st₁') ∧ ∀ k, AlikeAt st st' k → AlikeAt st₁ st₁' k := by
  cases result with
  | ok made =>
    cases result' with
    | ok made' =>
      cases h
      exact ⟨made', rfl, ok _ _ rfl rfl⟩
    | error _  => cases same
  | error _ =>
    cases result' with
    | ok _    => cases same
    | error _ =>
      cases same
      cases h
      exact ⟨st', rfl, fun _ h => h⟩

variable [LawfulSecretStore σ]

-- A pass touches its own target and nothing else.
theorem Holds.next (h : Holds w o st s) (keyed : Keyed st) (hn : s.next config = some ⟨c, go⟩)
    (ha : (w.later t).answer st c = some (x, st₁)) :
    Holds w o st₁ (go x) ∧ Touched o.spec.target.text st st₁ := by
  cases s with
  | start n =>
    cases hn
    cases ha
    refine ⟨holds_given fun found hf => ?_, .refl⟩
    cases h.symm.trans hf
    refine holds_given (x := o.validate) fun _ _ => ?_
    cases hp : o.spec.pullSecretRef with
    | none   => exact rfl
    | some _ => exact ⟨rfl, hp⟩
  | pull o' r =>
    cases hn
    cases ha
    refine ⟨holds_given fun found _ => ?_, .refl⟩
    cases found with
    | none   => trivial
    | some s => exact holds_given (x := PullCredential.ofSecret s) fun _ _ => h.1
  | clock o' credential =>
    cases hn
    cases ha
    refine ⟨?_, .refl⟩
    dsimp only
    split
    · exact h
    · trivial
  | stuck =>
    cases hn
    cases x
  | connecting o' credential deadline =>
    cases hn
    cases ha
    exact ⟨holds_given fun _ _ => h, .refl⟩
  | resolving o' source =>
    cases hn
    cases ha
    exact ⟨holds_given fun _ _ => h, .refl⟩
  | looking o' source current =>
    cases hn
    cases ha
    cases h
    refine ⟨holds_given fun found hf => ?_, .refl⟩
    cases found with
    | none   => exact holds_given (x := Target.create o) fun _ hc =>
      ⟨rfl, (Target.blank_of_create hc).key, Except.ok.inj hf⟩
    | some _ => exact rfl
  | creating o' source current fresh =>
    cases hn
    have ⟨ho, key, _⟩ := h
    have touched := written_touched (k := Store.key fresh) (fun _ hc =>
      have ⟨_, _, w⟩ := LawfulSecretStore.create_ok hc
      w.touched) (Option.some.inj ha)
    exact ⟨holds_given fun _ _ => ho, key ▸ touched⟩
  | reading o' source current =>
    cases hn
    cases ha
    cases h
    refine ⟨holds_given fun found hf => ?_, .refl⟩
    cases found with
    | none        => trivial
    | some target =>
      dsimp only
      split
      · exact ⟨rfl, Except.ok.inj hf⟩
      · trivial
  | fetching o' source target =>
    cases hn
    cases ha
    exact ⟨holds_given fun _ _ => h, .refl⟩
  | replacing o' target content =>
    cases hn
    have ⟨_, there⟩ := h
    have touched := written_touched (fun _ hc =>
      have ⟨_, _, w⟩ := LawfulSecretStore.replace_ok hc
      w.touched) (Option.some.inj ha)
    exact ⟨holds_given fun _ _ => trivial, keyed _ _ there ▸ touched⟩
  | ended r => cases hn

variable [ImpartialSecretStore σ]

-- The step: whatever a pass is told, its twin is told what makes no difference to it.
theorem Twin.next (twin : Twin w s s') (hn : s.next config = some ⟨c, go⟩)
    (ha : (w.later t).answer st c = some (x, st₁)) (h : Holds w o st s) (h' : Holds w o st' s')
    (keyed : Keyed st) (steady : w.Steady)
    (clock : t'.add? config.registryTimeout = some deadline)
    (target : AlikeAt st st' o.spec.target.text)
    (pull : ∀ r, o.spec.pullSecretRef = some r → AlikeAt st st' r.text) :
    w.Keeps config t' (go x) s' st st₁ st' := by
  cases twin with
  | start =>
    cases hn
    cases ha
    refine ⟨_, _, _, _, rfl, rfl, twin_given_same fun found _ => ?_, fun _ h => h⟩
    cases found with
    | none   => exact .ended
    | some o =>
      refine twin_given_same (x := o.validate) fun _ _ => ?_
      cases o.spec.pullSecretRef with
      | none   => exact .clock
      | some _ => exact .pull
  | pull =>
    cases hn
    cases ha
    have ⟨ho, hr⟩ := h
    subst ho
    refine ⟨_, _, _, _, rfl, rfl, ?_, fun _ h => h⟩
    refine twin_found (pull _ hr) ?_ fun s s' alike => ?_
    · exact .ended
    · dsimp only
      rw [alike.ofSecret]
      exact twin_given_same fun _ _ => .clock
  | clock =>
    cases hn
    cases ha
    refine ⟨_, _, _, _, rfl, rfl, ?_, fun _ h => h⟩
    dsimp only
    rw [show Instant.add? (w.later t').now config.registryTimeout = some deadline from clock]
    split
    · exact .connecting
    · exact .stuck
  | stuck =>
    cases hn
    cases x
  | connecting =>
    cases hn
    cases ha
    exact ⟨_, _, _, _, rfl, rfl, twin_given (steady _ _ _ _) fun _ _ _ _ => .resolving,
      fun _ h => h⟩
  | resolving gives =>
    cases hn
    cases ha
    have same := congrFun (congrArg Prod.fst gives)
    refine ⟨_, _, _, _, rfl, rfl, ?_, fun _ h => h⟩
    refine twin_given (f := id) (congrArg _ (same _)) fun _ _ _ _ ha => ?_
    cases ha
    exact .looking gives
  | looking gives =>
    cases hn
    cases ha
    cases h
    refine ⟨_, _, _, _, rfl, rfl, ?_, fun _ h => h⟩
    refine twin_found target ?_ fun _ _ _ => ?_
    · exact twin_given_same (x := Target.create o) fun _ _ => .creating gives
    · exact .reading gives
  | creating gives =>
    cases hn
    have ⟨_, key, _⟩ := h
    have same := ImpartialSecretStore.creates .refl (key ▸ target)
    have ⟨st₁', hw, kept⟩ := written_alike same (Option.some.inj ha) fun _ _ hm hm' _ h =>
      have ⟨_, _, w⟩ := LawfulSecretStore.create_ok hm
      have ⟨_, _, w'⟩ := LawfulSecretStore.create_ok hm'
      w.alikeAt w' .refl h
    exact ⟨_, _, _, st₁', rfl, congrArg some hw, twin_given_same fun _ _ => .reading gives, kept⟩
  | reading gives =>
    cases hn
    cases ha
    cases h
    refine ⟨_, _, _, _, rfl, rfl, ?_, fun _ h => h⟩
    refine twin_found target ?_ fun s s' alike => ?_
    · exact .ended
    · dsimp only
      rw [alike.needsSync]
      split
      · exact .fetching gives alike
      · exact .ended
  | fetching gives alike =>
    cases hn
    cases ha
    have same := congrFun (congrArg Prod.snd gives)
    refine ⟨_, _, _, _, rfl, rfl, ?_, fun _ h => h⟩
    refine twin_given (f := id) (congrArg _ (same _)) fun _ _ _ _ ha => ?_
    cases ha
    exact .replacing alike
  | replacing alike =>
    cases hn
    have ⟨_, there⟩ := h
    have ⟨_, there'⟩ := h'
    have ⟨st₁', hw, kept⟩ := written_alike (replace_alike alike there there' (keyed _ _ there))
      (Option.some.inj ha) fun _ _ hm hm' _ h =>
      have ⟨_, _, w⟩ := LawfulSecretStore.replace_ok hm
      have ⟨_, _, w'⟩ := LawfulSecretStore.replace_ok hm'
      w.alikeAt w' alike.fill h
    exact ⟨_, _, _, st₁', rfl, congrArg some hw, twin_given_same fun _ _ => .ended, kept⟩
  | ended => cases hn

end World

end Pass

end ArtifactSync
