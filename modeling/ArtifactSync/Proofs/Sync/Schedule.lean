import ArtifactSync.Kubernetes.SecretAccess
import ArtifactSync.Proofs.Sync.History
import ArtifactSync.Proofs.Sync.Versions

namespace ArtifactSync.Pass

open Kubernetes (Secret)
open Interaction (Reaches Turn)
open SecretStore

variable {ρ σ : Type} [SecretStore σ] {config : Config} {name k : String} {st st' : σ}
  {t : Turn (Answer (ρ := ρ))}

-- The calls that no store of secrets has anything to do with.
def Foreign : Call ρ → Prop
  | .getSecret _ | .createSecret _ | .replaceSecret _ => False
  | _                                                 => True

def Write.turn : Write → Except Error Unit → Turn (Answer (ρ := ρ))
  | create s, x  => ⟨.createSecret s, x⟩
  | replace s, x => ⟨.replaceSecret s, x⟩

-- A pass that is about to write.
def Write.ask : Write → (Except Error Unit → Underway ρ) → Underway ρ
  | create s, next  => .ask (.createSecret s) next
  | replace s, next => .ask (.replaceSecret s) next

-- What a store may answer. Any call may fail, and a call that fails has no effect.
inductive Serves (st : σ) : Turn (Answer (ρ := ρ)) → σ → Prop
  | found {r} : Serves st ⟨.getSecret r, .ok (secret? st r.text)⟩ st
  | unread {r err} : Serves st ⟨.getSecret r, .error err⟩ st
  | created {s} {st' : σ} : (create st s = .ok st') → Serves st ⟨.createSecret s, .ok ()⟩ st'
  | uncreated {s cause} :
    Serves st ⟨.createSecret s, .error (.persistFailed (Store.key s) cause)⟩ st
  | replaced {s} {st' : σ} : (replace st s = .ok st') → Serves st ⟨.replaceSecret s, .ok ()⟩ st'
  | unreplaced {s cause} :
    Serves st ⟨.replaceSecret s, .error (.persistFailed (Store.key s) cause)⟩ st
  | foreign {c x} : (Foreign c) → Serves st ⟨c, x⟩ st

-- A pass can be left off at any call, and it is also left when it is over.
inductive Event (ρ : Type)
  | start
  | turn (t : Turn (Answer (ρ := ρ)))
  | leave
  | write (s : Secret)
  | delete (k : String)

theorem Serves.read {r : SecretRef} {found : Option Secret}
    (h : Serves (ρ := ρ) st ⟨.getSecret r, .ok found⟩ st') :
    secret? st r.text = found ∧ st' = st := by
  cases h with
  | found      => exact ⟨rfl, rfl⟩
  | foreign hf => cases hf

theorem Serves.write {w : Write} {x : Except Error Unit} (h : Serves (ρ := ρ) st (w.turn x) st') :
    (x = .ok () ∧ w.on st = .ok st') ∨
      (st' = st ∧ ∃ cause, x = .error (.persistFailed (Store.key w.secret) cause)) := by
  cases w with
  | create s =>
    cases h with
    | created hc        => exact .inl ⟨rfl, hc⟩
    | uncreated         => exact .inr ⟨rfl, _, rfl⟩
    | foreign hf        => cases hf
  | replace s =>
    cases h with
    | replaced hr       => exact .inl ⟨rfl, hr⟩
    | unreplaced        => exact .inr ⟨rfl, _, rfl⟩
    | foreign hf        => cases hf

theorem Serves.unwritten {w : Write} {cause : String} :
    Serves (ρ := ρ) st (w.turn (.error (.persistFailed (Store.key w.secret) cause))) st := by
  cases w with
  | create _  => exact uncreated
  | replace _ => exact unreplaced

-- However a request to write fails in a cluster, it is told apart from other failures.
theorem Serves.of_writeResult {w : Write} {err : Error}
    {reply : Except Kubernetes.Client.Fault Secret}
    (h : Kubernetes.SecretAccess.writeResult w.secret reply = .error err) :
    Serves (ρ := ρ) st (w.turn (.error err)) st := by
  cases reply with
  | ok _    => cases h
  | error _ =>
    cases h
    exact unwritten

-- And so is a write that `Store` refuses.
theorem Serves.of_refused {st : Store} {w : Write} {err : Error} (h : w.on st = .error err) :
    Serves (ρ := ρ) st (w.turn (.error err)) st := by
  cases w with
  | create s =>
    change st.create s = _ at h
    unfold Store.create at h
    split at h
    case h_1 =>
      cases h
      exact uncreated
    case h_2 => cases h
  | replace s =>
    change st.replace s = _ at h
    unfold Store.replace at h
    split at h
    case isTrue  => cases h
    case isFalse =>
      cases h
      exact unreplaced

inductive Served : σ → History ρ → σ → Prop
  | refl {st : σ} : Served st [] st
  | step {st st' st'' : σ} {t} {h : History ρ} :
    (Serves st t st') → Served st' h st'' → Served st (t :: h) st''

structure Scene (σ ρ : Type) where
  store : σ
  pass  : Option (Underway ρ)

inductive Step (config : Config) (name : String) : Scene σ ρ → Event ρ → Scene σ ρ → Prop
  | start {st : σ} : Step config name ⟨st, none⟩ .start ⟨st, some (reconcile config name).run⟩
  | turn {st st' : σ} {c next x} : (Serves st ⟨c, x⟩ st') →
    Step config name ⟨st, some (.ask c next)⟩ (.turn ⟨c, x⟩) ⟨st', some (next x)⟩
  | leave {st : σ} {p} : Step config name ⟨st, some p⟩ .leave ⟨st, none⟩
  | write {st st' : σ} {p s v} : (Wrote st s v st') →
    Step config name ⟨st, p⟩ (.write s) ⟨st', p⟩
  | delete {st st' : σ} {p k} : (Deleted st k st') →
    Step config name ⟨st, p⟩ (.delete k) ⟨st', p⟩

inductive Run (config : Config) (name : String) : Scene σ ρ → List (Event ρ) → Scene σ ρ → Prop
  | refl {a} : Run config name a [] a
  | snoc {a es b e c} :
    Run config name a es b → Step config name b e c → Run config name a (es ++ [e]) c

def Event.change? : Event ρ → Option Change
  | turn t         => (write? t).map fun w => .wrote w.secret
  | write s        => some (.wrote s)
  | delete k       => some (.deleted k)
  | start | leave  => none

def Event.turn? : Event ρ → Option (Turn (Answer (ρ := ρ)))
  | turn t => some t
  | _      => none

def turns (es : List (Event ρ)) : History ρ :=
  es.filterMap Event.turn?

-- What is stored under the key is no longer what was stored there before the event.
def Event.Touches (k : String) (e : Event ρ) : Prop :=
  ∃ x ∈ e.change?, x.key = k

variable {a b c : Scene σ ρ} {es es₁ es₂ : List (Event ρ)} {e : Event ρ} {p : Underway ρ}

theorem Foreign.write? {c : Call ρ} {x : Answer c} (f : Foreign c) : write? ⟨c, x⟩ = none := by
  cases c with
  | getSecret | createSecret | replaceSecret => cases f
  | _                                        => rfl

theorem Serves.changed [LawfulSecretStore σ] (h : Serves st t st') :
    Changed st (Event.turn t).change? st' := by
  cases h with
  | created hc =>
    have ⟨_, _, w⟩ := LawfulSecretStore.create_ok hc
    exact .wrote w
  | replaced hr =>
    have ⟨_, _, w⟩ := LawfulSecretStore.replace_ok hr
    exact .wrote w
  | foreign hf =>
    rw [Event.change?, hf.write?]
    exact .same
  | _ => exact .same

theorem Step.changed [LawfulSecretStore σ] (s : Step config name a e b) :
    Changed a.store e.change? b.store := by
  cases s with
  | turn h        => exact h.changed
  | write w       => exact .wrote w
  | delete d      => exact .deleted d
  | start | leave => exact .same

namespace Run

theorem trans (r₁ : Run config name a es₁ b) (r₂ : Run config name b es₂ c) :
    Run config name a (es₁ ++ es₂) c := by
  induction r₂ with
  | refl        => simpa using r₁
  | snoc _ s hi => exact List.append_assoc .. ▸ hi.snoc s

theorem started :
    Run (ρ := ρ) config name ⟨st, none⟩ [.start] ⟨st, some (reconcile config name).run⟩ :=
  snoc refl .start

-- A pass that nobody cuts in on.
theorem of_reaches {p' : Underway ρ} {h : History ρ} (r : p.Reaches h p') (s : Served st h st') :
    Run config name ⟨st, some p⟩ (h.map .turn) ⟨st', some p'⟩ := by
  induction r generalizing st with
  | refl =>
    cases s
    exact .refl
  | @step q next x _ _ _ hi =>
    cases s with
    | @step _ st' _ _ _ serves s =>
      have first : Run config name ⟨st, some (.ask q next)⟩ [.turn ⟨q, x⟩] ⟨st', some (next x)⟩ :=
        refl.snoc (.turn serves)
      exact first.trans (hi s)

theorem around (r : Run config name a (es₁ ++ e :: es₂) c) :
    ∃ b b', Run config name a es₁ b ∧ Step config name b e b' ∧ Run config name b' es₂ c := by
  generalize h : es₁ ++ e :: es₂ = es at r
  induction r generalizing es₂ with
  | refl => simp at h
  | snoc r s hi =>
    cases List.eq_nil_or_concat es₂ with
    | inl h₂ =>
      subst h₂
      have ⟨hb, hl⟩ := List.append_inj' h rfl
      cases hb
      cases hl
      exact ⟨_, _, r, s, .refl⟩
    | inr h₂ =>
      have ⟨before, last, h₂⟩ := h₂
      rw [h₂, List.concat_eq_append, ← List.cons_append, ← List.append_assoc] at h
      have ⟨hb, hl⟩ := List.append_inj' h rfl
      cases hl
      have ⟨b, b', r₁, s', r₂⟩ := hi hb
      exact ⟨b, b', r₁, s', h₂ ▸ List.concat_eq_append ▸ r₂.snoc s⟩

-- A pass that is underway was started, and has not been left since.
structure Ongoing (config : Config) (name : String) (st₀ : σ) (es during : List (Event ρ))
    (b : Scene σ ρ) (p : Underway ρ) : Prop where
  started  : ∃ before st, es = before ++ .start :: during ∧
    Run config name ⟨st₀, none⟩ (before ++ [.start]) ⟨st, some (reconcile config name).run⟩ ∧
    Run config name ⟨st, some (reconcile config name).run⟩ during b
  unbroken : .start ∉ during ∧ .leave ∉ during
  reached  : (reconcile config name).run.Reaches (turns during) p

theorem Ongoing.snoc {p' : Underway ρ} {st₀ : σ} {during : List (Event ρ)}
    (u : Ongoing config name st₀ es during b p) (s : Step config name b e c)
    (inner : .start ≠ e ∧ .leave ≠ e) (h : p.Reaches (turns [e]) p') :
    Ongoing config name st₀ (es ++ [e]) (during ++ [e]) c p' where
  started := by
    have ⟨before, st, hes, r₁, r₂⟩ := u.started
    exact ⟨before, st, by simp [hes], r₁, r₂.snoc s⟩
  unbroken := by simpa [inner] using u.unbroken
  reached := by
    rw [turns, List.filterMap_append]
    exact u.reached.trans h

theorem underway {st₀ : σ} (r : Run config name ⟨st₀, none⟩ es b) (hb : b.pass = some p) :
    ∃ during, Ongoing config name st₀ es during b p := by
  induction r generalizing p with
  | refl        => cases hb
  | snoc r s hi =>
    cases s with
    | start =>
      cases hb
      exact ⟨[], ⟨_, _, rfl, r.snoc .start, .refl⟩, by simp, .refl⟩
    | turn h =>
      cases hb
      have ⟨during, u⟩ := hi rfl
      exact ⟨_, u.snoc (.turn h) (by simp) (.step .refl)⟩
    | leave => cases hb
    | write w =>
      have ⟨during, u⟩ := hi hb
      exact ⟨_, u.snoc (.write w) (by simp) .refl⟩
    | delete d =>
      have ⟨during, u⟩ := hi hb
      exact ⟨_, u.snoc (.delete d) (by simp) .refl⟩

variable [LawfulSecretStore σ]

theorem sound (r : Run config name a es b) (h : Sound a.store) : Sound b.store := by
  induction r with
  | refl        => exact h
  | snoc _ s hi => exact s.changed.sound hi

theorem issued (r : Run config name a es b) {v : String} (h : Issued a.store v) :
    Issued b.store v := by
  induction r with
  | refl        => exact h
  | snoc _ s hi => exact s.changed.issued hi

theorem untouched (r : Run config name a es b) (h : ∀ e ∈ es, ¬e.Touches k) :
    secret? b.store k = secret? a.store k := by
  induction r with
  | refl => rfl
  | snoc _ s hi =>
    have ⟨h, he⟩ := List.forall_mem_append.1 h
    have := he _ List.mem_cons_self
    rw [s.changed.others fun x hx hk => this ⟨x, hx, hk⟩, hi h]

-- Once touched, the key never again holds what it held at first, not even when it is put back.
theorem moved (r : Run config name a es b) (h : ∃ e ∈ es, e.Touches k) :
    Moved a.store k b.store := by
  induction r with
  | refl => simp at h
  | snoc r s hi =>
    have ⟨e, he, ht⟩ := h
    cases List.mem_append.1 he with
    | inl he => exact s.changed.moved (fun _ => r.issued) (hi ⟨e, he, ht⟩)
    | inr he =>
      cases List.mem_singleton.1 he
      have ⟨x, hx, hk⟩ := ht
      have c := s.changed
      rw [hx] at c
      exact hk ▸ c.moves fun _ => r.issued

end Run

theorem Sample.served : Served ({} : Store) history (({} : Store).put blank) := by
  iterate 4 refine .step (.foreign trivial) ?_
  refine .step .found ?_
  refine .step (.created rfl) ?_
  refine .step .found ?_
  refine .step (.foreign trivial) ?_
  exact .refl

end ArtifactSync.Pass
