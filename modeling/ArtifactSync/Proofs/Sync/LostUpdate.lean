import ArtifactSync.Proofs.Sync.Schedule
import ArtifactSync.Proofs.Sync.Target

namespace ArtifactSync.Pass

open Kubernetes (Secret)
open Interaction (Turn)
open SecretStore

variable {ρ σ : Type} [SecretStore σ] {config : Config} {name : String} {o : OciSecret} {w : Write}
  {st st₀ st' : σ} {a b c : Scene σ ρ} {e : Event ρ}
  {es es₁ es₂ after : List (Event ρ)} {p : Underway ρ}
  {found : Option Secret} {s target : Secret} {content : Content} {source : ρ}
  {next : Except Error Unit → Underway ρ}

-- Whatever the store answers, the write fails and has no effect.
def Refused (ρ : Type) (st : σ) (w : Write) : Prop :=
  ∀ x st', Serves (ρ := ρ) st (w.turn x) st' →
    st' = st ∧ ∃ cause, x = .error (.persistFailed (Store.key w.secret) cause)

-- The last that a pass over this desired state has read, and all that has happened since then.
structure LastRead (name : String) (o : OciSecret) (found : Option Secret)
    (es after : List (Event ρ)) : Prop where
  split : ∃ earlier before,
    es = earlier ++ .start :: before ++ .turn ⟨.getSecret o.spec.target, .ok found⟩ :: after ∧
    ⟨.getSpec name, .ok (some o)⟩ ∈ turns before ∧ .start ∉ before ∧ .leave ∉ before
  unbroken : .start ∉ after ∧ .leave ∉ after
  unread : ∀ r x, ⟨.getSecret r, x⟩ ∉ turns after

structure CreateGuarded (name : String) (es : List (Event ρ)) (st : σ) (s : Secret) : Prop where
  read    : ∃ o after, LastRead name o none es after ∧ Target.create o = .ok s
  refused : secret? st (Store.key s) ≠ none → Refused ρ st (.create s)

structure ReplaceGuarded (name : String) (es : List (Event ρ)) (st : σ) (o : OciSecret)
    (target : Secret) (content : Content) (after : List (Event ρ)) (s : Secret) : Prop where
  read    : LastRead name o (some target) es after
  fetched : ∃ source, turns after = [⟨.fetchContent source o.spec.artifact, .ok content⟩]
  filled  : s = Target.fill target (content.restrictTo o.spec.allowList)
  refused : (∃ e ∈ after, e.Touches o.spec.target.text) → Refused ρ st (.replace s)
  stored  : ∀ st', Serves (ρ := ρ) st (Write.turn (.replace s) (.ok ())) st' →
    secret? st o.spec.target.text = some target ∧
      ∃ v new, ¬Issued st v ∧ secret? st' o.spec.target.text = some new ∧
        Target.Refilled target (content.restrictTo o.spec.allowList) v new ∧
        ∀ k, k ≠ o.spec.target.text → secret? st' k = secret? st k

theorem refused_of_not_ok (h : ∀ st', w.on st ≠ .ok st') : Refused ρ st w := by
  intro x st' hs
  cases hs.write with
  | inl ok     => exact absurd ok.2 (h st')
  | inr failed => exact failed

theorem Event.turn?_eq_some {e : Event ρ} {t : Turn (Answer (ρ := ρ))} (h : e.turn? = some t) :
    e = .turn t := by
  cases e <;> cases h
  rfl

-- A call of the history is an event, with the calls before it before it and the others after it.
theorem turns_eq_append_cons {t : Turn (Answer (ρ := ρ))} {h₁ h₂ : History ρ}
    (h : turns es = h₁ ++ t :: h₂) :
    ∃ es₁ es₂, es = es₁ ++ .turn t :: es₂ ∧ turns es₁ = h₁ ∧ turns es₂ = h₂ := by
  have ⟨es₁, rest, hes, h₁, hr⟩ := List.filterMap_eq_append_iff.1 h
  have ⟨silent, e, es₂, hrest, hn, he, h₂⟩ := List.filterMap_eq_cons_iff.1 hr
  refine ⟨es₁ ++ silent, es₂, ?_, ?_, h₂⟩
  · rw [hes, hrest, Event.turn?_eq_some he, List.append_assoc]
  · rw [turns, List.filterMap_append, List.filterMap_eq_nil_iff.2 hn, List.append_nil, h₁]

-- What has been read was stored then.
theorem Run.read {r : SecretRef}
    (run : Run config name a (es₁ ++ .turn ⟨.getSecret r, .ok found⟩ :: es₂) c) :
    ∃ b b', Run config name a es₁ b ∧ secret? b.store r.text = found ∧
      Run config name b' es₂ c ∧ b'.store = b.store := by
  have ⟨b, b', r₁, s, r₂⟩ := run.around
  cases s with
  | turn serves =>
    have ⟨hf, hs⟩ := serves.read
    exact ⟨_, _, r₁, hf, r₂, hs⟩

namespace Stage

theorem creating_of_next {s : Stage ρ} {fresh : Secret} {go}
    (h : s.next config = some ⟨.createSecret fresh, go⟩) :
    ∃ o source current, s = .creating o source current fresh := by
  cases s <;> cases h
  exact ⟨_, _, _, rfl⟩

theorem replacing_of_next {s : Stage ρ} {filled : Secret} {go}
    (h : s.next config = some ⟨.replaceSecret filled, go⟩) :
    ∃ o target content, s = .replacing o target content ∧
      filled = Target.fill target (content.restrictTo o.spec.allowList) := by
  cases s <;> cases h
  exact ⟨_, _, _, rfl, rfl⟩

-- A write that fails is the end of the pass.
theorem failed_write {s : Stage ρ} (u : s.Unfolds config (w.ask next)) (err : Error) :
    next (.error err) = .done (.error err) := by
  cases w with
  | create s =>
    have ⟨go, hn, u⟩ := u.next
    have ⟨o, source, current, hs⟩ := creating_of_next hn
    subst hs
    cases hn
    exact (u (.error err)).of_ended
  | replace s =>
    have ⟨go, hn, u⟩ := u.next
    have ⟨o, target, content, hs, _⟩ := replacing_of_next hn
    subst hs
    cases hn
    exact (u (.error err)).of_ended

end Stage

-- The read itself, as it stands in a run, and the runs before and after it.
theorem Run.Ongoing.lastRead {during : List (Event ρ)} {h₁ h₂ : History ρ}
    (u : Run.Ongoing config name st₀ es during b p)
    (h : turns during = h₁ ++ ⟨.getSecret o.spec.target, .ok found⟩ :: h₂)
    (loaded : ⟨.getSpec name, .ok (some o)⟩ ∈ h₁) (unread : ∀ r x, ⟨.getSecret r, x⟩ ∉ h₂) :
    ∃ after, LastRead name o found es after ∧ turns after = h₂ ∧
      ∃ (a a' : Scene σ ρ) (before : List (Event ρ)),
        Run config name ⟨st₀, none⟩ before a ∧ secret? a.store o.spec.target.text = found ∧
        Run config name a' after b ∧ a'.store = a.store := by
  have ⟨earlier, st, hes, r₁, r₂⟩ := u.started
  have ⟨before, after, hd, ht₁, ht₂⟩ := turns_eq_append_cons h
  subst hd ht₁ ht₂
  have ⟨a, a', ra, hf, ra', hs⟩ := r₂.read
  have ⟨started, left⟩ := u.unbroken
  simp only [List.mem_append, List.mem_cons, not_or] at started left
  have read : LastRead name o found es after := {
    split    := ⟨earlier, before, by simp [hes], loaded, started.1, left.1⟩
    unbroken := ⟨started.2.2, left.2.2⟩
    unread   := unread
  }
  exact ⟨after, read, rfl, a, a', _, r₁.trans ra, hf, ra', hs⟩

variable [LawfulSecretStore σ]

theorem createGuarded_of_run
    (run : Run config name ⟨st₀, none⟩ es ⟨st, some ((Write.create s).ask next)⟩) :
    CreateGuarded name es st s := by
  have ⟨during, u⟩ := run.underway rfl
  have ⟨stage, unf, past⟩ := past_of_reaches u.reached
  have ⟨go, hn, _⟩ := unf.next
  have ⟨o, source, current, hs⟩ := Stage.creating_of_next hn
  subst hs
  have ⟨untouched, create, before, hd⟩ := past
  constructor
  case read =>
    have loaded := (untouched.spec o).2 rfl
    simp only [← hd, List.mem_append, List.mem_cons] at loaded
    rw [List.append_cons] at hd
    have ⟨after, read, _⟩ := u.lastRead hd.symm (by simpa using loaded) (by simp)
    exact ⟨o, after, read, create⟩
  case refused =>
    intro hf
    refine refused_of_not_ok fun st' hc => ?_
    exact hf (LawfulSecretStore.create_ok hc).1

-- What is submitted has the version that was read, and what has moved has another.
theorem not_moved_of_replace {base : σ} {k : String} (sound : Sound base)
    (hf : secret? base k = some target)
    (hr : replace st (Target.fill target content) = .ok st') : ¬Moved base k st := by
  intro moved
  have ⟨hk, v, hv, issued⟩ := sound k target hf
  have ⟨⟨old, ho, same⟩, _⟩ := LawfulSecretStore.replace_ok hr
  rw [Target.key_fill, hk] at ho
  have ⟨v', hv', unissued⟩ := moved old ho
  have : v' = v := Option.some.inj (hv'.symm.trans (same.trans hv))
  exact unissued (this ▸ issued)

theorem replaceGuarded_of_run (sound : Sound st₀)
    (run : Run config name ⟨st₀, none⟩ es ⟨st, some ((Write.replace s).ask next)⟩) :
    ∃ o target content after, ReplaceGuarded name es st o target content after s := by
  have ⟨during, u⟩ := run.underway rfl
  have ⟨stage, unf, past⟩ := past_of_reaches u.reached
  have ⟨go, hn, _⟩ := unf.next
  have ⟨o, target, content, hs, filled⟩ := Stage.replacing_of_next hn
  subst hs filled
  have ⟨early, source, before, hd⟩ := past
  have loaded := (early.spec o).2 rfl
  simp only [← hd, List.mem_append, List.mem_cons] at loaded
  have ⟨after, read, fetched, a, a', _, ra, hf, ra', ha⟩ :=
    u.lastRead hd.symm (by simpa using loaded) (by simp)
  have sound := ra.sound sound
  rw [← ha] at hf sound
  refine ⟨o, target, content, after, read, ⟨source, fetched⟩, rfl, ?refused, ?stored⟩
  case refused =>
    intro touched
    exact refused_of_not_ok fun st' hr => not_moved_of_replace sound hf hr (ra'.moved touched)
  case stored =>
    intro st' serves
    cases serves.write with
    | inr failed =>
      have ⟨_, _, h⟩ := failed
      cases h
    | inl ok =>
      have hr : replace st (Target.fill target _) = .ok st' := ok.2
      have untouched : ∀ e ∈ after, ¬e.Touches o.spec.target.text := by
        intro e he ht
        exact not_moved_of_replace sound hf hr (ra'.moved ⟨e, he, ht⟩)
      have key := (sound _ _ hf).1
      have ⟨_, v, w⟩ := LawfulSecretStore.replace_ok hr
      have hw := w.stored
      have others := w.others
      rw [Target.key_fill, key] at hw
      rw [Target.key_fill, key] at others
      exact ⟨(ra'.untouched untouched).trans hf, v, _, w.fresh, hw, Target.refilled_fill, others⟩

-- Once the pass is about to write, what it has read is compared with what is stored.
theorem no_lost_update (sound : Sound st₀)
    (run : Run config name ⟨st₀, none⟩ es ⟨st, some (w.ask next)⟩) :
    (∀ err, next (.error err) = .done (.error err)) ∧
      (∀ s, w = .create s → CreateGuarded name es st s) ∧
      ∀ s, w = .replace s →
        ∃ o target content after, ReplaceGuarded name es st o target content after s := by
  refine ⟨?_, ?_, ?_⟩
  · have ⟨_, u⟩ := run.underway rfl
    have ⟨_, unf, _⟩ := past_of_reaches u.reached
    exact Stage.failed_write unf
  · intro s hw
    subst hw
    exact createGuarded_of_run run
  · intro s hw
    subst hw
    exact replaceGuarded_of_run sound run

-- What somebody else makes of the target while the pass is fetching.
def Sample.labelled : Secret := { Sample.stored with type := none }

theorem no_lost_update_sample : ∃ es next,
    Run {} "site" ⟨({} : Store), none⟩ es
      ⟨(({} : Store).put Sample.blank).put Sample.labelled,
        some ((Write.replace Sample.filled).ask next)⟩ ∧
    Sound ({} : Store) ∧
    ∃ o target content after, ReplaceGuarded (ρ := Unit) "site" es
      ((({} : Store).put Sample.blank).put Sample.labelled) o target content after
      Sample.filled := by
  have ⟨p, r, u⟩ := (Stage.start_unfolds {} "site").reaches Sample.steps
  have ⟨next, hp, _⟩ := u.asks rfl
  subst hp
  have run : Run {} "site" ⟨({} : Store), none⟩ _
      ⟨(({} : Store).put Sample.blank).put Sample.labelled,
        some ((Write.replace Sample.filled).ask next)⟩ :=
    (Run.started.trans (.of_reaches r Sample.served)).snoc (.write Store.wrote_put)
  exact ⟨_, next, run, Store.sound_empty, (no_lost_update Store.sound_empty run).2.2 _ rfl⟩

end ArtifactSync.Pass
