import ArtifactSync.Proofs.Sync.Atomicity
import ArtifactSync.Proofs.Sync.Idempotence

namespace ArtifactSync.Pass

open Kubernetes (Secret)
open Interaction (Turn)
open SecretStore

variable {ρ σ : Type} {config : Config} {name : String} {o : OciSecret} {t : Instant}
  {h h₁ h₂ : History ρ} {d : Digest} {files : FileMap} {s target : Secret} {v : String}
  {r : Except Error Duration} {interval : Duration} {e : Turn (Answer (ρ := ρ))}

-- The target was replaced in the course of these calls.
def Replaces (h : History ρ) : Prop :=
  ∃ s, .replace s ∈ writes h

theorem replaces_append : Replaces (h₁ ++ h₂) ↔ Replaces h₁ ∨ Replaces h₂ := by
  simp only [Replaces, writes_append, List.mem_append, exists_or]

theorem Idle.write? (i : Idle e) : write? e = none := by
  match e with
  | ⟨.createSecret _, _⟩ | ⟨.replaceSecret _, _⟩ => cases i
  | ⟨.now, _⟩ | ⟨.getSpec _, _⟩ | ⟨.getSecret _, _⟩ | ⟨.connect .., _⟩ | ⟨.fetchDigest .., _⟩
  | ⟨.fetchContent .., _⟩ | ⟨.halt, _⟩ => rfl

theorem writes_of_idle (idle : ∀ e ∈ h, Idle e) : writes h = [] :=
  List.filterMap_eq_nil_iff.2 fun e he => (idle e he).write?

theorem not_replaces_of_idle (idle : ∀ e ∈ h, Idle e) : ¬Replaces h := by
  intro ⟨s, hs⟩
  rw [writes_of_idle idle] at hs
  cases hs

-- Only the last call of a pass replaces the target, so a pass that has done it has succeeded.
theorem ok_of_replaces {p : Underway ρ} (reaches : (reconcile config name).run.Reaches h p)
    (replaces : Replaces h) : p = .done (.ok config.requeueInterval) := by
  have ⟨s, u, past⟩ := past_of_reaches reaches
  have ⟨filled, hf⟩ := replaces
  cases past.early_or_replaced with
  | inl early    =>
    have ⟨_, e⟩ := early
    exact (e.not_replace hf).elim
  | inr replaced =>
    have ⟨_, _, _, hs⟩ := replaced
    subst hs
    exact u.of_ended

namespace World

variable {w : World ρ} [SecretStore σ] {st st' st₁ made : σ} {source : ρ} {current : Digest}
  {content : Content}

theorem Ensured.not_replaces (e : Ensured o st h made) : ¬Replaces h := by
  intro ⟨s, hs⟩
  cases e with
  | found _    => simp [writes, write?] at hs
  | made _ _ _ => simp [writes, write?] at hs

theorem Judges.not_replaces (j : w.Judges config name o st source current made target h) :
    ¬Replaces h := by
  have ⟨before, ensuring, access, ensured, hh⟩ := j.calls
  rw [hh, replaces_append, replaces_append, not_or, not_or]
  refine ⟨⟨not_replaces_of_idle access.idle, ensured.not_replaces⟩, ?_⟩
  exact not_replaces_of_idle (List.forall_mem_singleton.2 trivial)

-- What a pass that succeeds has fetched is in the target.
theorem Completes.replaces_of_fetches (c : w.Completes config name st h (.ok interval) st')
    (spec : w.spec name = .ok (some o)) (hc : content ∈ fetches h) : Replaces h := by
  cases c.outcome spec with
  | kept judges _      =>
    rw [judges.fetches_eq_nil] at hc
    cases hc
  | filled judges _ _ _ => exact replaces_append.2 (.inr ⟨_, .head _⟩)

-- The registry has this artifact, for everybody and at any time.
structure Publishes (w : World ρ) (artifact : String) (d : Digest) (files : FileMap) : Prop where
  digest  : ∀ source, w.digest source artifact = .ok d
  content : ∀ source, w.content source artifact = .ok ⟨d, files⟩

-- The target holds what the registry has, whatever its version is, and a pass can see that.
structure Converged (w : World ρ) (config : Config) (name : String) (o : OciSecret) (d : Digest)
    (files : FileMap) (s : Secret) (st : σ) : Prop where
  key    : Store.key s = o.spec.target.text
  fixed  : filled o s ⟨d, files⟩ = s
  stored : ∃ v, secret? st o.spec.target.text = some (stamped s v)
  access : ∃ t source before, (w.later t).Access config name o st source d before

-- A pass: the time it begins at, its calls, and what it ends with.
structure Made (ρ : Type) where
  time   : Instant
  calls  : History ρ
  result : Except Error Duration

inductive Series (w : World ρ) (config : Config) (name : String) : σ → List (Made ρ) → σ → Prop
  | refl {st : σ} : Series w config name st [] st
  | step {st st₁ st' : σ} {m : Made ρ} {ms : List (Made ρ)} :
    ((w.later m.time).Completes config name st m.calls m.result st₁) →
    Series w config name st₁ ms st' → Series w config name st (m :: ms) st'

-- How filled a target is does not show in its version, and filling it again changes nothing else.
theorem filled_stamped (fixed : filled o s content = s) :
    filled o (stamped s v) content = stamped s v :=
  congrArg (stamped · v) fixed

variable [LawfulSecretStore σ]

theorem Converged.of_replaces (keyed : Keyed st) (spec : w.spec name = .ok (some o))
    (apart : ∀ r, o.spec.pullSecretRef = some r → r.text ≠ o.spec.target.text)
    (steady : w.Steady) (publishes : w.Publishes o.spec.artifact d files)
    (first : w.Completes config name st h r st₁) (replaces : Replaces h) :
    ∃ s, w.Converged config name o d files s st₁ := by
  cases ok_of_replaces first.reaches replaces
  cases first.outcome spec with
  | kept judges _             => exact absurd replaces judges.not_replaces
  | filled judges stale hc hr =>
    cases (publishes.content _).symm.trans hc
    have ⟨_, _, access, ensured, _⟩ := judges.calls
    cases (publishes.digest _).symm.trans access.digest
    have ⟨v, stored, others⟩ := judges.fills keyed hr
    have ⟨_, _, _, _, clock, _⟩ := access.opened
    have ⟨source, before, access⟩ := access.later steady clock fun r _ hp hs =>
      others r.text _ (apart r hp) hs
    exact ⟨_, {
      key    := Target.key_fill.trans (ensured.key keyed judges.read)
      fixed  := Target.fill_fill
      stored := ⟨v, stored⟩
      access := ⟨_, source, before, access⟩
    }⟩

variable [ObligingSecretStore σ]

-- One more pass.
theorem Converged.pass (c : w.Converged config name o d files s st)
    (apart : ∀ r, o.spec.pullSecretRef = some r → r.text ≠ o.spec.target.text)
    (steady : w.Steady) (publishes : w.Publishes o.spec.artifact d files)
    (clock : (t.add? config.registryTimeout).isSome) :
    ∃ h st', (w.later t).Completes config name st h (.ok config.requeueInterval) st' ∧
      (Replaces h ↔ ¬files.Offers o.spec.allowList) ∧
      w.Converged config name o d files s st' := by
  have ⟨deadline, clock⟩ := Option.isSome_iff_exists.1 clock
  have ⟨v, stored⟩ := c.stored
  have ⟨t₀, source₀, before₀, access₀⟩ := c.access
  have ⟨source, before, access⟩ := access₀.later steady clock fun _ _ _ hs => hs
  have agrees : Target.needsSync (stamped s v) d o.spec.allowList = false ↔
      files.Offers o.spec.allowList := by
    rw [← filled_stamped c.fixed]
    exact needsSync_filled.trans (and_iff_right rfl)
  by_cases offers : files.Offers o.spec.allowList
  case pos =>
    have ⟨h, idle, looks⟩ := completes_idle access stored (agrees.2 offers)
    refine ⟨h, st, idle, ?_, c.key, c.fixed, c.stored, t, source, before, access⟩
    simp [offers, not_replaces_of_idle looks]
  case neg =>
    have stale := Bool.of_not_eq_false (mt agrees.1 offers)
    have there : secret? st (Store.key (stamped s v)) = some (stamped s v) := c.key ▸ stored
    have ⟨st', hr⟩ := ObligingSecretStore.replaces there rfl
    have ⟨_, v', wrote⟩ := LawfulSecretStore.replace_ok hr
    have key : Store.key (stamped s v) = o.spec.target.text := c.key
    rw [← filled_stamped c.fixed] at hr
    have judges : (w.later t).Judges config name o st source d st (stamped s v) _ :=
      ⟨⟨before, _, access, .found stored, rfl⟩, stored⟩
    have outcome := Outcome.filled judges stale (publishes.content source) hr
    have kept : ∀ r s, o.spec.pullSecretRef = some r → secret? st r.text = some s →
        secret? st' r.text = some s := by
      intro r s hp hs
      rw [wrote.others r.text (key ▸ apart r hp), hs]
    have ⟨source', before', access'⟩ := access₀.later steady clock kept
    refine ⟨_, st', completes_iff.2 ⟨rfl, .inr ⟨o, outcome⟩⟩, ?_, c.key, c.fixed, ?_,
      t, source', before', access'⟩
    · simp only [offers, not_false_eq_true, iff_true]
      exact replaces_append.2 (.inr ⟨_, .head _⟩)
    · exact ⟨v', key ▸ wrote.stored⟩

-- So many more passes as one likes.
theorem Converged.series {ms : List (Made ρ)} (c : w.Converged config name o d files s st)
    (apart : ∀ r, o.spec.pullSecretRef = some r → r.text ≠ o.spec.target.text)
    (steady : w.Steady) (publishes : w.Publishes o.spec.artifact d files)
    (series : w.Series config name st ms st')
    (clock : ∀ m ∈ ms, (m.time.add? config.registryTimeout).isSome) :
    (∀ m ∈ ms, m.result = .ok config.requeueInterval ∧
      (Replaces m.calls ↔ ¬files.Offers o.spec.allowList)) ∧
      w.Converged config name o d files s st' := by
  induction series with
  | refl              => exact ⟨by simp, c⟩
  | step pass more hi =>
    have ⟨here, there⟩ := List.forall_mem_cons.1 clock
    have ⟨h, st₁, pass', replaces, c⟩ := c.pass apart steady publishes here
    have ⟨hh, hr, hs⟩ := pass.unique pass'
    subst hs
    have ⟨rest, c⟩ := hi c there
    exact ⟨List.forall_mem_cons.2 ⟨⟨hr, hh ▸ replaces⟩, rest⟩, c⟩

theorem Converged.series_exists {ts : List Instant}
    (c : w.Converged config name o d files s st)
    (apart : ∀ r, o.spec.pullSecretRef = some r → r.text ≠ o.spec.target.text)
    (steady : w.Steady) (publishes : w.Publishes o.spec.artifact d files)
    (clock : ∀ t ∈ ts, (t.add? config.registryTimeout).isSome) :
    ∃ ms st', w.Series config name st ms st' ∧ ms.map (·.time) = ts := by
  induction ts generalizing st with
  | nil          => exact ⟨[], st, .refl, rfl⟩
  | cons t ts hi =>
    have ⟨here, there⟩ := List.forall_mem_cons.1 clock
    have ⟨h, st₁, pass, _, c⟩ := c.pass apart steady publishes here
    have ⟨ms, st', series, times⟩ := hi c there
    exact ⟨⟨t, h, _⟩ :: ms, st', .step pass series, congrArg _ times⟩

end World

open World

variable [SecretStore σ] [LawfulSecretStore σ] [ObligingSecretStore σ] {w : World ρ} {st st₁ : σ}

theorem not_offers_iff {allow : List String} : ¬files.Offers allow ↔
    allow ≠ [] ∧ (¬allow.Nodup ∨ ∃ name ∈ allow, name ∉ files) := by
  simp only [FileMap.Offers, not_or, not_and_or, not_forall, exists_prop]

-- A pass that has replaced the target, and any number of passes after it, each at a time to which
-- the timeout can still be added: at any other time it comes to a halt.
theorem replace_converges (keyed : Keyed st) (spec : w.spec name = .ok (some o))
    (apart : ∀ r, o.spec.pullSecretRef = some r → r.text ≠ o.spec.target.text)
    (steady : w.Steady) (publishes : w.Publishes o.spec.artifact d files)
    (first : w.Completes config name st h r st₁) (replaces : Replaces h) :
    ∃ s, secret? st₁ o.spec.target.text = some s ∧
      s.data = some (files.restrictTo o.spec.allowList) ∧ Target.lastDigest? s = some d ∧
      (∀ ts : List Instant, (∀ t ∈ ts, (t.add? config.registryTimeout).isSome) →
        ∃ ms st₂, w.Series config name st₁ ms st₂ ∧ ms.map (·.time) = ts) ∧
      ∀ ms st₂, w.Series config name st₁ ms st₂ →
        (∀ m ∈ ms, (m.time.add? config.registryTimeout).isSome) →
        (∀ m ∈ ms, m.result = .ok config.requeueInterval ∧
          (Replaces m.calls ↔ o.spec.allowList ≠ [] ∧
            (¬o.spec.allowList.Nodup ∨ ∃ name ∈ o.spec.allowList, name ∉ files))) ∧
        ∃ v, secret? st₂ o.spec.target.text = some (stamped s v) := by
  have ⟨s, c⟩ := Converged.of_replaces keyed spec apart steady publishes first replaces
  have ⟨v, stored⟩ := c.stored
  refine ⟨stamped s v, stored, ?_, ?_, fun _ => c.series_exists apart steady publishes, ?_⟩
  · rw [← filled_stamped c.fixed]
    rfl
  · rw [← filled_stamped c.fixed]
    exact Target.lastDigest?_fill
  · intro ms st₂ series clock
    have ⟨passes, c⟩ := c.series apart steady publishes series clock
    simp only [not_offers_iff] at passes
    exact ⟨passes, c.stored⟩

-- A name that no file has, so that two more passes replace the target by what it is.
open Sample in
theorem replace_converges_sample : ∃ s ms st₂,
    secret? (once absent) desired.spec.target.text = some s ∧
    s.data = some (fetched.files.restrictTo absent) ∧
    (world (asking absent) fetched).Series {} "site" (once absent) ms st₂ ∧
    ms.map (·.time) = [⟨60000000000⟩, ⟨120000000000⟩] ∧ (∀ m ∈ ms, Replaces m.calls) ∧
    ∃ v, secret? st₂ desired.spec.target.text = some (stamped s v) := by
  have ⟨h, first, hf⟩ := completes_once absent
  have replaces := first.replaces_of_fetches rfl (hf ▸ List.mem_singleton_self _)
  have publishes : (world (asking absent) fetched).Publishes (asking absent).spec.artifact
      fetched.digest fetched.files := ⟨fun _ => rfl, fun _ => rfl⟩
  have apart (r : SecretRef) (hr : (asking absent).spec.pullSecretRef = some r) :
      r.text ≠ desired.spec.target.text := by
    cases hr
  have ⟨s, stored, data, _, more, passes⟩ := replace_converges Store.sound_empty.keyed rfl apart
    (steady _ _) publishes first replaces
  have ⟨ms, st₂, series, times⟩ := more [⟨60000000000⟩, ⟨120000000000⟩] (by decide)
  have clock : ∀ m ∈ ms, (m.time.add? ({} : Config).registryTimeout).isSome := by
    intro m hm
    have ht := List.mem_map_of_mem (f := Made.time) hm
    rw [times] at ht
    simp only [List.mem_cons, List.not_mem_nil, or_false] at ht
    rcases ht with ht | ht <;>
    · rw [ht]
      rfl
  have ⟨each, kept⟩ := passes ms st₂ series clock
  have wanting : absent ≠ [] ∧ (¬absent.Nodup ∨ ∃ name ∈ absent, name ∉ fetched.files) := by
    refine ⟨nofun, .inr ⟨"missing.html", .tail _ (.head _), ?_⟩⟩
    simp [Dict.mem_iff, fetched, Dict.find?, Dict.singleton]
  exact ⟨s, ms, st₂, stored, data, series, times, fun m hm => (each m hm).2.2 wanting, kept⟩

end ArtifactSync.Pass
