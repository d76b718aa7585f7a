import ArtifactSync.Proofs.Sync.World

namespace ArtifactSync.Pass

open Kubernetes (Secret)
open Interaction (Turn)
open SecretStore

variable {ρ σ : Type} {config : Config} {name : String} {o : OciSecret} {h h₁ h₂ : History ρ}
  {e : Turn (Answer (ρ := ρ))} {d : Duration}

-- Nothing was fetched, and no write was tried.
def Idle : Turn (Answer (ρ := ρ)) → Prop
  | ⟨.fetchContent .., _⟩ | ⟨.createSecret _, _⟩ | ⟨.replaceSecret _, _⟩ => False
  | _ => True

def fetched? : Turn (Answer (ρ := ρ)) → Option Content
  | ⟨.fetchContent .., .ok content⟩ => some content
  | _                               => none

def fetches (h : History ρ) : List Content :=
  h.filterMap fetched?

@[simp]
theorem fetches_append : fetches (h₁ ++ h₂) = fetches h₁ ++ fetches h₂ :=
  List.filterMap_append

theorem Idle.fetched? (i : Idle e) : fetched? e = none := by
  match e with
  | ⟨.fetchContent .., _⟩ => cases i
  | ⟨.now, _⟩ | ⟨.getSpec _, _⟩ | ⟨.getSecret _, _⟩ | ⟨.createSecret _, _⟩ | ⟨.replaceSecret _, _⟩
  | ⟨.connect .., _⟩ | ⟨.fetchDigest .., _⟩ | ⟨.halt, _⟩ => rfl

theorem fetches_of_idle (i : ∀ e ∈ h, Idle e) : fetches h = [] :=
  List.filterMap_eq_nil_iff.2 fun e he => (i e he).fetched?

namespace World

variable {w : World ρ} [SecretStore σ] {st st' : σ}

-- What the target is filled with.
def filled (o : OciSecret) (target : Secret) (content : Content) : Secret :=
  Target.fill target (content.restrictTo o.spec.allowList)

-- Whom the pass acts for, and how it has found out.
inductive Authorized (o : OciSecret) (st : σ) : Option PullCredential → History ρ → Prop
  | anonymous : (o.spec.pullSecretRef = none) → Authorized o st none []
  | pulled {r : SecretRef} {s : Secret} {credential : PullCredential} :
    (o.spec.pullSecretRef = some r) → secret? st r.text = some s →
    PullCredential.ofSecret s = .ok credential →
    Authorized o st (some credential) [⟨.getSecret r, .ok (some s)⟩]

-- The registry has named the artifact, after all these calls.
structure Access (w : World ρ) (config : Config) (name : String) (o : OciSecret) (st : σ)
    (source : ρ) (current : Digest) (h : History ρ) : Prop where
  spec   : w.spec name = .ok (some o)
  valid  : o.validate = .ok ()
  opened : ∃ credential pull deadline, Authorized o st credential pull ∧
    w.now.add? config.registryTimeout = some deadline ∧
    w.connect o.spec.registry credential deadline = .ok source ∧
    h = ⟨.getSpec name, .ok (some o)⟩ :: pull ++ [⟨.now, w.now⟩,
      ⟨.connect o.spec.registry credential deadline, .ok source⟩,
      ⟨.fetchDigest source o.spec.artifact, .ok current⟩]
  digest : w.digest source o.spec.artifact = .ok current

-- The target is there, be it that it was just made.
inductive Ensured (o : OciSecret) (st : σ) : History ρ → σ → Prop
  | found {target : Secret} : (secret? st o.spec.target.text = some target) →
    Ensured o st [⟨.getSecret o.spec.target, .ok (some target)⟩] st
  | made {fresh : Secret} {st' : σ} : (secret? st o.spec.target.text = none) →
    Target.create o = .ok fresh → create st fresh = .ok st' →
    Ensured o st [⟨.getSecret o.spec.target, .ok none⟩, ⟨.createSecret fresh, .ok ()⟩] st'

-- The stages from the last one back to the first.

theorem finishes_replacing {target : Secret} {content : Content} :
    w.Finishes config (.replacing o target content) st h (.ok d) st' ↔
      replace st (filled o target content) = .ok st' ∧
        h = [⟨.replaceSecret (filled o target content), .ok ()⟩] ∧ d = config.requeueInterval := by
  rw [finishes_step rfl rfl, ← filled]
  cases replace st (filled o target content) with
  | ok _    =>
    simp only [finishes_given, finishes_ended, Except.ok.injEq]
    grind
  | error _ => simp

theorem finishes_fetching {source : ρ} {target : Secret} :
    w.Finishes config (.fetching o source target) st h (.ok d) st' ↔
      ∃ content, w.content source o.spec.artifact = .ok content ∧
        replace st (filled o target content) = .ok st' ∧
        h = [⟨.fetchContent source o.spec.artifact, .ok content⟩,
          ⟨.replaceSecret (filled o target content), .ok ()⟩] ∧ d = config.requeueInterval := by
  rw [finishes_step rfl rfl]
  cases w.content source o.spec.artifact with
  | ok _    =>
    simp only [finishes_given, finishes_replacing, Except.ok.injEq]
    grind
  | error _ => simp

theorem finishes_judging {source : ρ} {target : Secret} {stale : Bool} :
    w.Finishes config
        (if stale then .fetching o source target else .ended (.ok config.requeueInterval))
        st h (.ok d) st' ↔
      if stale then w.Finishes config (.fetching o source target) st h (.ok d) st'
      else config.requeueInterval = d ∧ h = [] ∧ st' = st := by
  cases stale <;> simp

theorem finishes_reading {source : ρ} {current : Digest} :
    w.Finishes config (.reading o source current) st h (.ok d) st' ↔
      ∃ target rest, secret? st o.spec.target.text = some target ∧
        h = ⟨.getSecret o.spec.target, .ok (some target)⟩ :: rest ∧
        if Target.needsSync target current o.spec.allowList then
          w.Finishes config (.fetching o source target) st rest (.ok d) st'
        else config.requeueInterval = d ∧ rest = [] ∧ st' = st := by
  rw [finishes_step rfl rfl]
  cases secret? st o.spec.target.text with
  | some target => simp [finishes_judging]
  | none        => simp

theorem finishes_creating {source : ρ} {current : Digest} {fresh : Secret} :
    w.Finishes config (.creating o source current fresh) st h (.ok d) st' ↔
      ∃ made rest, create st fresh = .ok made ∧ h = ⟨.createSecret fresh, .ok ()⟩ :: rest ∧
        w.Finishes config (.reading o source current) made rest (.ok d) st' := by
  rw [finishes_step rfl rfl]
  cases create st fresh <;> simp

theorem finishes_looking {source : ρ} {current : Digest} :
    w.Finishes config (.looking o source current) st h (.ok d) st' ↔
      ∃ ensuring rest made, Ensured o st ensuring made ∧ h = ensuring ++ rest ∧
        w.Finishes config (.reading o source current) made rest (.ok d) st' := by
  rw [finishes_step rfl rfl]
  constructor
  case mp =>
    intro ⟨rest, hh, f⟩
    have ⟨found, hf, f⟩ := finishes_given.1 f
    cases found with
    | some target => exact ⟨_, rest, st, .found (Except.ok.inj hf), by rw [hh, hf]; rfl, f⟩
    | none        =>
      have ⟨fresh, hc, f⟩ := finishes_given.1 f
      have ⟨made, rest', hm, hr, f⟩ := finishes_creating.1 f
      exact ⟨_, rest', made, .made (Except.ok.inj hf) hc hm, by rw [hh, hf, hr]; rfl, f⟩
  case mpr =>
    intro ⟨ensuring, rest, made, ensured, hh, f⟩
    cases ensured with
    | found hf      => exact ⟨rest, by simp [hh, hf], by simpa [hf] using f⟩
    | made hf hc hm =>
      refine ⟨_, by rw [hh, hf]; rfl, ?_⟩
      simp [hf, hc, finishes_creating, hm, f]

theorem finishes_resolving {source : ρ} :
    w.Finishes config (.resolving o source) st h (.ok d) st' ↔
      ∃ current rest, w.digest source o.spec.artifact = .ok current ∧
        h = ⟨.fetchDigest source o.spec.artifact, .ok current⟩ :: rest ∧
        w.Finishes config (.looking o source current) st rest (.ok d) st' := by
  rw [finishes_step rfl rfl]
  cases w.digest source o.spec.artifact <;> simp

theorem finishes_connecting {credential : Option PullCredential} {deadline : Instant} :
    w.Finishes config (.connecting o credential deadline) st h (.ok d) st' ↔
      ∃ source rest, w.connect o.spec.registry credential deadline = .ok source ∧
        h = ⟨.connect o.spec.registry credential deadline, .ok source⟩ :: rest ∧
        w.Finishes config (.resolving o source) st rest (.ok d) st' := by
  rw [finishes_step rfl rfl]
  cases w.connect o.spec.registry credential deadline <;> simp

theorem not_finishes_stuck : ¬w.Finishes config .stuck st h (.ok d) st' := by
  intro ⟨steps, plays⟩
  cases steps with
  | step hn _ =>
    cases hn
    cases plays with
    | step ha _ => cases ha

theorem finishes_clock {credential : Option PullCredential} :
    w.Finishes config (.clock o credential) st h (.ok d) st' ↔
      ∃ deadline rest, w.now.add? config.registryTimeout = some deadline ∧
        h = ⟨.now, w.now⟩ :: rest ∧
        w.Finishes config (.connecting o credential deadline) st rest (.ok d) st' := by
  rw [finishes_step rfl rfl]
  cases w.now.add? config.registryTimeout <;> simp [not_finishes_stuck]

theorem finishes_pull {r : SecretRef} :
    w.Finishes config (.pull o r) st h (.ok d) st' ↔
      ∃ s credential rest, secret? st r.text = some s ∧ PullCredential.ofSecret s = .ok credential ∧
        h = ⟨.getSecret r, .ok (some s)⟩ :: rest ∧
        w.Finishes config (.clock o (some credential)) st rest (.ok d) st' := by
  rw [finishes_step rfl rfl]
  cases secret? st r.text with
  | some s => cases hc : PullCredential.ofSecret s <;> simp [hc]
  | none   => simp

-- Who asks is known at the clock, whether or not there was a pull secret to read.
theorem finishes_resolvingCredential :
    w.Finishes config
        (match o.spec.pullSecretRef with | none => .clock o none | some r => .pull o r)
        st h (.ok d) st' ↔
      ∃ credential pull rest, Authorized o st credential pull ∧ h = pull ++ rest ∧
        w.Finishes config (.clock o credential) st rest (.ok d) st' := by
  constructor
  case mp =>
    intro f
    cases hp : o.spec.pullSecretRef with
    | none   => exact ⟨none, [], h, .anonymous hp, rfl, by simpa [hp] using f⟩
    | some r =>
      simp only [hp, finishes_pull] at f
      have ⟨s, credential, rest, hs, hc, hh, f⟩ := f
      exact ⟨some credential, _, rest, .pulled hp hs hc, hh, f⟩
  case mpr =>
    intro ⟨credential, pull, rest, authorized, hh, f⟩
    cases authorized with
    | anonymous hp    => simpa [hp, hh] using f
    | pulled hp hs hc =>
      simp only [hp, finishes_pull]
      exact ⟨_, _, rest, hs, hc, hh, f⟩

theorem finishes_start :
    w.Finishes config (.start name) st h (.ok d) st' ↔
      (w.spec name = .ok none ∧ config.requeueInterval = d ∧ h = [⟨.getSpec name, .ok none⟩] ∧
        st' = st) ∨
      ∃ o source current before rest, w.Access config name o st source current before ∧
        h = before ++ rest ∧ w.Finishes config (.looking o source current) st rest (.ok d) st' := by
  rw [finishes_step rfl rfl]
  constructor
  case mp =>
    intro ⟨rest, hh, f⟩
    have ⟨found, hs, f⟩ := finishes_given.1 f
    cases found with
    | none   =>
      have ⟨hd, hr, hst⟩ := finishes_ended.1 f
      exact .inl ⟨hs, Except.ok.inj hd, by rw [hh, hr, hs], hst⟩
    | some o =>
      have ⟨_, valid, f⟩ := finishes_given.1 f
      have ⟨credential, pull, rest₁, authorized, hh₁, f⟩ := finishes_resolvingCredential.1 f
      have ⟨deadline, rest₂, hd, hh₂, f⟩ := finishes_clock.1 f
      have ⟨source, rest₃, hc, hh₃, f⟩ := finishes_connecting.1 f
      have ⟨current, rest₄, hn, hh₄, f⟩ := finishes_resolving.1 f
      have access : w.Access config name o st source current _ := {
        spec   := hs
        valid  := valid
        opened := ⟨credential, pull, deadline, authorized, hd, hc, rfl⟩
        digest := hn
      }
      refine .inr ⟨o, source, current, _, rest₄, access, ?_, f⟩
      simp [hh, hs, hh₁, hh₂, hh₃, hh₄]
  case mpr =>
    intro f
    cases f with
    | inl gone =>
      have ⟨hs, hd, hh, hst⟩ := gone
      exact ⟨[], by rw [hh, hs], by simp [hs, hd, hst]⟩
    | inr f    =>
      have ⟨o, source, current, before, rest, access, hh, f⟩ := f
      have ⟨credential, pull, deadline, authorized, hd, hc, hb⟩ := access.opened
      have f := finishes_resolving.2 ⟨current, _, access.digest, rfl, f⟩
      have f := finishes_connecting.2 ⟨source, _, hc, rfl, f⟩
      have f := finishes_clock.2 ⟨deadline, _, hd, rfl, f⟩
      have f := finishes_resolvingCredential.2 ⟨credential, pull, _, authorized, rfl, f⟩
      refine ⟨_, ?_, finishes_given.2 ⟨some o, access.spec, finishes_given.2 ⟨(), access.valid, f⟩⟩⟩
      simp [hh, hb, access.spec]

-- The target as it is when it is judged, after all these calls.
structure Judges (w : World ρ) (config : Config) (name : String) (o : OciSecret) (st : σ)
    (source : ρ) (current : Digest) (made : σ) (target : Secret) (h : History ρ) : Prop where
  calls : ∃ before ensuring, w.Access config name o st source current before ∧
    Ensured o st ensuring made ∧
    h = before ++ ensuring ++ [⟨.getSecret o.spec.target, .ok (some target)⟩]
  read  : secret? made o.spec.target.text = some target

-- How a pass that succeeds can end. The target is left as it is, or it is filled.
inductive Outcome (w : World ρ) (config : Config) (name : String) (o : OciSecret) (st : σ) :
    History ρ → σ → Prop
  | kept {source : ρ} {current : Digest} {made : σ} {target : Secret} {h : History ρ} :
    (w.Judges config name o st source current made target h) →
    Target.needsSync target current o.spec.allowList = false → Outcome w config name o st h made
  | filled {source : ρ} {current : Digest} {made st' : σ} {target : Secret} {h : History ρ}
      {content : Content} :
    (w.Judges config name o st source current made target h) →
    Target.needsSync target current o.spec.allowList = true →
    w.content source o.spec.artifact = .ok content →
    replace made (World.filled o target content) = .ok st' →
    Outcome w config name o st (h ++ [⟨.fetchContent source o.spec.artifact, .ok content⟩,
      ⟨.replaceSecret (World.filled o target content), .ok ()⟩]) st'

theorem Judges.finishes {source : ρ} {current : Digest} {made : σ} {target : Secret}
    {rest : History ρ} (j : w.Judges config name o st source current made target h)
    (f : if Target.needsSync target current o.spec.allowList then
        w.Finishes config (.fetching o source target) made rest (.ok d) st'
      else config.requeueInterval = d ∧ rest = [] ∧ st' = made) :
    w.Finishes config (.start name) st (h ++ rest) (.ok d) st' := by
  have ⟨before, ensuring, access, ensured, hh⟩ := j.calls
  have f := finishes_reading.2 ⟨target, rest, j.read, rfl, f⟩
  have f := finishes_looking.2 ⟨ensuring, _, made, ensured, rfl, f⟩
  exact finishes_start.2 (.inr ⟨o, source, current, before, _, access, by simp [hh], f⟩)

theorem completes_iff :
    w.Completes config name st h (.ok d) st' ↔ config.requeueInterval = d ∧
      ((w.spec name = .ok none ∧ h = [⟨.getSpec name, .ok none⟩] ∧ st' = st) ∨
        ∃ o, w.Outcome config name o st h st') := by
  rw [completes_iff_finishes, finishes_start]
  constructor
  case mp =>
    intro f
    cases f with
    | inl gone => exact ⟨gone.2.1, .inl ⟨gone.1, gone.2.2⟩⟩
    | inr f    =>
      have ⟨o, source, current, before, rest, access, hh, f⟩ := f
      have ⟨ensuring, rest₁, made, ensured, hh₁, f⟩ := finishes_looking.1 f
      have ⟨target, rest₂, ht, hh₂, f⟩ := finishes_reading.1 f
      have judges : w.Judges config name o st source current made target _ :=
        ⟨⟨before, ensuring, access, ensured, rfl⟩, ht⟩
      split at f
      case isTrue stale =>
        have ⟨content, hc, hr, hh₃, hd⟩ := finishes_fetching.1 f
        refine ⟨hd.symm, .inr ⟨o, ?_⟩⟩
        have := Outcome.filled judges stale hc hr
        simpa [hh, hh₁, hh₂, hh₃] using this
      case isFalse kept =>
        have ⟨hd, hr, hst⟩ := f
        refine ⟨hd, .inr ⟨o, ?_⟩⟩
        have := Outcome.kept judges (by simpa using kept)
        simpa [hh, hh₁, hh₂, hr, hst] using this
  case mpr =>
    intro ⟨hd, f⟩
    cases f with
    | inl gone    => exact .inl ⟨gone.1, hd, gone.2⟩
    | inr outcome =>
      have ⟨o, outcome⟩ := outcome
      refine finishes_start.1 ?_
      cases outcome with
      | kept judges kept          =>
        have f := judges.finishes (by rw [kept]; exact ⟨hd, rfl, rfl⟩)
        simpa using f
      | filled judges stale hc hr =>
        have f := finishes_fetching.2 ⟨_, hc, hr, rfl, hd.symm⟩
        exact judges.finishes (by simpa [stale] using f)

theorem Authorized.idle {credential : Option PullCredential} (a : Authorized o st credential h) :
    ∀ e ∈ h, Idle e := by
  cases a with
  | anonymous _  => simp
  | pulled _ _ _ => simp [Idle]

theorem Access.idle {source : ρ} {current : Digest}
    (a : w.Access config name o st source current h) : ∀ e ∈ h, Idle e := by
  have ⟨credential, pull, deadline, authorized, _, _, hh⟩ := a.opened
  subst hh
  intro e he
  simp only [List.cons_append, List.mem_cons, List.mem_append, List.not_mem_nil, or_false] at he
  rcases he with rfl | he | rfl | rfl | rfl
  · exact trivial
  · exact authorized.idle e he
  · exact trivial
  · exact trivial
  · exact trivial

theorem Judges.fetches_eq_nil {source : ρ} {current : Digest} {made : σ} {target : Secret}
    (j : w.Judges config name o st source current made target h) : fetches h = [] := by
  have ⟨before, ensuring, access, ensured, hh⟩ := j.calls
  rw [hh, fetches_append, fetches_append, fetches_of_idle access.idle]
  cases ensured <;> rfl

theorem Judges.fetches_filled {source source' : ρ} {current : Digest} {made : σ}
    {target replaced : Secret} {artifact : String} {content : Content}
    (j : w.Judges config name o st source current made target h) :
    fetches (h ++ [⟨.fetchContent source' artifact, .ok content⟩,
      ⟨.replaceSecret replaced, .ok ()⟩]) = [content] := by
  rw [fetches_append, j.fetches_eq_nil]
  rfl

theorem Outcome.spec (outcome : w.Outcome config name o st h st') : w.spec name = .ok (some o) := by
  cases outcome with
  | kept j _ | filled j _ _ _ =>
    have ⟨_, _, access, _⟩ := j.calls
    exact access.spec

theorem Completes.outcome (c : w.Completes config name st h (.ok d) st')
    (spec : w.spec name = .ok (some o)) : w.Outcome config name o st h st' := by
  have ⟨_, ending⟩ := completes_iff.1 c
  cases ending with
  | inl gone    => cases gone.1.symm.trans spec
  | inr outcome =>
    have ⟨o', outcome⟩ := outcome
    cases outcome.spec.symm.trans spec
    exact outcome

end World

end ArtifactSync.Pass
