import ArtifactSync.Proofs.Interaction.Reaches
import ArtifactSync.Sync.Pass

namespace ArtifactSync.Pass

open Kubernetes (Secret)
open Interaction (Reaches Turn)
open Program

variable {ρ : Type} {config : Config} {α : Type}

abbrev History (ρ : Type) := List (Turn (Answer (ρ := ρ)))

-- A pass at any point from its first call on.
abbrev Underway (ρ : Type) := Interaction (Answer (ρ := ρ)) (Except Error Duration)

inductive Stage (ρ : Type)
  | start (name : String)
  | pull (o : OciSecret) (r : SecretRef)
  | clock (o : OciSecret) (credential : Option PullCredential)
  | stuck
  | connecting (o : OciSecret) (credential : Option PullCredential) (deadline : Instant)
  | resolving (o : OciSecret) (source : ρ)
  | looking (o : OciSecret) (source : ρ) (current : Digest)
  | creating (o : OciSecret) (source : ρ) (current : Digest) (fresh : Secret)
  | reading (o : OciSecret) (source : ρ) (current : Digest)
  | fetching (o : OciSecret) (source : ρ) (target : Secret)
  | replacing (o : OciSecret) (target : Secret) (content : Content)
  | ended (result : Except Error Duration)

namespace Stage

-- Any failure of a call is the end of the pass, and is what the pass ends with.
def given (go : α → Stage ρ) : Except Error α → Stage ρ
  | .ok a    => go a
  | .error e => ended (.error e)

-- The call that a stage makes, and the stage that each answer leads to.
def next (config : Config) : Stage ρ → Option ((c : Call ρ) × (Answer c → Stage ρ))
  | start name =>
    some ⟨.getSpec name, given fun
      | none => ended (.ok config.requeueInterval)
      | some o => given (fun _ =>
        match o.spec.pullSecretRef with
        | none => clock o none
        | some r => pull o r) o.validate⟩
  | pull o r =>
    some ⟨.getSecret r, given fun
      | some s => given (fun c => clock o (some c)) (PullCredential.ofSecret s)
      | none => ended (.error (.notFound s!"Pull secret {r.text} does not exist"))⟩
  | clock o credential =>
    some ⟨.now, fun t =>
      match t.add? config.registryTimeout with
      | some deadline => connecting o credential deadline
      | none => stuck⟩
  | stuck => some ⟨.halt, fun never => nomatch never⟩
  | connecting o credential deadline =>
    some ⟨.connect o.spec.registry credential deadline, given (resolving o)⟩
  | resolving o source => some ⟨.fetchDigest source o.spec.artifact, given (looking o source)⟩
  | looking o source current =>
    some ⟨.getSecret o.spec.target, given fun found =>
      if found.isNone then given (creating o source current) (Target.create o)
      else reading o source current⟩
  | creating o source current fresh =>
    some ⟨.createSecret fresh, given fun _ => reading o source current⟩
  | reading o source current =>
    some ⟨.getSecret o.spec.target, given fun
      | some target =>
        if Target.needsSync target current o.spec.allowList then fetching o source target
        else ended (.ok config.requeueInterval)
      | none =>
        ended (.error (.persistFailed o.spec.target.text
          "target secret missing right after creation"))⟩
  | fetching o source target =>
    some ⟨.fetchContent source o.spec.artifact, given (replacing o target)⟩
  | replacing o target content =>
    some ⟨.replaceSecret (Target.fill target (content.restrictTo o.spec.allowList)),
      given fun _ => ended (.ok config.requeueInterval)⟩
  | ended _ => none

-- A program goes on as a stage does: it makes the same call, and so on after every answer.
inductive Unfolds (config : Config) : Stage ρ → Underway ρ → Prop
  | ended (r) : Unfolds config (ended r) (.done r)
  | ask {s c go f} :
    (s.next config = some ⟨c, go⟩) → (∀ x, Unfolds config (go x) (f x)) →
    Unfolds config s (.ask c f)

namespace Unfolds

-- The part of a pass that comes after the artifact has been named and the target made.
def settle (config : Config) (o : OciSecret) (source : ρ) (current : Digest) :
    Program ρ Duration := do
  let target ← readTarget o
  (do if Target.needsSync target current o.spec.allowList then refresh o source target)
  return config.requeueInterval

variable {o : OciSecret} {source : ρ} {current : Digest} {target : Secret}

-- The stages from the last one back to the first. A call answered with a failure ends the program
-- by reduction alone, so only what an answer is tested for needs a case distinction.

theorem replacing {content : Content} :
    Unfolds config (.replacing (ρ := ρ) o target content)
      (do replaceSecret (Target.fill target (content.restrictTo o.spec.allowList))
          return config.requeueInterval : Program ρ Duration).run := by
  refine ask rfl fun x => ?_
  cases x with
  | ok _    => exact ended _
  | error _ => exact ended _

theorem fetching :
    Unfolds config (.fetching o source target)
      (do refresh o source target; return config.requeueInterval : Program ρ Duration).run := by
  refine ask rfl fun x => ?_
  cases x with
  | ok _    => exact replacing
  | error _ => exact ended _

theorem judging :
    Unfolds config
      (if Target.needsSync target current o.spec.allowList then .fetching o source target
        else .ended (.ok config.requeueInterval))
      (do (do if Target.needsSync target current o.spec.allowList then refresh o source target)
          return config.requeueInterval : Program ρ Duration).run := by
  by_cases h : Target.needsSync target current o.spec.allowList
  case pos =>
    simp only [if_pos h]
    exact fetching
  case neg =>
    simp only [if_neg h]
    exact ended _

theorem reading :
    Unfolds config (.reading o source current) (settle config o source current).run := by
  refine ask rfl fun x => ?_
  match x with
  | .ok (some _) => exact judging
  | .ok none     => exact ended _
  | .error _     => exact ended _

theorem creating {fresh : Secret} :
    Unfolds config (.creating o source current fresh)
      (createSecret fresh >>= fun _ => settle config o source current).run := by
  refine ask rfl fun x => ?_
  cases x with
  | ok _    => exact reading
  | error _ => exact ended _

theorem making :
    Unfolds config (given (.creating o source current) (Target.create o))
      ((do createSecret (← ofExcept (Target.create o))) >>= fun _ =>
        settle config o source current).run := by
  cases Target.create o with
  | ok _    => exact creating
  | error _ => exact ended _

theorem looking :
    Unfolds config (.looking o source current)
      (do ensureTarget o; settle config o source current).run := by
  refine ask rfl fun x => ?_
  match x with
  | .ok (some _) => exact reading
  | .ok none     => exact making
  | .error _     => exact ended _

theorem resolving :
    Unfolds config (.resolving o source)
      (do let current ← fetchDigest source o.spec.artifact
          ensureTarget o
          settle config o source current).run := by
  refine ask rfl fun x => ?_
  cases x with
  | ok _    => exact looking
  | error _ => exact ended _

variable {credential : Option PullCredential}

theorem connecting {deadline : Instant} :
    Unfolds config (.connecting o credential deadline)
      (do let source ← connect o.spec.registry credential deadline
          let current ← fetchDigest source o.spec.artifact
          ensureTarget o
          settle config o source current : Program ρ Duration).run := by
  refine ask rfl fun x => ?_
  cases x with
  | ok _    => exact resolving
  | error _ => exact ended _

theorem stuck {f : Answer (ρ := ρ) .halt → Underway ρ} : Unfolds config .stuck (.ask .halt f) :=
  ask rfl fun never => nomatch never

-- What is left to do once it is known who asks.
def access (config : Config) (o : OciSecret) (credential : Option PullCredential) :
    Program ρ Duration := do
  let deadline ← deadlineAfter config.registryTimeout
  let source ← connect o.spec.registry credential deadline
  let current ← fetchDigest source o.spec.artifact
  ensureTarget o
  settle config o source current

theorem clock : Unfolds config (.clock o credential) (access (ρ := ρ) config o credential).run := by
  refine ask rfl fun t => ?_
  change Unfolds config (match t.add? config.registryTimeout with | some _ => _ | none => _)
    (((match t.add? config.registryTimeout with | some d => pure d | none => halt :
      Program ρ Instant) >>= fun deadline => _).run)
  cases t.add? config.registryTimeout with
  | some _ => exact connecting
  | none   => exact stuck

theorem pull {r : SecretRef} :
    Unfolds config (.pull o r)
      ((do match ← getSecret r with
           | some s => return some (← ofExcept (PullCredential.ofSecret s))
           | none => throw (.notFound s!"Pull secret {r.text} does not exist")) >>=
        access (ρ := ρ) config o).run := by
  refine ask rfl fun x => ?_
  match x with
  | .ok (some s) =>
    change Unfolds config (given _ (PullCredential.ofSecret s))
      ((do return some (← ofExcept (PullCredential.ofSecret s))) >>= access config o).run
    cases PullCredential.ofSecret s with
    | ok _    => exact clock
    | error _ => exact ended _
  | .ok none     => exact ended _
  | .error _     => exact ended _

theorem resolvingCredential :
    Unfolds config
      (match o.spec.pullSecretRef with
        | none => .clock o none
        | some r => .pull o r)
      (resolveCredential o >>= access (ρ := ρ) config o).run := by
  unfold resolveCredential
  cases o.spec.pullSecretRef with
  | none   => exact clock
  | some _ => exact pull

theorem validating :
    Unfolds config
      (given (fun _ =>
        match o.spec.pullSecretRef with
        | none => .clock o none
        | some r => .pull o r) o.validate)
      (do sync config o; return config.requeueInterval : Program ρ Duration).run := by
  have h : (do sync config o; return config.requeueInterval : Program ρ Duration) =
      (do ofExcept o.validate; resolveCredential o >>= access config o) := by
    simp only [sync, bind_assoc]
    rfl
  rw [h]
  cases o.validate with
  | ok _    => exact resolvingCredential
  | error _ => exact ended _

end Unfolds

-- The stages that a pass goes through with these answers.
inductive Steps (config : Config) : Stage ρ → History ρ → Stage ρ → Prop
  | refl {s} : Steps config s [] s
  | step {s c go x h s'} :
    (s.next config = some ⟨c, go⟩) → Steps config (go x) h s' → Steps config s (⟨c, x⟩ :: h) s'

-- What holds at first and is kept by every answer still holds in the end.
theorem Steps.keeps {P : Stage ρ → History ρ → Prop} {s s' : Stage ρ} {h : History ρ}
    (e : Steps config s h s') (first : P s [])
    (kept : ∀ {s h c go} x, P s h → s.next config = some ⟨c, go⟩ → P (go x) (h ++ [⟨c, x⟩])) :
    P s' h := by
  suffices ∀ before, P s before → P s' (before ++ h) from this [] first
  clear first
  induction e with
  | refl => simp
  | step hn _ hi =>
    intro before hp
    have := hi _ (kept _ hp hn)
    simpa using this

namespace Unfolds

variable {s : Stage ρ} {p p' : Underway ρ} {h : History ρ}

theorem next {c : Call ρ} {f : Answer c → Underway ρ} (u : Unfolds config s (.ask c f)) :
    ∃ go, s.next config = some ⟨c, go⟩ ∧ ∀ x, Unfolds config (go x) (f x) := by
  cases u with
  | ask hn hi => exact ⟨_, hn, hi⟩

theorem asks {c : Call ρ} {go : Answer c → Stage ρ} (u : Unfolds config s p)
    (hn : s.next config = some ⟨c, go⟩) : ∃ f, p = .ask c f ∧ ∀ x, Unfolds config (go x) (f x) := by
  cases u with
  | ended _     => cases hn
  | ask hn' hi =>
    cases hn.symm.trans hn'
    exact ⟨_, rfl, hi⟩

theorem done {r : Except Error Duration} (u : Unfolds config s (.done r)) : s = .ended r := by
  cases u
  rfl

theorem of_ended {r : Except Error Duration} (u : Unfolds config (.ended r) p) : p = .done r := by
  cases u with
  | ended     => rfl
  | ask hn _ => cases hn

theorem steps (u : Unfolds config s p) (r : p.Reaches h p') :
    ∃ s', Steps config s h s' ∧ Unfolds config s' p' := by
  induction r generalizing s with
  | refl => exact ⟨s, .refl, u⟩
  | step _ hi =>
    have ⟨_, hn, u⟩ := u.next
    have ⟨s', e, u'⟩ := hi (u _)
    exact ⟨s', .step hn e, u'⟩

theorem reaches {s' : Stage ρ} (u : Unfolds config s p) (e : Steps config s h s') :
    ∃ p', p.Reaches h p' ∧ Unfolds config s' p' := by
  induction e generalizing p with
  | refl => exact ⟨p, .refl, u⟩
  | step hn _ hi =>
    have ⟨f, hp, u⟩ := u.asks hn
    have ⟨p', r, u'⟩ := hi (u _)
    exact ⟨p', hp ▸ .step r, u'⟩

end Unfolds

theorem start_unfolds (config : Config) (name : String) :
    Unfolds config (.start name) (reconcile (ρ := ρ) config name).run := by
  refine .ask rfl fun x => ?_
  match x with
  | .ok (some _) => exact Unfolds.validating
  | .ok none     => exact .ended _
  | .error _     => exact .ended _

end Stage

-- What a whole pass goes through, the machine goes through.
theorem reaches_iff_steps {name : String} {h : History ρ} {r : Except Error Duration} :
    (reconcile config name).run.Reaches h (.done r) ↔
      Stage.Steps config (.start name) h (.ended r) := by
  have u := Stage.start_unfolds (ρ := ρ) config name
  constructor
  case mp =>
    intro reaches
    have ⟨_, steps, u⟩ := u.steps reaches
    cases u.done
    exact steps
  case mpr =>
    intro steps
    have ⟨_, reaches, u⟩ := u.reaches steps
    cases u.of_ended
    exact reaches

end ArtifactSync.Pass
