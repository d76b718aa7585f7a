import ArtifactSync.Proofs.Config
import ArtifactSync.Proofs.Sync.History

namespace ArtifactSync

namespace Config

variable {env : Environment} {config : Config}

-- A setting is a number of seconds that fits a word.
def IsSeconds (d : Duration) : Prop :=
  ∃ n < 2 ^ 64, d.nanos = n * nanosPerSecond

theorem isSeconds_registryTimeout (h : ofEnvironment env = .ok config) :
    IsSeconds config.registryTimeout := by
  have ⟨n, tells, timeout⟩ := (ofEnvironment_ok_iff.1 h).timeout
  exact ⟨n, tells.lt (by decide), timeout⟩

end Config

-- A clock can show what is less than 2^63 seconds after its start.
theorem Instant.add?_eq {t : Instant} {d : Duration} : t.add? d =
    if t.nanos + d.nanos < 2 ^ 63 * nanosPerSecond then some ⟨t.nanos + d.nanos⟩ else none := by
  unfold add? nanosPerSecond
  simp only [Nat.div_lt_iff_lt_mul (show 0 < 1000000000 by decide)]

namespace Pass

open Interaction (Reaches)

variable {ρ : Type} {config : Config} {name : String} {o : OciSecret} {h asked : History ρ}
  {s s' : Stage ρ} {p : Underway ρ} {c : Call ρ} {go : Answer c → Stage ρ}
  {credential : Option PullCredential} {t : Instant}

namespace Stage

-- The most calls that can be left to make.
def left : Stage ρ → Nat
  | start _       => 10
  | pull ..       => 9
  | clock ..      => 8
  | connecting .. => 7
  | resolving ..  => 6
  | looking ..    => 5
  | creating ..   => 4
  | reading ..    => 3
  | fetching ..   => 2
  | replacing ..  => 1
  | stuck         => 1
  | ended _       => 0

-- The deadline is known, or is of no concern any more.
def Dated : Stage ρ → Prop
  | start _ | pull .. | clock .. | stuck => False
  | _ => True

structure Later (s s' : Stage ρ) : Prop where
  left  : s'.left < s.left
  dated : s.Dated → s'.Dated

theorem later_ended {r : Except Error Duration} (h : 0 < s.left) : Later s (.ended r) where
  left    := h
  dated _ := trivial

theorem later_given {α : Type} {go : α → Stage ρ} {x : Except Error α} (pos : 0 < s.left)
    (h : ∀ a, Later s (go a)) : Later s (given go x) := by
  cases x with
  | ok a    => exact h a
  | error _ => exact later_ended pos

-- Every answer leads on.
theorem later_next (hn : s.next config = some ⟨c, go⟩) (x : Answer c) : Later s (go x) := by
  cases s with
  | start name =>
    cases hn
    refine later_given (Nat.zero_lt_succ _) fun found => ?_
    cases found with
    | none   => exact later_ended (Nat.zero_lt_succ _)
    | some o =>
      refine later_given (Nat.zero_lt_succ _) fun _ => ?_
      cases o.spec.pullSecretRef with
      | none   => exact ⟨by simp [left], False.elim⟩
      | some _ => exact ⟨by simp [left], False.elim⟩
  | pull o r =>
    cases hn
    refine later_given (Nat.zero_lt_succ _) fun found => ?_
    cases found with
    | none   => exact later_ended (Nat.zero_lt_succ _)
    | some s =>
      exact later_given (Nat.zero_lt_succ _) fun _ => ⟨by simp [left], False.elim⟩
  | clock o credential =>
    cases hn
    dsimp only
    split <;> exact ⟨by simp [left], False.elim⟩
  | stuck =>
    cases hn
    exact nomatch x
  | looking o source current =>
    cases hn
    refine later_given (Nat.zero_lt_succ _) fun found => ?_
    cases found with
    | none   => exact later_given (Nat.zero_lt_succ _) fun _ => ⟨by simp [left], fun _ => trivial⟩
    | some _ => exact ⟨by simp [left], fun _ => trivial⟩
  | reading o source current =>
    cases hn
    refine later_given (Nat.zero_lt_succ _) fun found => ?_
    cases found with
    | none        => exact later_ended (Nat.zero_lt_succ _)
    | some target =>
      dsimp only
      split <;> exact ⟨by simp [left], fun _ => trivial⟩
  | connecting _ _ _ | resolving _ _ | creating _ _ _ _ | fetching _ _ _ | replacing _ _ _ =>
    cases hn
    exact later_given (Nat.zero_lt_succ _) fun _ => ⟨by simp [left], fun _ => trivial⟩
  | ended r => cases hn

theorem Steps.length_add_left_le (e : Steps config s h s') : h.length + s'.left ≤ s.left := by
  induction e with
  | refl             => simp
  | @step _ _ _ x _ _ hn _ hi =>
    have := (later_next hn x).left
    rw [List.length_cons]
    omega

theorem Steps.dated (e : Steps config s h s') (d : s.Dated) : s'.Dated :=
  e.keeps (P := fun s _ => s.Dated) d fun x d hn => (later_next hn x).dated d

-- A pass with a deadline is at its end, or it makes a call that can be answered.
theorem Dated.next (d : s.Dated) (config : Config) :
    (∃ r, s = .ended r) ∨ ∃ c go, s.next config = some ⟨c, go⟩ ∧ c ≠ .halt := by
  cases s with
  | start _ | pull _ _ | clock _ _ | stuck => cases d
  | ended r => exact .inl ⟨r, rfl⟩
  | _       => exact .inr ⟨_, _, rfl, nofun⟩

end Stage

theorem Stage.steps_clock : Stage.Steps (ρ := ρ) config (.clock o credential) [⟨.now, t⟩]
    (if t.nanos + config.registryTimeout.nanos < 2 ^ 63 * nanosPerSecond then
      .connecting o credential ⟨t.nanos + config.registryTimeout.nanos⟩ else .stuck) := by
  split
  case isTrue shown  =>
    refine .step rfl ?_
    simp only [Instant.add?_eq, if_pos shown]
    exact .refl
  case isFalse never =>
    refine .step rfl ?_
    simp only [Instant.add?_eq, if_neg never]
    exact .refl

-- However its calls are answered, the pass comes to an end within so many of them.
def EndsWithin (n : Nat) (p : Underway ρ) : Prop :=
  ∀ h p', p.Reaches h p' → h.length ≤ n ∧
    ((∃ r, p' = .done r) ∨ ∃ c next, p' = .ask c next ∧ c ≠ .halt)

theorem Stage.Unfolds.endsWithin (u : Unfolds config s p) (d : s.Dated) : EndsWithin s.left p := by
  intro h p' reaches
  have ⟨s', steps, u'⟩ := u.steps reaches
  refine ⟨Nat.le_trans (Nat.le_add_right ..) steps.length_add_left_le, ?_⟩
  cases (steps.dated d).next config with
  | inl ended =>
    have ⟨r, hs⟩ := ended
    subst hs
    exact .inl ⟨r, u'.of_ended⟩
  | inr asks  =>
    have ⟨c, go, hn, goes⟩ := asks
    have ⟨next, hp, _⟩ := u'.asks hn
    exact .inr ⟨c, next, hp, goes⟩

-- Whom the pass acts for, once these calls have told.
inductive Resolved (o : OciSecret) : Option PullCredential → History ρ → Prop
  | anonymous : (o.spec.pullSecretRef = none) → Resolved o none []
  | pulled {r : SecretRef} {s : Kubernetes.Secret} {c : PullCredential} :
    (o.spec.pullSecretRef = some r) → PullCredential.ofSecret s = .ok c →
    Resolved o (some c) [⟨.getSecret r, .ok (some s)⟩]

-- The clock is read next.
theorem Resolved.steps {s : Stage ρ} (resolved : Resolved o credential asked)
    (valid : o.validate = .ok ()) (hs : Stage.Steps config (.clock o credential) h s) :
    Stage.Steps config (.start name) (⟨.getSpec name, .ok (some o)⟩ :: (asked ++ h)) s := by
  refine .step rfl ?_
  simp only [Stage.given, valid]
  cases resolved with
  | anonymous hp =>
    simp only [hp]
    exact hs
  | pulled hp hc =>
    simp only [hp]
    refine .step rfl ?_
    simp only [Stage.given, hc]
    exact hs

-- What is left of a pass that has looked at the clock.
theorem exists_reaches_clock (config : Config) (name : String) (t : Instant)
    (valid : o.validate = .ok ()) (resolved : Resolved o credential asked) :
    ∃ p, (reconcile config name).run.Reaches
        (⟨.getSpec name, .ok (some o)⟩ :: (asked ++ [⟨.now, t⟩])) p ∧
      if t.nanos + config.registryTimeout.nanos < 2 ^ 63 * nanosPerSecond then
        (∃ next, p = .ask (.connect o.spec.registry credential
          ⟨t.nanos + config.registryTimeout.nanos⟩) next) ∧ EndsWithin 7 p
      else ∃ next, p = .ask .halt next := by
  have ⟨p, reaches, u⟩ :=
    (Stage.start_unfolds config name).reaches (resolved.steps valid (Stage.steps_clock (t := t)))
  refine ⟨p, reaches, ?_⟩
  split
  case isTrue shown  =>
    rw [if_pos shown] at u
    have ⟨next, hp, _⟩ := u.asks rfl
    exact ⟨⟨next, hp⟩, u.endsWithin trivial⟩
  case isFalse never =>
    rw [if_neg never] at u
    have ⟨next, hp, _⟩ := u.asks rfl
    exact ⟨next, hp⟩

-- A pass whose deadline the clock cannot show has only a call left that nothing answers.
theorem reconcile_connects_iff {env : Config.Environment}
    (accepted : Config.ofEnvironment env = .ok config) (valid : o.validate = .ok ())
    (resolved : Resolved o credential asked) (name : String) (t : Instant) :
    ∃ seconds < 2 ^ 64, config.registryTimeout.nanos = seconds * nanosPerSecond ∧
      ∃ p, (reconcile config name).run.Reaches
          (⟨.getSpec name, .ok (some o)⟩ :: (asked ++ [⟨.now, t⟩])) p ∧
        if t.nanos + seconds * nanosPerSecond < 2 ^ 63 * nanosPerSecond then
          (∃ next, p = .ask (.connect o.spec.registry credential
            ⟨t.nanos + seconds * nanosPerSecond⟩) next) ∧ EndsWithin 7 p
        else ∃ next, p = .ask .halt next := by
  have ⟨seconds, below, timeout⟩ := Config.isSeconds_registryTimeout accepted
  refine ⟨seconds, below, timeout, ?_⟩
  rw [← timeout]
  exact exists_reaches_clock config name t valid resolved

namespace Sample

-- The artifact of `desired`, for which somebody has to log in.
def guarded : OciSecret :=
  { desired with spec := { desired.spec with pullSecret := some ⟨some "pull", some "web"⟩ } }

def pull : Kubernetes.Secret where
  data := some (.singleton PullCredential.key [0x7B, 0x7D])

theorem resolved_guarded : Resolved (ρ := Unit) guarded (some ⟨[0x7B, 0x7D]⟩)
    [⟨.getSecret ⟨some "pull", some "web"⟩, .ok (some pull)⟩] :=
  .pulled rfl rfl

-- The registry is given this many seconds.
def patience (seconds : String) : Config.Environment := fun name =>
  if name = "REGISTRY_TIMEOUT_SECS" then some (bytesOf seconds) else none

def timeout? (seconds : String) : Option Nat :=
  (Config.ofEnvironment (patience seconds)).toOption.map (·.registryTimeout.nanos)

theorem accepted_of_timeout? {seconds : String} {n : Nat} (h : timeout? seconds = some n) :
    ∃ config, Config.ofEnvironment (patience seconds) = .ok config ∧
      config.registryTimeout.nanos = n := by
  unfold timeout? at h
  cases hc : Config.ofEnvironment (patience seconds) with
  | ok config =>
    rw [hc] at h
    exact ⟨config, rfl, Option.some.inj h⟩
  | error _   =>
    rw [hc] at h
    cases h

end Sample

open Sample

-- The longest time that the clock can show from its start on.
theorem reconcile_connects_iff_sample : ∃ config p,
    Config.ofEnvironment (patience "9223372036854775807") = .ok config ∧
    guarded.validate = .ok () ∧
    (reconcile config "site").run.Reaches (⟨.getSpec "site", .ok (some guarded)⟩ ::
      ([⟨.getSecret ⟨some "pull", some "web"⟩, .ok (some pull)⟩] ++ [⟨.now, (⟨0⟩ : Instant)⟩])) p ∧
    EndsWithin (ρ := Unit) 7 p := by
  have longest : timeout? "9223372036854775807" = some (9223372036854775807 * nanosPerSecond) := by
    decide +kernel
  have ⟨config, accepted, timeout⟩ := accepted_of_timeout? longest
  have ⟨seconds, _, same, p, reaches, connects⟩ :=
    reconcile_connects_iff accepted rfl resolved_guarded "site" ⟨0⟩
  rw [timeout] at same
  rw [if_pos (by rw [← same]; decide)] at connects
  exact ⟨config, p, accepted, rfl, reaches, connects.2⟩

-- A second more, and the pass goes no further than to the clock.
theorem reconcile_never_connects : ∃ config next,
    Config.ofEnvironment (patience "9223372036854775808") = .ok config ∧
    guarded.validate = .ok () ∧
    Interaction.Reaches (A := Answer (ρ := Unit)) (reconcile config "site").run
      (⟨.getSpec "site", .ok (some guarded)⟩ ::
        ([⟨.getSecret ⟨some "pull", some "web"⟩, .ok (some pull)⟩] ++
          [⟨.now, (⟨0⟩ : Instant)⟩])) (.ask .halt next) := by
  have longer : timeout? "9223372036854775808" = some (9223372036854775808 * nanosPerSecond) := by
    decide +kernel
  have ⟨config, accepted, timeout⟩ := accepted_of_timeout? longer
  have ⟨p, reaches, halts⟩ := exists_reaches_clock config "site" ⟨0⟩ rfl resolved_guarded
  rw [if_neg (by rw [timeout]; decide)] at halts
  have ⟨next, hp⟩ := halts
  exact ⟨config, next, accepted, rfl, hp ▸ reaches⟩

end Pass

end ArtifactSync
