import ArtifactSync.Proofs.Registry.Gives

namespace ArtifactSync.Registry.Source

open Interaction (Reaches Turn)

variable {α β : Type} {k k' : Option KeptToken} {t : List (Turn Answer)} {e : Error} {s : Source}
  {artifact : String}

def IsOfFetch (e : Error) : Prop :=
  ∃ context cause, e = .fetchFailed context cause

namespace Step

variable {x : Step α} {f : α → Step β} {r : Except Error α}

-- Whatever the answers are, the steps fail in no other way.
def FailsAsFetch (x : Step α) : Prop :=
  ∀ k t e k', (x.run.run.run k).Reaches t (.done (some (.error e), k')) → IsOfFetch e

theorem failsAsFetch_pure {a : α} : FailsAsFetch (pure a) := by
  intro k t e k' h
  have ⟨_, hd⟩ := h.done_elim
  cases hd

-- The second has to do only with what the first gives.
theorem failsAsFetch_bind_given (hx : FailsAsFetch x)
    (hf : ∀ {k t a k'}, x.Gives k t a k' → FailsAsFetch (f a)) : FailsAsFetch (x >>= f) := by
  intro k t e k' h
  have ⟨t₁, t₂, r, _, h₁, h₂⟩ := Reaches.bind_elim (p := x.run.run.run k) h
  match r with
  | (some (.ok a), k₁)    => exact hf h₁ k₁ t₂ e k' h₂
  | (some (.error _), _)  =>
    have ⟨_, hd⟩ := h₂.done_elim
    cases hd
    exact hx k t₁ e k' h₁
  | (none, _)             =>
    have ⟨_, hd⟩ := h₂.done_elim
    cases hd

theorem failsAsFetch_bind (hx : FailsAsFetch x) (hf : ∀ a, FailsAsFetch (f a)) :
    FailsAsFetch (x >>= f) :=
  failsAsFetch_bind_given hx fun _ => hf _

theorem failsAsFetch_ofExcept (h : ∀ e, r = .error e → IsOfFetch e) :
    FailsAsFetch (ofExcept r : Step α) := by
  intro k t e k' reaches
  cases r with
  | ok _    => exact failsAsFetch_pure _ _ _ _ reaches
  | error _ =>
    have ⟨_, hd⟩ := reaches.done_elim
    cases hd
    exact h _ rfl

theorem failsAsFetch_failWith {context : String} {retrieval : Program (Except Failure α)} :
    FailsAsFetch (failWith context retrieval) := by
  intro k t e k' h
  have ⟨t₁, t₂, r, _, h₁, h₂⟩ := Reaches.bind_elim (p := retrieval.run.run k) h
  match r with
  | (some (.ok _), _) | (none, _) =>
    have ⟨_, hd⟩ := h₂.done_elim
    cases hd
  | (some (.error f), _) =>
    have ⟨_, hd⟩ := h₂.done_elim
    cases hd
    exact ⟨context, f.message, rfl⟩

theorem failsAsFetch_lift {p : Program α} : FailsAsFetch (ExceptT.lift p) := by
  intro k t e k' h
  have ⟨t₁, t₂, r, _, h₁, h₂⟩ := Reaches.bind_elim (p := p.run.run k) h
  match r with
  | (some _, _) | (none, _) =>
    have ⟨_, hd⟩ := h₂.done_elim
    cases hd

end Step

open Step

variable {r : Reference}

theorem failsAsFetch_pullDigest : FailsAsFetch (s.pullDigest r) :=
  failsAsFetch_bind failsAsFetch_failWith fun _ => failsAsFetch_pure

theorem failsAsFetch_pullIndexImages {entries : List IndexEntry} :
    FailsAsFetch (s.pullIndexImages r entries) := by
  induction entries with
  | nil          => exact failsAsFetch_pure
  | cons _ _ hi =>
    refine failsAsFetch_bind failsAsFetch_failWith fun ⟨m, _⟩ => ?_
    refine failsAsFetch_bind hi fun images => ?_
    cases m <;> exact failsAsFetch_pure

theorem failsAsFetch_pullImages {m : Manifest} : FailsAsFetch (s.pullImages r m) := by
  cases m with
  | image _ => exact failsAsFetch_pure
  | index _ => exact failsAsFetch_pullIndexImages

theorem isOfFetch_verify {claimed : String} {content : Bytes}
    (h : Retrieval.verify claimed content = .error e) : IsOfFetch e := by
  unfold Retrieval.verify at h
  dsimp only at h
  split at h
  case isTrue  =>
    split at h
    case isTrue  => cases h
    case isFalse =>
      cases h
      exact ⟨_, _, rfl⟩
  case isFalse => cases h

theorem isOfFetch_create {made : Except Staging.Area.Unmade String}
    (h : Staging.Area.create made = .error e) : IsOfFetch e := by
  cases made <;> cases h
  exact ⟨_, _, rfl⟩

theorem isOfFetch_writeOn {area : Staging.Area} {course : Staging.Course} {title : String}
    {content : Bytes} (h : (area.writeOn course title content).1 = .error e) : IsOfFetch e := by
  cases hp : Staging.Title.path title with
  | error f =>
    rw [Staging.Area.writeOn_of_error hp] at h
    cases f <;> cases h <;> exact ⟨_, _, rfl⟩
  | ok p    =>
    rw [Staging.Area.writeOn_of_ok hp] at h
    dsimp only at h
    generalize (area.writeAt course p content).1 = refused? at h
    cases refused? <;> cases h
    exact ⟨_, _, rfl⟩

theorem isOfFetch_readFiles {area : Staging.Area} {reading : Staging.Reading}
    (h : area.readFiles reading = .error e) : IsOfFetch e := by
  unfold Staging.Area.readFiles at h
  split at h
  case h_1 => cases h
  case h_2 =>
    cases h
    exact ⟨_, _, rfl⟩
  case h_3 =>
    split at h
    case isTrue  =>
      cases h
      exact ⟨_, _, rfl⟩
    case isFalse => cases h

theorem failsAsFetch_pullLayer {layer : Descriptor} : FailsAsFetch (s.pullLayer r layer) :=
  failsAsFetch_bind failsAsFetch_failWith fun _ =>
    failsAsFetch_bind (failsAsFetch_ofExcept fun _ h => isOfFetch_verify h) fun _ =>
      failsAsFetch_pure

theorem failsAsFetch_stageLayers {staged : List String} {area : Staging.Area}
    {layers : List Descriptor} : FailsAsFetch (s.stageLayers r staged area layers) := by
  induction layers generalizing staged area with
  | nil              => exact failsAsFetch_pure
  | cons layer _ hi =>
    unfold stageLayers
    split
    case h_1 => exact hi
    case h_2 title _ =>
      split
      case isTrue  => exact hi
      case isFalse =>
        refine failsAsFetch_bind failsAsFetch_pullLayer fun content => ?_
        refine failsAsFetch_bind_given failsAsFetch_lift fun given => ?_
        have ⟨_, written, _⟩ := gives_write given
        refine failsAsFetch_bind (failsAsFetch_ofExcept fun e he => ?_) fun _ => hi
        exact isOfFetch_writeOn ((congrArg Prod.fst written).trans he)

theorem failsAsFetch_pullContent : FailsAsFetch (s.pullContent r) := by
  refine failsAsFetch_bind failsAsFetch_lift fun made => ?_
  refine failsAsFetch_bind (failsAsFetch_ofExcept fun _ h => isOfFetch_create h) fun _ => ?_
  refine failsAsFetch_bind failsAsFetch_failWith fun _ => ?_
  refine failsAsFetch_bind failsAsFetch_pullImages fun _ => ?_
  refine failsAsFetch_bind failsAsFetch_stageLayers fun _ => ?_
  refine failsAsFetch_bind failsAsFetch_lift fun _ => ?_
  refine failsAsFetch_bind (failsAsFetch_ofExcept fun _ h => isOfFetch_readFiles h) fun _ => ?_
  exact failsAsFetch_pure

theorem withinDeadline_fails {context : String} {steps : Step α} (steps' : FailsAsFetch steps)
    (h : ((withinDeadline context steps).run k).Reaches t (.done (.error e, k'))) :
    IsOfFetch e := by
  have ⟨z, reaches, hz⟩ := withinDeadline_reaches h
  cases z with
  | none   =>
    cases hz
    exact ⟨_, _, rfl⟩
  | some _ =>
    cases hz
    exact steps' _ _ _ _ reaches

-- What can come of a fetch: a reference that is none is told as such, and all else is a fetch.
inductive Concludes (s : Source) (artifact : String) : Except Error α → Prop
  | named {r : Reference} {x : Except Error α} :
    (s.client.reference artifact = .ok r) → (∀ e, x = .error e → IsOfFetch e) →
    Concludes s artifact x
  | unnamed {e : Error} :
    (s.client.reference artifact = .error e) → Concludes s artifact (.error e)

theorem fetchDigest_concludes {x : Except Error Digest}
    (h : ((s.fetchDigest artifact).run k).Reaches t (.done (x, k'))) : Concludes s artifact x := by
  unfold fetchDigest at h
  cases hr : s.client.reference artifact with
  | error _ =>
    rw [hr] at h
    have ⟨_, hd⟩ := h.done_elim
    cases hd
    exact .unnamed hr
  | ok _    =>
    rw [hr] at h
    refine .named hr fun e he => ?_
    subst he
    exact withinDeadline_fails failsAsFetch_pullDigest h

theorem fetchContent_concludes {x : Except Error Content}
    (h : ((s.fetchContent artifact).run k).Reaches t (.done (x, k'))) : Concludes s artifact x := by
  unfold fetchContent at h
  cases hr : s.client.reference artifact with
  | error _ =>
    rw [hr] at h
    have ⟨_, hd⟩ := h.done_elim
    cases hd
    exact .unnamed hr
  | ok _    =>
    rw [hr] at h
    refine .named hr fun e he => ?_
    subst he
    exact withinDeadline_fails failsAsFetch_pullContent h

end ArtifactSync.Registry.Source
