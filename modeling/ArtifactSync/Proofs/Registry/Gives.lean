import ArtifactSync.Proofs.Registry.Attempt
import ArtifactSync.Proofs.Staging.Area

namespace ArtifactSync.Registry.Source.Step

open Interaction (Reaches Turn)

variable {α β : Type} {x : Step α} {f : α → Step β} {a a' : α} {b : β} {k k' : Option KeptToken}
  {t : List (Turn Answer)} {s : Source}

-- With this token to begin with, and with these answers, the steps give this value and leave that
-- token. The deadline has not come, and nothing has failed.
def Gives (x : Step α) (k : Option KeptToken) (t : List (Turn Answer)) (a : α)
    (k' : Option KeptToken) : Prop :=
  (x.run.run.run k).Reaches t (.done (some (.ok a), k'))

theorem gives_pure (h : Gives (pure a) k t a' k') : a' = a ∧ t = [] ∧ k' = k := by
  have ⟨ht, hd⟩ := Reaches.done_elim h
  cases hd
  exact ⟨rfl, ht, rfl⟩

theorem gives_ofExcept {r : Except Error α} (h : Gives (ofExcept r) k t a k') :
    r = .ok a ∧ t = [] ∧ k' = k := by
  cases r with
  | ok _    =>
    have ⟨ha, ht, hk⟩ := gives_pure h
    exact ⟨congrArg _ ha.symm, ht, hk⟩
  | error _ =>
    have ⟨_, hd⟩ := Reaches.done_elim h
    cases hd

theorem gives_makeDirectory {root : Option String} {made : Except Staging.Area.Unmade String}
    (h : Gives (ExceptT.lift (Program.makeDirectory root)) k t made k') :
    t = [⟨.makeDirectory root, made⟩] ∧ k' = k := by
  cases h with
  | step h =>
    have ⟨ht, hd⟩ := Reaches.done_elim h
    cases hd
    exact ⟨congrArg _ ht, rfl⟩

theorem gives_lift {p : Program α} (h : Gives (ExceptT.lift p) k t a k') :
    Program.Gives p k t a k' := by
  have ⟨_, ha, given⟩ := Program.gives_map (g := Except.ok) h
  cases ha
  exact given

theorem gives_readBack {reading : Staging.Reading}
    (h : Gives (ExceptT.lift (Program.readBack s)) k t reading k') :
    t = [⟨.readBack s.deadline, some reading⟩] ∧ k' = k :=
  Program.gives_readBack (gives_lift h)

-- A write is one call if it has a path to write to, and none otherwise.
theorem gives_write {area area' : Staging.Area} {earlier : Nat} {title : String} {content : Bytes}
    {result : Except Error Unit}
    (h : Gives (ExceptT.lift (area.write (Program.storeFile s earlier) title content)) k t
      (result, area') k') :
    ∃ course, area.writeOn course title content = (result, area') ∧
      (t = [] ∨ ∃ p, t = [⟨.storeFile earlier p content s.deadline, some course⟩]) ∧ k' = k := by
  have given := gives_lift h
  unfold Staging.Area.write at given
  split at given
  case h_1 hp   =>
    have ⟨done, ht, hk⟩ := Program.gives_pure given
    exact ⟨.whole, (Staging.Area.writeOn_of_error hp).trans done.symm, .inl ht, hk⟩
  case h_2 p hp =>
    have ⟨t₁, t₂, course, k₁, ht, stored, given⟩ := Program.gives_bind given
    have ⟨ht₁, hk₁⟩ := Program.gives_storeFile stored
    have ⟨done, ht₂, hk⟩ := Program.gives_pure given
    refine ⟨course, (Staging.Area.writeOn_of_ok hp).trans done.symm, .inr ⟨p, ?_⟩, hk.trans hk₁⟩
    rw [ht, ht₁, ht₂, List.append_nil]

-- What two steps give together was given by the first, and then by the second.
theorem gives_bind (h : Gives (x >>= f) k t b k') :
    ∃ t₁ t₂ a k₁, t = t₁ ++ t₂ ∧ Gives x k t₁ a k₁ ∧ Gives (f a) k₁ t₂ b k' := by
  have ⟨t₁, t₂, r, ht, h₁, h₂⟩ := Reaches.bind_elim (p := x.run.run.run k) h
  match r with
  | (some (.ok a), k₁) => exact ⟨t₁, t₂, a, k₁, ht, h₁, h₂⟩
  | (some (.error _), _) =>
    have ⟨_, hd⟩ := Reaches.done_elim h₂
    cases hd
  | (none, _) =>
    have ⟨_, hd⟩ := Reaches.done_elim h₂
    cases hd

-- The steps go on until they end or the deadline comes.
theorem withinDeadline_reaches {context : String} {steps : Step α} {result : Except Error α}
    (h : ((withinDeadline context steps).run k).Reaches t (.done (result, k'))) :
    ∃ z, (steps.run.run.run k).Reaches t (.done (z, k')) ∧
      result = z.getD (.error (.fetchFailed context "deadline has elapsed")) := by
  have ⟨t₁, t₂, y, ht, h₁, h₂⟩ := Reaches.bind_elim (p := steps.run.run.run k) h
  have kept : t₂ = [] ∧ y = (y.1, k') ∧
      result = y.1.getD (.error (.fetchFailed context "deadline has elapsed")) := by
    match y with
    | (some _, _) | (none, _) =>
      have ⟨ht₂, hd⟩ := h₂.done_elim
      cases hd
      exact ⟨ht₂, rfl, rfl⟩
  have ⟨ht₂, hy, hz⟩ := kept
  rw [ht₂, List.append_nil] at ht
  exact ⟨y.1, hy ▸ ht ▸ h₁, hz⟩

theorem withinDeadline_gives {context : String} {steps : Step α}
    (h : ((withinDeadline context steps).run k).Reaches t (.done (.ok a, k'))) :
    steps.Gives k t a k' := by
  have ⟨z, reaches, hz⟩ := withinDeadline_reaches h
  cases z with
  | none   => cases hz
  | some _ =>
    cases hz
    exact reaches

end ArtifactSync.Registry.Source.Step
