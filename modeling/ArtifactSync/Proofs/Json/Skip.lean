import ArtifactSync.Proofs.Json.Layout
import ArtifactSync.Proofs.Json.Passed

namespace ArtifactSync.Json.Reader

variable {c d : Cursor} {opened inner inner' : List Bracket} {keyed : Bool} {t t' : Token}
  {start stop : Nat} {w w' : Wanted} {p : Scope}

-- What is awaited when a value is passed over, as long as it is not over.
def Awaits : Wanted → List Bracket → Prop
  | .first, [] | .more, [] => False
  | _, _                   => True

-- After a lexeme that is passed over, the value is over or the brackets in it are still open.
def Passes (opened : List Bracket) (p : Scope) (w : Wanted) (inner : List Bracket) : Prop :=
  (w = .more ∧ inner = [] ∧ p = ⟨opened, false⟩) ∨ (Awaits w inner ∧ p.opened = inner ++ opened)

theorem passes_more {inner opened : List Bracket} :
    Passes opened ⟨inner ++ opened, false⟩ .more inner := by
  cases inner with
  | nil      => exact .inl ⟨rfl, rfl, rfl⟩
  | cons _ _ => exact .inr ⟨trivial, rfl⟩

theorem skipInto_passes (start stop : Nat)
    (h : skipInto inner ⟨t, start, stop⟩ = .ok (w, inner')) :
    Passes opened ((⟨inner ++ opened, keyed⟩ : Scope).after t) w inner' := by
  cases t with
  | openBrace   =>
    cases h
    exact .inr ⟨trivial, rfl⟩
  | openBracket =>
    cases h
    exact .inr ⟨trivial, rfl⟩
  | word _ m    =>
    cases m <;> cases h
    exact passes_more
  | number n    =>
    cases n with
    | mk _ skipped =>
      cases skipped <;> cases h
      exact passes_more
  | string s    =>
    cases s with
    | mk _ skipped =>
      cases skipped <;> cases h
      exact passes_more
  | _           => cases h

theorem skipKey_passes (start stop : Nat)
    (h : skipKey inner ⟨t, start, stop⟩ = .ok (w, inner')) :
    Passes opened ((⟨inner ++ opened, keyed⟩ : Scope).after t) w inner' := by
  cases t with
  | string s =>
    cases s with
    | mk _ skipped =>
      cases skipped <;> cases h
      exact .inr ⟨trivial, rfl⟩
  | _        => cases h

theorem skipStep_passes (awaits : Awaits w inner)
    (h : skipStep ⟨t, start, stop⟩ w inner = .ok (w', inner')) :
    Passes opened ((⟨inner ++ opened, keyed⟩ : Scope).after t) w' inner' := by
  cases w with
  | value => exact skipInto_passes start stop h
  | key   => exact skipKey_passes start stop h
  | colon =>
    cases t with
    | colon =>
      cases h
      exact .inr ⟨trivial, rfl⟩
    | _     => cases h
  | first =>
    cases inner with
    | nil          => cases awaits
    | cons b inner =>
      cases b with
      | object =>
        cases t with
        | closeBrace =>
          cases h
          exact passes_more
        | _          => exact skipKey_passes start stop h
      | list   =>
        cases t with
        | closeBracket =>
          cases h
          exact passes_more
        | _            => exact skipInto_passes start stop h
  | more  =>
    cases inner with
    | nil          => cases awaits
    | cons b inner =>
      cases b with
      | object =>
        cases t with
        | closeBrace =>
          cases h
          exact passes_more
        | comma      =>
          cases h
          exact .inr ⟨trivial, rfl⟩
        | _          => cases h
      | list   =>
        cases t with
        | closeBracket =>
          cases h
          exact passes_more
        | comma        =>
          cases h
          exact .inr ⟨trivial, rfl⟩
        | _            => cases h

-- Passing over a string takes no notice of what it says.
theorem skipStep_eq (alike : t.Alike keyed t') :
    skipStep ⟨t, start, stop⟩ w inner = skipStep ⟨t', start, stop⟩ w inner := by
  cases alike with
  | same         => rfl
  | @string s s' _ h =>
    have skipped := h.skipped
    cases s
    cases s'
    cases skipped
    cases w with
    | first | more        =>
      cases inner with
      | nil      => rfl
      | cons b _ => cases b <;> rfl
    | value | key | colon => rfl

theorem skipFrom_cons {size : Nat} {l : Lexeme} {ls : List Lexeme} (awaits : Awaits w' inner')
    (h : skipStep l w inner = .ok (w', inner')) :
    skipFrom size w inner (l :: ls) = skipFrom size w' inner' ls := by
  rw [skipFrom, h]
  match w', inner' with
  | .value, _ | .key, _ | .colon, _ | .first, _ :: _ | .more, _ :: _ => rfl
  | .first, [] | .more, []                                           => cases awaits

theorem skipFrom_alike (size : Nat) {ls ls' : List Lexeme} (awaits : Awaits w inner)
    (layout : Layout ⟨inner ++ opened, keyed⟩ ls ls') :
    (∃ f, skipFrom size w inner ls = .error f ∧ skipFrom size w inner ls' = .error f) ∨
      ∃ rest rest', skipFrom size w inner ls = .ok rest ∧ skipFrom size w inner ls' = .ok rest' ∧
        Layout ⟨opened, false⟩ rest rest' := by
  induction ls generalizing w inner keyed ls' with
  | nil          =>
    cases layout
    exact .inl ⟨_, rfl, rfl⟩
  | cons l ls hi =>
    cases layout with
    | @cons _ t t' start stop _ ls' alike layout =>
      cases hs : skipStep ⟨t, start, stop⟩ w inner with
      | error f  =>
        have hs' := skipStep_eq alike ▸ hs
        exact .inl ⟨f, by rw [skipFrom, hs]; rfl, by rw [skipFrom, hs']; rfl⟩
      | ok state =>
        have ⟨w', inner'⟩ := state
        have hs' := skipStep_eq alike ▸ hs
        have passes : Passes opened ((⟨inner ++ opened, keyed⟩ : Scope).after t) w' inner' :=
          skipStep_passes awaits hs
        cases passes with
        | inl ended  =>
          have ⟨hw, hi, hp⟩ := ended
          subst hw hi
          exact .inr ⟨ls, ls', by rw [skipFrom, hs]; rfl, by rw [skipFrom, hs']; rfl, hp ▸ layout⟩
        | inr inside =>
          have ⟨awaits', ho⟩ := inside
          have layout' : Layout
              ⟨inner' ++ opened, ((⟨inner ++ opened, keyed⟩ : Scope).after t).keyed⟩ ls ls' :=
            ho ▸ layout
          rw [skipFrom_cons awaits' hs, skipFrom_cons awaits' hs']
          exact hi awaits' layout'

theorem readsAlike_skip : ReadsAlike (fun _ _ => True) skip skip := by
  intro opened c d at_
  have here := at_
  cases at_ with
  | @mk ls ls' room size layout =>
    have awaits : Awaits .value [] := trivial
    rw [skip_eq, skip_eq]
    cases skipFrom_alike size awaits layout with
    | inl failed =>
      have ⟨f, hf, hf'⟩ := failed
      rw [hf, hf']
      exact .error .same here
    | inr passed =>
      have ⟨rest, rest', hr, hr', layout⟩ := passed
      rw [hr, hr']
      exact .ok ⟨trivial, rfl⟩ (.mk layout)

end ArtifactSync.Json.Reader
