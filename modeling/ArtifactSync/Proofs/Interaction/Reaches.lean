import ArtifactSync.Interaction

namespace ArtifactSync.Interaction

variable {Q : Type} {A : Q → Type} {α β : Type}

-- A question and the answer to it.
structure Turn (A : Q → Type) where
  question : Q
  answer : A question

-- After these turns, the first of them at the head, the second program is left of the first.
inductive Reaches : Interaction A α → List (Turn A) → Interaction A α → Prop
  | refl {p} : Reaches p [] p
  | step {q next x t p} : Reaches (next x) t p → Reaches (ask q next) (⟨q, x⟩ :: t) p

namespace Reaches

variable {p p₁ p₂ : Interaction A α} {f : α → Interaction A β} {t t₁ t₂ : List (Turn A)} {a : α}
  {b : β}

theorem trans (r₁ : Reaches p t₁ p₁) (r₂ : Reaches p₁ t₂ p₂) : Reaches p (t₁ ++ t₂) p₂ := by
  induction r₁ with
  | refl      => exact r₂
  | step _ hi => exact step (hi r₂)

theorem snoc {q : Q} {next : A q → Interaction A α} (r : Reaches p t (ask q next)) (x : A q) :
    Reaches p (t ++ [⟨q, x⟩]) (next x) :=
  r.trans (step refl)

-- What comes after a program is still to come while it is underway.
theorem bind (r : Reaches p t p₁) : Reaches (p >>= f) t (p₁ >>= f) := by
  induction r with
  | refl      => exact refl
  | step _ hi => exact step hi

theorem done_elim (r : Reaches (done a) t p) : t = [] ∧ p = done a := by
  cases r
  exact ⟨rfl, rfl⟩

theorem question_elim {q : Q} {x : A q} (r : Reaches (question q) t (done x)) : t = [⟨q, x⟩] := by
  cases r with
  | step r =>
    have ⟨ht, hd⟩ := r.done_elim
    cases hd
    rw [ht]

-- What is done was done one after the other.
theorem bind_elim (r : Reaches (p >>= f) t (done b)) :
    ∃ t₁ t₂ a, t = t₁ ++ t₂ ∧ Reaches p t₁ (done a) ∧ Reaches (f a) t₂ (done b) := by
  induction p generalizing t with
  | done a => exact ⟨[], t, a, rfl, refl, r⟩
  | ask q next hi =>
    cases r with
    | step r =>
      have ⟨t₁, t₂, a, ht, r₁, r₂⟩ := hi _ r
      exact ⟨_ :: t₁, t₂, a, congrArg _ ht, step r₁, r₂⟩

-- The first has come so far, or it is done and the second has.
theorem bind_cases {q : Interaction A β} (r : Reaches (p >>= f) t q) :
    (∃ p₁, Reaches p t p₁) ∨
      ∃ t₁ t₂ a, t = t₁ ++ t₂ ∧ Reaches p t₁ (done a) ∧ Reaches (f a) t₂ q := by
  induction p generalizing t with
  | done a => exact .inr ⟨[], t, a, rfl, refl, r⟩
  | ask c next hi =>
    cases r with
    | refl   => exact .inl ⟨_, refl⟩
    | step r =>
      cases hi _ r with
      | inl first  =>
        have ⟨p₁, r₁⟩ := first
        exact .inl ⟨p₁, step r₁⟩
      | inr second =>
        have ⟨t₁, t₂, a, ht, r₁, r₂⟩ := second
        exact .inr ⟨_ :: t₁, t₂, a, congrArg _ ht, step r₁, r₂⟩

-- A question has not been answered yet, or it has, and that was all.
theorem ask_cases {q : Q} {g : A q → α} (r : Reaches (ask q fun x => done (g x)) t p) :
    t = [] ∨ ∃ x, t = [⟨q, x⟩] := by
  cases r with
  | refl   => exact .inl rfl
  | step r => exact .inr ⟨_, congrArg _ r.done_elim.1⟩

end Reaches

-- The turns of a program in a world that always answers a question in the same way.
def turnsIn (world : (q : Q) → A q) : Interaction A α → List (Turn A)
  | done _ => []
  | ask q next => ⟨q, world q⟩ :: (next (world q)).turnsIn world

theorem reaches_answeredBy (world : (q : Q) → A q) (p : Interaction A α) :
    Reaches p (p.turnsIn world) (done (p.answeredBy (m := Id) world)) := by
  induction p with
  | done a => exact .refl
  | ask q next hi => exact .step (hi _)

theorem answer_of_mem_turnsIn {world : (q : Q) → A q} {p : Interaction A α} {e : Turn A}
    (h : e ∈ p.turnsIn world) : e.answer = world e.question := by
  induction p with
  | done a => simp [turnsIn] at h
  | ask q next hi =>
    cases List.mem_cons.1 h with
    | inl here  => rw [here]
    | inr there => exact hi _ there

-- The world leaves a program no choice.
theorem Reaches.eq_answeredBy {world : (q : Q) → A q} {p : Interaction A α} {t : List (Turn A)}
    {a : α} (r : Reaches p t (done a)) (h : ∀ e ∈ t, e.answer = world e.question) :
    p.answeredBy (m := Id) world = a := by
  induction p generalizing t with
  | done b =>
    have ⟨_, hd⟩ := r.done_elim
    cases hd
    rfl
  | ask q next hi =>
    cases r with
    | step r =>
      have ⟨here, there⟩ := List.forall_mem_cons.1 h
      dsimp only at here
      subst here
      exact hi _ r there

end ArtifactSync.Interaction
