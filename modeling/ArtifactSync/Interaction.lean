namespace ArtifactSync

-- A program that asks questions of type `Q`, where `A q` are the answers to `q`.
inductive Interaction {Q : Type} (A : Q → Type) (α : Type) : Type
  | done (a : α)
  | ask (q : Q) (next : A q → Interaction A α)

namespace Interaction

variable {Q : Type} {A : Q → Type} {α β γ : Type} {m : Type → Type}

protected def bind : Interaction A α → (α → Interaction A β) → Interaction A β
  | done a, f => f a
  | ask q next, f => ask q fun x => (next x).bind f

instance : Monad (Interaction A) where
  pure := done
  bind := Interaction.bind

def question (q : Q) : Interaction A (A q) :=
  ask q done

-- Runs a program in a world that answers every question.
def answeredBy [Monad m] (world : (q : Q) → m (A q)) : Interaction A α → m α
  | done a => pure a
  | ask q next => world q >>= fun x => (next x).answeredBy world

@[simp]
theorem pure_eq (a : α) : (pure a : Interaction A α) = done a := rfl

@[simp]
theorem done_bind (a : α) (f : α → Interaction A β) : done a >>= f = f a := rfl

@[simp]
theorem ask_bind (q : Q) (next : A q → Interaction A α) (f : α → Interaction A β) :
    ask q next >>= f = ask q fun x => next x >>= f := rfl

@[simp]
theorem question_bind (q : Q) (f : A q → Interaction A β) : question q >>= f = ask q f := rfl

theorem bind_done (p : Interaction A α) : p >>= done = p := by
  induction p with
  | done a => rfl
  | ask q next ih => simp [ih]

theorem bind_assoc (p : Interaction A α) (f : α → Interaction A β) (g : β → Interaction A γ) :
    p >>= f >>= g = p >>= fun a => f a >>= g := by
  induction p with
  | done a => rfl
  | ask q next ih => simp [ih]

instance : LawfulMonad (Interaction A) :=
  LawfulMonad.mk' _ bind_done (fun _ _ => rfl) bind_assoc

@[simp]
theorem answeredBy_done [Monad m] (world : (q : Q) → m (A q)) (a : α) :
    (done a).answeredBy world = pure a := rfl

@[simp]
theorem answeredBy_ask [Monad m] (world : (q : Q) → m (A q)) (q : Q)
    (next : A q → Interaction A α) :
    (ask q next).answeredBy world = world q >>= fun x => (next x).answeredBy world := rfl

theorem answeredBy_bind [Monad m] [LawfulMonad m] (world : (q : Q) → m (A q))
    (p : Interaction A α) (f : α → Interaction A β) :
    (p >>= f).answeredBy world = p.answeredBy world >>= fun a => (f a).answeredBy world := by
  induction p with
  | done a => simp
  | ask q next ih => simp [ih]

-- Answers that are known beforehand come to the same in all surroundings.
theorem answeredBy_pure [Monad m] [LawfulMonad m] (world : (q : Q) → A q)
    (p : Interaction A α) : p.answeredBy (fun q => (pure (world q) : m (A q))) =
      pure (p.answeredBy (m := Id) world) := by
  induction p with
  | done a => rfl
  | ask q next ih =>
    rw [answeredBy_ask, pure_bind, ih]
    rfl

end Interaction

end ArtifactSync
