namespace ArtifactSync.Fallible

variable {ε α β : Type} {x : Except ε α} {g : α → Except ε β} {b : β} {e : ε}

theorem bind_ok (h : x >>= g = .ok b) : ∃ a, x = .ok a ∧ g a = .ok b := by
  cases x with
  | ok a    => exact ⟨a, rfl, h⟩
  | error _ => cases h

theorem bind_error (h : x >>= g = .error e) : x = .error e ∨ ∃ a, x = .ok a ∧ g a = .error e := by
  cases x with
  | ok a    => exact .inr ⟨a, rfl, h⟩
  | error _ =>
    cases h
    exact .inl rfl

end ArtifactSync.Fallible
