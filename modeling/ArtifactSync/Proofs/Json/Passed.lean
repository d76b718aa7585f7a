import ArtifactSync.Proofs.Json.Spelt

namespace ArtifactSync.Json.Reader

variable {size : Nat} {opened : List Bracket} {v : Value} {ls rest : List Lexeme}
  {c : Cursor}

-- What is done behind a value: it is over if no bracket is open around it.
def resume (size : Nat) : List Bracket → List Lexeme → Except Fault (List Lexeme)
  | [], rest          => .ok rest
  | b :: opened, rest => skipFrom size .more (b :: opened) rest

-- What is awaited in a list or an object, which can begin with a comma where something stands
-- in front.
def awaited (comma : Bool) : Wanted :=
  if comma then .more else .first

-- A list may begin with every value.
theorem skipFrom_first (spelt : Spelt v ls) :
    skipFrom size .first (.list :: opened) (ls ++ rest) =
      skipFrom size .value (.list :: opened) (ls ++ rest) := by
  cases spelt <;> rfl

mutual

-- The recursion is on how the value is spelt.
theorem skipFrom_spelt (opened : List Bracket) (rest : List Lexeme) :
    {v : Value} → {ls : List Lexeme} → Spelt v ls →
    skipFrom size .value opened (ls ++ rest) = resume size opened rest
  | _, _, .null           => by cases opened <;> rfl
  | _, _, .boolean        => by cases opened <;> rfl
  | _, _, .number         => by cases opened <;> rfl
  | _, _, .string         => by cases opened <;> rfl
  | _, _, .list items     => by
    rw [List.cons_append, List.append_assoc]
    exact skipFrom_items opened rest items
  | _, _, .object members => by
    rw [List.cons_append, List.append_assoc]
    exact skipFrom_members opened rest members

theorem skipFrom_items (opened : List Bracket) (rest : List Lexeme) {c d : Nat} :
    {vs : List Value} → {ls : List Lexeme} → {comma : Bool} → SpeltItems comma vs ls →
    skipFrom size (awaited comma) (.list :: opened) (ls ++ (⟨.closeBracket, c, d⟩ :: rest)) =
      resume size opened rest
  | _, _, comma, .nil             => by cases comma <;> cases opened <;> rfl
  | _, _, _, .first head others => by
    rw [List.append_assoc, awaited, if_neg Bool.false_ne_true, skipFrom_first head,
      skipFrom_spelt (.list :: opened) _ head]
    exact skipFrom_items opened rest others
  | _, _, _, .more head others  => by
    rw [List.cons_append, List.append_assoc]
    exact (skipFrom_spelt (.list :: opened) _ head).trans (skipFrom_items opened rest others)

theorem skipFrom_members (opened : List Bracket) (rest : List Lexeme) {c d : Nat} :
    {ms : List (String × Value)} → {ls : List Lexeme} → {comma : Bool} →
    SpeltMembers comma ms ls →
    skipFrom size (awaited comma) (.object :: opened) (ls ++ (⟨.closeBrace, c, d⟩ :: rest)) =
      resume size opened rest
  | _, _, comma, .nil             => by cases comma <;> cases opened <;> rfl
  | _, _, _, .first head others => by
    rw [List.cons_append, List.cons_append, List.append_assoc]
    exact (skipFrom_spelt (.object :: opened) _ head).trans (skipFrom_members opened rest others)
  | _, _, _, .more head others  => by
    rw [List.cons_append, List.cons_append, List.cons_append, List.append_assoc]
    exact (skipFrom_spelt (.object :: opened) _ head).trans (skipFrom_members opened rest others)

end

theorem skip_eq : skip c =
    (match skipFrom c.size .value [] c.ahead with
      | .ok rest => (set { c with ahead := rest } : Reader Unit)
      | .error f => throw f) c :=
  rfl

theorem skip_spelt (spelt : Spelt v ls) (rest : List Lexeme) (room size : Nat) :
    skip ⟨ls ++ rest, room, size⟩ = .ok () ⟨rest, room, size⟩ := by
  have passed : skipFrom size .value [] (ls ++ rest) = .ok rest := skipFrom_spelt [] rest spelt
  rw [skip_eq]
  dsimp only
  rw [passed]
  rfl

end ArtifactSync.Json.Reader
