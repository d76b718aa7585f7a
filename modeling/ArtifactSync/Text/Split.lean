namespace ArtifactSync.Text

-- The pieces between the separators, one more than there are separators.
def splitOn (sep : Char) : List Char → List (List Char)
  | [] => [[]]
  | c :: rest =>
    if c = sep then [] :: splitOn sep rest
    else
      match splitOn sep rest with
      | [] => [[c]]
      | piece :: pieces => (c :: piece) :: pieces

-- What stands before the first separator, and what behind it.
def cut? (sep : Char) : List Char → Option (List Char × List Char)
  | [] => none
  | c :: rest =>
    if c = sep then some ([], rest) else (cut? sep rest).map fun (front, back) => (c :: front, back)

theorem splitOn_ne_nil (sep : Char) (cs : List Char) : splitOn sep cs ≠ [] := by
  cases cs with
  | nil => simp [splitOn]
  | cons c rest =>
    rw [splitOn]
    split
    · simp
    · split <;> simp

theorem splitOn_append {sep : Char} {front : List Char} (back : List Char) (h : sep ∉ front) :
    splitOn sep (front ++ sep :: back) = front :: splitOn sep back := by
  induction front with
  | nil => simp [splitOn]
  | cons c front ih =>
    simp only [List.mem_cons, not_or] at h
    rw [List.cons_append, splitOn, if_neg (Ne.symm h.1), ih h.2]

theorem not_mem_of_mem_splitOn {sep : Char} {cs piece : List Char} (h : piece ∈ splitOn sep cs) :
    sep ∉ piece := by
  induction cs generalizing piece with
  | nil => simp_all [splitOn]
  | cons c rest ih =>
    rw [splitOn] at h
    split at h
    · rcases List.mem_cons.1 h with rfl | h
      · simp
      · exact ih h
    · next ne =>
      split at h
      · next e => exact absurd e (splitOn_ne_nil sep rest)
      · next front pieces e =>
        rcases List.mem_cons.1 h with rfl | h
        · simp only [List.mem_cons, not_or]
          exact ⟨Ne.symm ne, ih (e ▸ List.mem_cons_self)⟩
        · exact ih (e ▸ List.mem_cons_of_mem _ h)

theorem splitOn_of_not_mem {sep : Char} {cs : List Char} (h : sep ∉ cs) :
    splitOn sep cs = [cs] := by
  induction cs with
  | nil => rfl
  | cons c rest ih =>
    simp only [List.mem_cons, not_or] at h
    rw [splitOn, if_neg (Ne.symm h.1), ih h.2]

theorem exists_mem_splitOn {c : Char} {cs : List Char} (sep : Char) (h : c ∈ cs) (hc : c ≠ sep) :
    ∃ piece ∈ splitOn sep cs, c ∈ piece := by
  induction cs with
  | nil => cases h
  | cons d rest ih =>
    cases e : splitOn sep rest with
    | nil => exact absurd e (splitOn_ne_nil sep rest)
    | cons front pieces =>
      have later := Or.imp_right ih (List.mem_cons.1 h)
      simp only [e, List.mem_cons, exists_eq_or_imp] at later
      rw [splitOn, e]
      split
      · next here =>
        subst here
        simpa [hc] using later
      · simpa [or_assoc] using later

-- Nothing but the separators is lost.
theorem intercalate_splitOn (sep : Char) (cs : List Char) :
    [sep].intercalate (splitOn sep cs) = cs := by
  induction cs with
  | nil => rfl
  | cons c rest ih =>
    rw [splitOn]
    cases e : splitOn sep rest with
    | nil => exact absurd e (splitOn_ne_nil sep rest)
    | cons front pieces =>
      rw [e] at ih
      split
      · next h =>
        subst h
        simpa [List.intercalate] using ih
      · rw [← ih]
        cases pieces <;> simp [List.intercalate]

-- Pieces that have no separator in them are found again in what joins them.
theorem splitOn_intercalate {sep : Char} {pieces : List (List Char)} (some : pieces ≠ [])
    (free : ∀ piece ∈ pieces, sep ∉ piece) : splitOn sep ([sep].intercalate pieces) = pieces := by
  induction pieces with
  | nil => exact absurd rfl some
  | cons piece pieces ih =>
    have ⟨here, others⟩ := List.forall_mem_cons.1 free
    cases pieces with
    | nil => simpa [List.intercalate] using splitOn_of_not_mem here
    | cons next pieces =>
      have joined : [sep].intercalate (piece :: next :: pieces) =
          piece ++ sep :: [sep].intercalate (next :: pieces) := by
        simp [List.intercalate]
      rw [joined, splitOn_append _ here, ih (by simp) others]

theorem cut?_eq_some_iff {sep : Char} {cs front back : List Char} :
    cut? sep cs = some (front, back) ↔ cs = front ++ sep :: back ∧ sep ∉ front := by
  induction cs generalizing front with
  | nil => simp [cut?]
  | cons c rest ih =>
    rw [cut?]
    split
    · next h =>
      subst h
      cases front with
      | nil => simp [eq_comm]
      | cons f front =>
        simp only [Option.some.injEq, Prod.mk.injEq, List.cons_append, List.cons.injEq,
          List.mem_cons, not_or]
        constructor
        · rintro ⟨h, -⟩
          cases h
        · rintro ⟨⟨h, -⟩, ne, -⟩
          exact absurd h ne
    · next h =>
      cases front with
      | nil =>
        simp only [Option.map_eq_some_iff, Prod.mk.injEq, List.nil_append, List.cons.injEq]
        constructor
        · rintro ⟨_, _, h', -⟩
          cases h'
        · rintro ⟨⟨h', -⟩, -⟩
          exact absurd h' h
      | cons f front =>
        simp only [Option.map_eq_some_iff, Prod.mk.injEq, List.cons_append, List.cons.injEq,
          List.mem_cons, not_or]
        constructor
        · rintro ⟨⟨a, b⟩, e, ⟨rfl, rfl⟩, rfl⟩
          exact ⟨⟨rfl, (ih.1 e).1⟩, Ne.symm h, (ih.1 e).2⟩
        · rintro ⟨⟨rfl, e⟩, -, nin⟩
          exact ⟨(front, back), ih.2 ⟨e, nin⟩, ⟨rfl, rfl⟩, rfl⟩

-- What has no such character in it does not end before it.
theorem takeWhile_ne_append {c : Char} {front : List Char} (back : List Char) (h : c ∉ front) :
    (front ++ back).takeWhile (· ≠ c) = front ++ back.takeWhile (· ≠ c) :=
  List.takeWhile_append_of_pos fun _ hd => decide_eq_true fun same => h (same ▸ hd)

theorem dropWhile_ne_append {c : Char} {front : List Char} (back : List Char) (h : c ∉ front) :
    (front ++ back).dropWhile (· ≠ c) = back.dropWhile (· ≠ c) :=
  List.dropWhile_append_of_pos fun _ hd => decide_eq_true fun same => h (same ▸ hd)

theorem takeWhile_ne_self {c : Char} {cs : List Char} (h : c ∉ cs) :
    cs.takeWhile (· ≠ c) = cs := by
  simpa using takeWhile_ne_append [] h

theorem dropWhile_ne_self {c : Char} {cs : List Char} (h : c ∉ cs) :
    cs.dropWhile (· ≠ c) = [] := by
  simpa using dropWhile_ne_append [] h

theorem takeWhile_ne_cons {c : Char} {front : List Char} (back : List Char) (h : c ∉ front) :
    (front ++ c :: back).takeWhile (· ≠ c) = front := by
  rw [takeWhile_ne_append _ h]
  simp

end ArtifactSync.Text
