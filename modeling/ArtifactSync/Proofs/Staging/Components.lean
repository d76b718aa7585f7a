import ArtifactSync.Staging.Title

namespace ArtifactSync.Staging

variable {text dir rel piece name : String} {pieces more : List String} {here p : Path}

-- The texts between the slashes.
structure IsCut (pieces : List String) (text : String) : Prop where
  nonempty : pieces ≠ []
  free     : ∀ piece ∈ pieces, '/' ∉ piece.toList
  whole    : "/".intercalate pieces = text

def components (text : String) : List String :=
  (Text.splitOn '/' text.toList).map String.ofList

theorem isCut_components (text : String) : IsCut (components text) text where
  nonempty := by simpa [components] using Text.splitOn_ne_nil '/' text.toList
  free     := by
    intro piece hp
    have ⟨cs, hcs, same⟩ := List.mem_map.1 hp
    rw [← same, String.toList_ofList]
    exact Text.not_mem_of_mem_splitOn hcs
  whole    := by
    rw [← String.toList_inj, String.toList_intercalate, components, List.map_map]
    simpa [Function.comp_def] using Text.intercalate_splitOn '/' text.toList

theorem IsCut.eq_components (cut : IsCut pieces text) : pieces = components text := by
  have parts : Text.splitOn '/' text.toList = pieces.map String.toList := by
    rw [← cut.whole, String.toList_intercalate]
    exact Text.splitOn_intercalate (by simpa using cut.nonempty) (by simpa using cut.free)
  simp [components, parts, Function.comp_def]

-- What stands behind the first piece, each of the others with the slash in front of it.
def onward : List String → String
  | []              => ""
  | piece :: pieces => "/" ++ piece ++ onward pieces

theorem onward_append : onward (pieces ++ more) = onward pieces ++ onward more := by
  induction pieces with
  | nil         => simp [onward]
  | cons _ _ hi => simp [onward, hi, String.append_assoc]

theorem intercalate_cons : "/".intercalate (piece :: pieces) = piece ++ onward pieces := by
  induction pieces generalizing piece with
  | nil         => simp [onward]
  | cons _ _ hi => simp only [String.intercalate_cons_cons, hi, onward, String.append_assoc]

theorem exists_components (text : String) :
    ∃ piece pieces, components text = piece :: pieces ∧ piece ++ onward pieces = text := by
  have ⟨nonempty, _, whole⟩ := isCut_components text
  have ⟨piece, pieces, parts⟩ := List.exists_cons_of_ne_nil nonempty
  exact ⟨piece, pieces, parts, by rw [← intercalate_cons, ← parts, whole]⟩

theorem components_slash : components (dir ++ "/" ++ rel) = components dir ++ components rel := by
  have ⟨piece, pieces, front, dirWhole⟩ := exists_components dir
  have ⟨next, more, back, relWhole⟩ := exists_components rel
  refine (IsCut.eq_components ⟨by simp [front], ?_, ?_⟩).symm
  case refine_1 =>
    exact List.forall_mem_append.2 ⟨(isCut_components dir).free, (isCut_components rel).free⟩
  case refine_2 =>
    rw [front, back, List.cons_append, intercalate_cons, onward_append, onward, ← dirWhole,
      ← relWhole]
    simp only [String.append_assoc]

-- A piece that leads nowhere.
def IsIdle (piece : String) : Prop :=
  piece = "" ∨ piece = "."

instance : Decidable (IsIdle piece) :=
  inferInstanceAs (Decidable (_ ∨ _))

-- The pieces that lead somewhere.
def kept (pieces : List String) : Path :=
  pieces.filter fun piece => piece ≠ "" ∧ piece ≠ "."

theorem mem_kept : piece ∈ kept pieces ↔ piece ∈ pieces ∧ piece ≠ "" ∧ piece ≠ "." := by
  simp [kept]

theorem kept_of_isIdle (idle : IsIdle piece) : kept (piece :: pieces) = kept pieces := by
  refine List.filter_cons_of_neg ?_
  cases idle with
  | inl empty => simp [empty]
  | inr dot   => simp [dot]

theorem kept_of_not_isIdle (h : ¬IsIdle piece) : kept (piece :: pieces) = piece :: kept pieces := by
  refine List.filter_cons_of_pos ?_
  simpa [IsIdle] using h

-- What can stand between two slashes of a path.
structure IsName (name : String) : Prop where
  nonempty : name ≠ ""
  no_slash : '/' ∉ name.toList
  no_dot   : name ≠ "."
  no_up    : name ≠ ".."

theorem kept_of_isName (all : ∀ name ∈ p, IsName name) : kept p = p :=
  List.filter_eq_self.2 fun name hn => decide_eq_true ⟨(all name hn).nonempty, (all name hn).no_dot⟩

-- The text that a path is written as.
def written (p : Path) : String :=
  "/".intercalate p

theorem components_written (nonempty : p ≠ []) (all : ∀ name ∈ p, IsName name) :
    components (written p) = p :=
  (IsCut.eq_components ⟨nonempty, fun name hn => (all name hn).no_slash, rfl⟩).symm

theorem head?_append (nonempty : dir ≠ "") : (dir ++ rel).toList.head? = dir.toList.head? := by
  have ⟨c, cs, letters⟩ := List.exists_cons_of_ne_nil (mt String.toList_eq_nil_iff.1 nonempty)
  rw [String.toList_append, letters, List.cons_append, List.head?_cons, List.head?_cons]

theorem relative_append (nonempty : name ≠ "") (no_slash : '/' ∉ name.toList) :
    (name ++ rel).toList.head? ≠ some '/' := by
  rw [head?_append nonempty]
  exact fun first => no_slash (List.mem_of_mem_head? first)

theorem relative_written (nonempty : p ≠ []) (all : ∀ name ∈ p, IsName name) :
    (written p).toList.head? ≠ some '/' := by
  cases p with
  | nil            => exact absurd rfl nonempty
  | cons name rest =>
    have first := all name (.head _)
    rw [written, intercalate_cons]
    exact relative_append first.nonempty first.no_slash

-- Two dots lead to the directory that the present one lies in.
def enter (here : Path) (piece : String) : Path :=
  if IsIdle piece then here
  else if piece = ".." then here.dropLast
  else here ++ [piece]

-- A slash in front leads to the root first.
def follow (here : Path) (text : String) : Path :=
  (components text).foldl enter (if text.toList.head? = some '/' then [] else here)

-- Puts a text behind that of a directory. One that starts at the root stays as it is.
def join (dir rel : String) : String :=
  if rel.toList.head? = some '/' then rel
  else if dir = "" ∨ dir.toList.getLast? = some '/' then dir ++ rel
  else dir ++ "/" ++ rel

theorem foldl_enter (level : ".." ∉ pieces) : pieces.foldl enter here = here ++ kept pieces := by
  induction pieces generalizing here with
  | nil                  => exact (List.append_nil here).symm
  | cons piece pieces hi =>
    have ⟨down, later⟩ := List.ne_and_not_mem_of_not_mem_cons level
    rw [List.foldl_cons, hi later, enter]
    by_cases idle : IsIdle piece
    case pos => rw [if_pos idle, kept_of_isIdle idle]
    case neg =>
      rw [if_neg idle, if_neg down.symm, kept_of_not_isIdle idle, List.append_assoc]
      rfl

theorem eq_append_slash (ends : dir.toList.getLast? = some '/') : ∃ front, dir = front ++ "/" := by
  have ⟨cs, whole⟩ := List.getLast?_eq_some_iff.1 ends
  refine ⟨String.ofList cs, ?_⟩
  rw [← String.toList_inj, whole]
  simp

-- What is put behind a directory is followed from there.
theorem follow_join (relative : rel.toList.head? ≠ some '/') :
    follow here (join dir rel) = (components rel).foldl enter (follow here dir) := by
  unfold join
  rw [if_neg relative]
  by_cases nothing : dir = ""
  case pos =>
    have stays : follow here "" = here := rfl
    rw [if_pos (.inl nothing), nothing, stays, String.empty_append, follow, if_neg relative]
  case neg =>
    split
    case isTrue h  =>
      have ⟨front, whole⟩ := eq_append_slash (h.resolve_left nothing)
      have parts : components (dir ++ rel) = components front ++ components rel := by
        rw [whole, components_slash]
      have last : components dir = components front ++ [""] := by
        rw [whole, ← String.append_empty (s := front ++ "/"), components_slash]
        rfl
      rw [follow, follow, head?_append nothing, parts, last, List.foldl_append, List.foldl_append]
      rfl
    case isFalse h =>
      rw [follow, follow, components_slash, String.append_assoc, head?_append nothing,
        List.foldl_append]

theorem follow_join_written (nonempty : p ≠ []) (all : ∀ name ∈ p, IsName name) :
    follow here (join dir (written p)) = follow here dir ++ p := by
  have level : ".." ∉ p := fun up => (all _ up).no_up rfl
  rw [follow_join (relative_written nonempty all), components_written nonempty all,
    foldl_enter level, kept_of_isName all]

end ArtifactSync.Staging
