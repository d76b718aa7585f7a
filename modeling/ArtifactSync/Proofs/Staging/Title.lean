import ArtifactSync.Proofs.Staging.Components
import Mathlib.Control.Monad.Basic
import Mathlib.Logic.Relation

namespace ArtifactSync.Staging.Title

variable {title title' text text' dir rel piece name : String} {pieces : List String} {p : Path}

theorem names_eq : names text = kept (components text) := rfl

theorem mem_names : name ∈ names text ↔ name ∈ components text ∧ name ≠ "" ∧ name ≠ "." :=
  mem_kept

theorem names_ne_nil_iff :
    names text ≠ [] ↔ ∃ piece ∈ components text, piece ≠ "" ∧ piece ≠ "." := by
  constructor
  case mp  =>
    intro some
    have ⟨name, hn⟩ := List.exists_mem_of_ne_nil _ some
    exact ⟨name, mem_names.1 hn⟩
  case mpr => exact fun ⟨_, hp⟩ => List.ne_nil_of_mem (mem_names.2 hp)

theorem names_slash : names (dir ++ "/" ++ rel) = names dir ++ names rel := by
  rw [names_eq, components_slash]
  exact List.filter_append _ _

theorem names_of_isIdle (idle : IsIdle piece) : names piece = [] := by
  cases idle with
  | inl empty => rw [empty]; rfl
  | inr dot   => rw [dot]; decide +kernel

theorem path_eq_ok_iff : path title = .ok p ↔
    title.toList.head? ≠ some '/' ∧ ".." ∉ names title ∧ names title ≠ [] ∧ p = names title := by
  unfold path
  split
  case isTrue escapes => grind
  case isFalse stays  =>
    split
    case isTrue empty => simp [empty]
    case isFalse some =>
      simp only [Except.ok.injEq, eq_comm (a := p)]
      grind

theorem exists_path_iff : (∃ p, path title = .ok p) ↔
    title.toList.head? ≠ some '/' ∧ ".." ∉ names title ∧ names title ≠ [] := by
  simp only [path_eq_ok_iff, exists_and_left, exists_eq, and_true]

theorem isName_of_path (stands : path title = .ok p) : ∀ name ∈ p, IsName name := by
  have ⟨_, level, _, whole⟩ := path_eq_ok_iff.1 stands
  subst whole
  intro name hn
  have ⟨part, nonempty, no_dot⟩ := mem_names.1 hn
  exact ⟨nonempty, (isCut_components title).free name part, no_dot, fun up => level (up ▸ hn)⟩

theorem path_written (nonempty : p ≠ []) (all : ∀ name ∈ p, IsName name) :
    path (written p) = .ok p := by
  have same : names (written p) = p := by
    rw [names_eq, components_written nonempty all, kept_of_isName all]
  refine path_eq_ok_iff.2 ⟨relative_written nonempty all, ?_⟩
  rw [same]
  exact ⟨fun up => (all _ up).no_up rfl, nonempty, rfl⟩

-- The first text is the second one with a piece put in that leads nowhere: a slash next to another
-- one or at the end, or a dot.
inductive Padded : String → String → Prop
  | inner {front piece rest : String} (idle : IsIdle piece) :
    Padded (front ++ "/" ++ piece ++ "/" ++ rest) (front ++ "/" ++ rest)
  | trailing {front piece : String} (idle : IsIdle piece) (nonempty : front ≠ "") :
    Padded (front ++ "/" ++ piece) front
  | leadingDot {rest : String} (relative : rest.toList.head? ≠ some '/') :
    Padded ("." ++ "/" ++ rest) rest

-- The texts differ in nothing but such pieces.
abbrev Respelt : String → String → Prop :=
  Relation.EqvGen Padded

namespace Padded

theorem names_eq (h : Padded text text') : names text = names text' := by
  cases h with
  | inner idle      => simp only [names_slash, names_of_isIdle idle, List.append_nil]
  | trailing idle _ => simp only [names_slash, names_of_isIdle idle, List.append_nil]
  | leadingDot _    => simp only [names_slash, names_of_isIdle (.inr rfl), List.nil_append]

theorem head?_iff (h : Padded text text') :
    text.toList.head? = some '/' ↔ text'.toList.head? = some '/' := by
  cases h with
  | @inner front _ _ _  =>
    have slash : front ++ "/" ≠ "" := by simp
    rw [String.append_assoc, String.append_assoc, head?_append slash, head?_append slash]
  | trailing _ nonempty => rw [String.append_assoc, head?_append nonempty]
  | leadingDot relative => simp [relative]

theorem path_eq (h : Padded text text') : path text = path text' := by
  simp only [path, h.names_eq, h.head?_iff]

end Padded

theorem path_eq_of_respelt (h : Respelt text text') : path text = path text' := by
  induction h with
  | rel _ _ padded          => exact padded.path_eq
  | refl _                  => rfl
  | symm _ _ _ hi           => exact hi.symm
  | trans _ _ _ _ _ hi₁ hi₂ => exact hi₁.trans hi₂

theorem padded_onward (idle : IsIdle piece) (nonempty : text ≠ "") :
    Padded (text ++ onward (piece :: pieces)) (text ++ onward pieces) := by
  cases pieces with
  | nil            =>
    have last : Padded (text ++ "/" ++ piece) text := .trailing idle nonempty
    simpa [onward, String.append_assoc] using last
  | cons next more =>
    have between : Padded (text ++ "/" ++ piece ++ "/" ++ (next ++ onward more))
      (text ++ "/" ++ (next ++ onward more)) := .inner idle
    simpa only [onward, String.append_assoc] using between

-- Behind a text that is there, pieces that lead nowhere can be left out.
theorem respelt_onward (nonempty : text ≠ "") :
    Respelt (text ++ onward pieces) (text ++ onward (kept pieces)) := by
  induction pieces generalizing text with
  | nil                  => exact .refl _
  | cons piece pieces hi =>
    by_cases idle : IsIdle piece
    case pos =>
      rw [kept_of_isIdle idle]
      exact .trans _ _ _ (.rel _ _ (padded_onward idle nonempty)) (hi nonempty)
    case neg =>
      have longer : text ++ "/" ++ piece ≠ "" := by simp
      rw [kept_of_not_isIdle idle]
      simpa only [onward, String.append_assoc] using hi longer

-- In front, a dot can be left out if a name comes later.
theorem respelt_dot (some : kept pieces ≠ []) (free : ∀ piece ∈ pieces, '/' ∉ piece.toList) :
    Respelt ("." ++ onward pieces) (written (kept pieces)) := by
  have ⟨name, others, parts⟩ := List.exists_cons_of_ne_nil some
  have ⟨part, nonempty, _⟩ := mem_kept.1 (parts ▸ .head _ : name ∈ kept pieces)
  have shorter : Padded ("." ++ "/" ++ (name ++ onward others)) (name ++ onward others) :=
    .leadingDot (relative_append nonempty (free name part))
  have left : Respelt ("." ++ onward pieces) ("." ++ onward (kept pieces)) :=
    respelt_onward (by simp)
  rw [parts] at left
  rw [parts, written, intercalate_cons]
  refine .trans _ _ _ left (.rel _ _ ?_)
  simpa only [onward, String.append_assoc] using shorter

-- The names alone, with a slash between them, are the one spelling that has nothing to leave out.
theorem respelt_written (relative : title.toList.head? ≠ some '/') (some : names title ≠ []) :
    Respelt title (written (names title)) := by
  have ⟨piece, pieces, parts, whole⟩ := exists_components title
  have free := (isCut_components title).free
  rw [parts] at free
  rw [names_eq, parts] at some ⊢
  subst whole
  by_cases idle : IsIdle piece
  case neg =>
    rw [kept_of_not_isIdle idle, written, intercalate_cons]
    exact respelt_onward fun empty => idle (.inl empty)
  case pos =>
    rw [kept_of_isIdle idle] at some ⊢
    cases idle with
    | inl empty =>
      cases pieces with
      | nil      => exact absurd rfl some
      | cons _ _ => simp [empty, onward] at relative
    | inr dot   =>
      rw [dot]
      exact respelt_dot some (List.forall_mem_cons.1 free).2

theorem path_confined (title : String) :
    ∃ pieces, IsCut pieces title ∧ (∀ pieces', IsCut pieces' title → pieces' = pieces) ∧
      ((∃ p, path title = .ok p) ↔ title.toList.head? ≠ some '/' ∧ ".." ∉ pieces ∧
        ∃ piece ∈ pieces, piece ≠ "" ∧ piece ≠ ".") ∧
      ∀ p, path title = .ok p →
        p = pieces.filter (fun piece => piece ≠ "" ∧ piece ≠ ".") ∧
        p ≠ [] ∧ (∀ name ∈ p, IsName name) ∧
        (∀ here dir, follow here (join dir (written p)) = follow here dir ++ p) ∧
        path (written p) = .ok p ∧
        ∀ title', path title' = .ok p ↔ Respelt title title' := by
  refine ⟨components title, isCut_components title, fun _ => IsCut.eq_components, ?_,
    fun p stands => ?_⟩
  case refine_1 =>
    rw [exists_path_iff, names_ne_nil_iff, mem_names]
    simp
  case refine_2 =>
    have all := isName_of_path stands
    have ⟨relative, _, nonempty, whole⟩ := path_eq_ok_iff.1 stands
    have some : p ≠ [] := whole ▸ nonempty
    refine ⟨whole, some, all, fun _ _ => follow_join_written some all, path_written some all,
      fun title' => ⟨fun stands' => ?_, fun same => (path_eq_of_respelt same).symm.trans stands⟩⟩
    have ⟨relative', _, nonempty', whole'⟩ := path_eq_ok_iff.1 stands'
    have there : Respelt title (written p) := whole ▸ respelt_written relative nonempty
    have back : Respelt title' (written p) := whole' ▸ respelt_written relative' nonempty'
    exact .trans _ _ _ there (.symm _ _ back)

theorem path_confined_sample :
    path "./conf//app.toml/" = .ok ["conf", "app.toml"] ∧
    follow [] (join "/tmp/staging" (written ["conf", "app.toml"])) =
      ["tmp", "staging", "conf", "app.toml"] ∧
    Respelt "./conf//app.toml/" "conf/./app.toml" := by
  have stands : path "./conf//app.toml/" = .ok ["conf", "app.toml"] := by decide +kernel
  have ⟨_, _, _, _, laws⟩ := path_confined "./conf//app.toml/"
  have ⟨_, _, _, below, _, same⟩ := laws _ stands
  have there : follow [] "/tmp/staging" = ["tmp", "staging"] := by decide +kernel
  refine ⟨stands, ?_, (same _).1 (by decide +kernel)⟩
  rw [below, there]
  rfl

end ArtifactSync.Staging.Title
