import ArtifactSync.Staging.Area
import Mathlib.Data.List.TakeDrop

namespace ArtifactSync.Staging

namespace Course

variable {course : Course} {content : Bytes}

-- Where there is no shortage, nothing is missing.
theorem kept_eq_self_iff : course.kept content = content ↔ course.shortage? content = none := by
  cases course with
  | short room _ =>
    simp only [kept, shortage?, List.take_eq_self_iff]
    split
    case isTrue enough   => exact iff_of_true enough rfl
    case isFalse lacking => exact iff_of_false lacking nofun
  | whole | stuck | unopened => simp [kept, shortage?]

theorem kept_prefix : course.kept content <+: content := by
  cases course with
  | short room _             => exact List.take_prefix room content
  | whole | stuck | unopened => exact List.prefix_refl content

end Course

namespace Area

variable {a a' : Area} {course : Course} {p q : Path} {name title : String} {content : Bytes}

-- Making directories leaves the files alone.

theorem files_descend (above : Path) : (a.descend course above p).2.files = a.files := by
  induction p generalizing a above with
  | nil => rfl
  | cons name rest hi =>
    simp only [descend]
    split
    · rfl
    · split
      · rfl
      · split
        · rfl
        · split
          · exact hi _
          · exact hi _

theorem files_makeDirectory : (a.makeDirectory course p).2.files = a.files := by
  unfold makeDirectory
  split
  · rfl
  · exact files_descend []

-- So does opening a file, if only because nothing is in it then that is to be read back.
theorem files_openFile : (a.openFile course p).2.files = a.files := by
  have files : (a.makeDirectory course p.dropLast).2.files = a.files := files_makeDirectory
  unfold openFile
  split
  case h_1 hm =>
    rw [hm] at files
    exact files
  case h_2    => exact files

theorem isFile_iff : a.isFile p ↔ ∃ e ∈ a.files, e.1 = p := by
  simp [isFile]

theorem files_create {made : Except Unmade String} (h : create made = .ok a) : a.files = [] := by
  unfold create at h
  split at h
  · cases h
    rfl
  · cases h

theorem not_isFile_create {made : Except Unmade String} (h : create made = .ok a) :
    ¬a.isFile p := by
  simp [isFile, files_create h]

theorem isFile_store : (a.store p content).isFile q ↔ q = p ∨ a.isFile q := by
  simp only [isFile_iff, store, List.mem_cons, List.mem_filter, decide_eq_true_eq]
  constructor
  case mp =>
    intro ⟨e, he, hq⟩
    cases he with
    | inl he => exact .inl (by rw [← hq, he])
    | inr he => exact .inr ⟨e, he.1, hq⟩
  case mpr =>
    intro h
    by_cases hq : q = p
    case pos => exact ⟨(p, content), .inl rfl, hq.symm⟩
    case neg =>
      have ⟨e, he, heq⟩ := h.resolve_left hq
      exact ⟨e, .inr ⟨he, heq ▸ hq⟩, heq⟩

-- Either the file is not opened and all files are as before, or it has what there was room for.
theorem writeAt_cases (a : Area) (course : Course) (p : Path) (content : Bytes) :
    (∃ r, (a.openFile course p).1 = some r ∧
      a.writeAt course p content = (some r, (a.openFile course p).2)) ∨
    (a.openFile course p).1 = none ∧ a.writeAt course p content =
      (course.shortage? content, (a.openFile course p).2.store p (course.kept content)) := by
  unfold writeAt
  match a.openFile course p with
  | (none, opened)   => exact .inr ⟨rfl, rfl⟩
  | (some r, opened) => exact .inl ⟨r, rfl, rfl⟩

theorem files_store_openFile :
    ((a.openFile course p).2.store p content).files = (a.store p content).files := by
  rw [store, store, files_openFile]

theorem files_writeAt (h : a.writeAt course p content = (none, a')) :
    a'.files = (a.store p content).files := by
  cases a.writeAt_cases course p content with
  | inl unopened =>
    have ⟨_, _, refused⟩ := unopened
    cases h.symm.trans refused
  | inr opened   =>
    have ⟨enough, same⟩ := Prod.mk.inj (h.symm.trans opened.2)
    rw [same, Course.kept_eq_self_iff.2 enough.symm, files_store_openFile]

-- A write on a course that is known.
def writeOn (a : Area) (course : Course) (title : String) (content : Bytes) :
    Except Error Unit × Area :=
  a.write (m := Id) (fun _ _ => course) title content

theorem writeOn_of_error {f : Title.Fault} (h : Title.path title = .error f) :
    a.writeOn course title content = (.error (f.report title), a) := by
  unfold writeOn write
  rw [h]
  rfl

theorem writeOn_of_ok (h : Title.path title = .ok p) : a.writeOn course title content =
    (report title (a.writeAt course p content).1, (a.writeAt course p content).2) := by
  unfold writeOn write
  rw [h]
  rfl

-- A write that succeeds stores the one file that the title stands for.
theorem files_writeOn (h : a.writeOn course title content = (.ok (), a')) :
    ∃ p, Title.path title = .ok p ∧ a'.files = (a.store p content).files := by
  cases hp : Title.path title with
  | error _ =>
    rw [writeOn_of_error hp] at h
    cases h
  | ok p    =>
    rw [writeOn_of_ok hp] at h
    match hw : a.writeAt course p content with
    | (none, written) =>
      rw [hw] at h
      cases h
      exact ⟨p, rfl, files_writeAt hw⟩
    | (some _, _)     =>
      rw [hw] at h
      cases h

theorem writeOn_ok (h : a.writeOn course title content = (.ok (), a')) :
    ∃ p, Title.path title = .ok p ∧ ∀ q, a'.isFile q ↔ q = p ∨ a.isFile q := by
  have ⟨p, hp, files⟩ := files_writeOn h
  refine ⟨p, hp, fun q => ?_⟩
  rw [isFile_iff, files, ← isFile_iff, isFile_store]

-- What is in the area after a file was stored is that file, or was there before.
theorem mem_files_store {e : Path × Bytes} (h : e ∈ (a.store p content).files) :
    e = (p, content) ∨ e ∈ a.files := by
  cases List.mem_cons.1 h with
  | inl new => exact .inl new
  | inr old => exact .inr (List.mem_filter.1 old).1

theorem lookup_store :
    (a.store p content).files.lookup q = if q = p then some content else a.files.lookup q := by
  have others := Dict.lookup_filter (· ≠ p) q a.files
  rw [store, Dict.lookup_cons, others]
  by_cases here : q = p
  case pos => rw [if_pos here, if_pos here]
  case neg => simp [here]

theorem lookup_writeOn (h : a.writeOn course title content = (.ok (), a')) :
    ∃ p, Title.path title = .ok p ∧
      ∀ q, a'.files.lookup q = if q = p then some content else a.files.lookup q := by
  have ⟨p, hp, files⟩ := files_writeOn h
  exact ⟨p, hp, fun q => files ▸ lookup_store⟩

theorem find?_topFiles : a.topFiles.find? name = a.files.lookup [name] := by
  rw [topFiles]
  induction a.files with
  | nil => rfl
  | cons e rest hi =>
    rw [List.foldr_cons, Dict.lookup_cons]
    split
    case h_1 there hp => simp only [Dict.find?_insert, hi, hp, List.singleton_inj]
    case h_2 deep     => rw [hi, if_neg fun here => deep name here.symm]

theorem mem_files_of_topFiles (h : a.topFiles.find? name = some content) :
    ([name], content) ∈ a.files := by
  rw [find?_topFiles, List.lookup_eq_some_iff] at h
  have ⟨_, _, files, _⟩ := h
  simp [files]

theorem mem_topFiles : name ∈ a.topFiles ↔ a.isFile [name] := by
  rw [Dict.mem_iff, find?_topFiles, List.lookup_isSome_iff, isFile_iff]
  simp only [beq_iff_eq, eq_comm (a := [name])]

-- What is read back is all there is to read.
theorem readFiles_ok {reading : Reading} {files : FileMap} (h : a.readFiles reading = .ok files) :
    files = a.topFiles := by
  unfold readFiles at h
  split at h
  case h_1 =>
    cases h
    rfl
  case h_2 => cases h
  case h_3 =>
    split at h
    · cases h
    · cases h
      rfl

end Area

end ArtifactSync.Staging
