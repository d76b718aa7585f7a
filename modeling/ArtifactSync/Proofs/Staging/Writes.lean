import ArtifactSync.Proofs.Staging.Area
import Mathlib.Control.Monad.Basic

namespace ArtifactSync.Staging

-- A write that is to be tried, and the course that the host takes with it.
structure Trial where
  title : String
  content : Bytes
  course : Course := .whole
  deriving DecidableEq

-- A write that was tried, what it left in the file if it came to open one, and what came of it.
structure Attempt where
  trial : Trial
  left? : Option Bytes
  outcome : Except Error Unit
  deriving DecidableEq

-- The write opened this file, and these bytes were in it then.
structure Attempt.Left (w : Attempt) (p : Path) (content : Bytes) : Prop where
  there : Title.path w.trial.title = .ok p
  left  : w.left? = some content

-- It succeeded exactly if it left all of its content, and never left anything else.
structure Attempt.IsFaithful (w : Attempt) : Prop where
  done : w.outcome = .ok () ↔ w.left? = some w.trial.content
  part : ∀ left ∈ w.left?, left <+: w.trial.content

-- Of the writes that opened this file the last one left this content in it.
def LastLeft (ws : List Attempt) (p : Path) (content : Bytes) : Prop :=
  ∃ before w after, ws = before ++ w :: after ∧ w.Left p content ∧
    ∀ w' ∈ after, ∀ later, ¬w'.Left p later

namespace Area

variable {a a' : Area} {course : Course} {p q above : Path} {name title : String}
  {content : Bytes} {trial : Trial} {trials : List Trial}

def left? (a : Area) (trial : Trial) : Option Bytes :=
  match Title.path trial.title with
  | .error _ => none
  | .ok p =>
    if (a.openFile trial.course p).1.isNone then some (trial.course.kept trial.content) else none

def attempt (a : Area) (trial : Trial) : Attempt :=
  ⟨trial, a.left? trial, (a.writeOn trial.course trial.title trial.content).1⟩

def after (a : Area) (trial : Trial) : Area :=
  (a.writeOn trial.course trial.title trial.content).2

-- Tries these writes one after the other, whatever comes of each of them.
def writeAll (a : Area) : List Trial → List Attempt × Area
  | [] => ([], a)
  | trial :: rest =>
    let later := (a.after trial).writeAll rest
    (a.attempt trial :: later.1, later.2)

-- A path is a file or a directory and not both, and lies in the area or in a directory of it.
structure IsTree (a : Area) : Prop where
  apart  : ∀ p ∈ a.directories, ¬a.isFile p
  file   : ∀ p, a.isFile p → p.dropLast = [] ∨ p.dropLast ∈ a.directories
  nested : ∀ p ∈ a.directories, p.dropLast = [] ∨ p.dropLast ∈ a.directories

theorem isTree_create {made : Except Unmade String} (h : create made = .ok a) : a.IsTree := by
  unfold create at h
  split at h
  · cases h
    exact ⟨nofun, nofun, nofun⟩
  · cases h

-- A directory that is made where no file is, in one that is there.
theorem IsTree.made (tree : a.IsTree) (free : ¬a.isFile p)
    (inside : p.dropLast = [] ∨ p.dropLast ∈ a.directories) :
    IsTree { a with directories := p :: a.directories } where
  apart  := List.forall_mem_cons.2 ⟨free, tree.apart⟩
  file q := fun hq => (tree.file q hq).imp_right (.tail _)
  nested := List.forall_mem_cons.2
    ⟨inside.imp_right (.tail _), fun q hq => (tree.nested q hq).imp_right (.tail _)⟩

-- A file that is stored where no directory is, in one that is there.
theorem IsTree.stored (tree : a.IsTree) (free : p ∉ a.directories)
    (inside : p.dropLast = [] ∨ p.dropLast ∈ a.directories) : (a.store p content).IsTree := by
  constructor
  case apart  =>
    intro q hq
    rw [isFile_store, not_or]
    exact ⟨fun same => free (same ▸ hq), tree.apart q hq⟩
  case file   =>
    intro q hq
    cases isFile_store.1 hq with
    | inl same  => exact same ▸ inside
    | inr there => exact tree.file q there
  case nested => exact tree.nested

theorem isTree_descend (tree : a.IsTree) (inside : above = [] ∨ above ∈ a.directories) :
    (a.descend course above p).2.IsTree := by
  induction p generalizing a above with
  | nil            => exact tree
  | cons name _ hi =>
    have here : (above ++ [name]).dropLast = above := List.dropLast_concat
    simp only [descend]
    split
    case h_1 => exact tree
    split
    case isTrue => exact tree
    split
    case isTrue => exact tree
    case isFalse free =>
      split
      case isTrue there => exact hi tree (.inr there)
      case isFalse      => exact hi (tree.made free (here.symm ▸ inside)) (.inr (.head _))

-- The way down ends in a directory that is there.
theorem mem_directories_descend (h : a.descend course above p = (none, a'))
    (inside : above = [] ∨ above ∈ a.directories) :
    above ++ p = [] ∨ above ++ p ∈ a'.directories := by
  induction p generalizing a above with
  | nil               =>
    cases h
    simpa using inside
  | cons name rest hi =>
    rw [List.append_cons]
    simp only [descend] at h
    split at h
    case h_1 => cases h
    split at h
    case isTrue => cases h
    split at h
    case isTrue => cases h
    split at h
    case isTrue there => exact hi h (.inr there)
    case isFalse      => exact hi h (.inr (.head _))

theorem isTree_makeDirectory (tree : a.IsTree) : (a.makeDirectory course p).2.IsTree := by
  unfold makeDirectory
  split
  · exact tree
  · exact isTree_descend tree (.inl rfl)

theorem mem_directories_makeDirectory (h : a.makeDirectory course p = (none, a')) :
    p = [] ∨ p ∈ a'.directories := by
  unfold makeDirectory at h
  split at h
  · cases h
  · simpa using mem_directories_descend h (.inl rfl)

theorem isTree_openFile (tree : a.IsTree) : (a.openFile course p).2.IsTree := by
  have made : (a.makeDirectory course p.dropLast).2.IsTree := isTree_makeDirectory tree
  unfold openFile
  split
  case h_1 hm =>
    rw [hm] at made
    exact made
  case h_2    => exact made

-- A file that is open is no directory, and the one that it lies in is there.
theorem openFile_ok (h : (a.openFile course p).1 = none) :
    p ∉ (a.openFile course p).2.directories ∧
      (p.dropLast = [] ∨ p.dropLast ∈ (a.openFile course p).2.directories) := by
  unfold openFile at h ⊢
  split at h
  case h_1 made hm =>
    dsimp only at h ⊢
    rw [Option.or_eq_none_iff, Option.or_eq_none_iff] at h
    have clear := h.2.2
    unfold obstacle? at clear
    split at clear
    case isTrue  => cases clear
    split at clear
    case isTrue       => cases clear
    case isFalse free => exact ⟨free, mem_directories_makeDirectory hm⟩
  case h_2 refused =>
    generalize a.makeDirectory course p.dropLast = made at h refused
    have ⟨r, made⟩ := made
    cases h
    exact (refused made rfl).elim

theorem isTree_writeAt (tree : a.IsTree) : (a.writeAt course p content).2.IsTree := by
  have opened : (a.openFile course p).2.IsTree := isTree_openFile tree
  cases a.writeAt_cases course p content with
  | inl unopened =>
    have ⟨_, _, refused⟩ := unopened
    rw [refused]
    exact opened
  | inr written  =>
    have ⟨ok, stored⟩ := written
    have ⟨free, inside⟩ := openFile_ok ok
    rw [stored]
    exact opened.stored free inside

theorem isTree_after (tree : a.IsTree) : (a.after trial).IsTree := by
  unfold after
  cases hp : Title.path trial.title with
  | error _ =>
    rw [writeOn_of_error hp]
    exact tree
  | ok _    =>
    rw [writeOn_of_ok hp]
    exact isTree_writeAt tree

theorem isTree_writeAll (tree : a.IsTree) : (a.writeAll trials).2.IsTree := by
  induction trials generalizing a with
  | nil         => exact tree
  | cons _ _ hi => exact hi (isTree_after tree)

-- All of them are tried.
theorem map_writeAll : (a.writeAll trials).1.map (·.trial) = trials := by
  induction trials generalizing a with
  | nil         => rfl
  | cons _ _ hi => exact congrArg _ hi

theorem report_eq_ok_iff {refused? : Option Refusal} :
    report title refused? = .ok () ↔ refused? = none := by
  cases refused? <;> simp [report]

-- What a write does: it opens no file and leaves all of them alone, or it opens the one that its
-- title stands for and leaves what there is room for.
theorem attempt_cases (a : Area) (trial : Trial) :
    (∃ e, a.attempt trial = ⟨trial, none, .error e⟩ ∧ (a.after trial).files = a.files) ∨
    ∃ p, Title.path trial.title = .ok p ∧
      a.attempt trial = ⟨trial, some (trial.course.kept trial.content),
        report trial.title (trial.course.shortage? trial.content)⟩ ∧
      (a.after trial).files = (a.store p (trial.course.kept trial.content)).files := by
  have ⟨title, content, course⟩ := trial
  unfold attempt after left?
  dsimp only
  cases hp : Title.path title with
  | error f =>
    rw [writeOn_of_error hp]
    exact .inl ⟨_, rfl, rfl⟩
  | ok p    =>
    rw [writeOn_of_ok hp]
    dsimp only
    cases a.writeAt_cases course p content with
    | inl unopened =>
      have ⟨r, hr, refused⟩ := unopened
      rw [hr, refused]
      exact .inl ⟨_, rfl, files_openFile⟩
    | inr written  =>
      have ⟨ok, stored⟩ := written
      rw [ok, stored]
      exact .inr ⟨p, rfl, rfl, files_store_openFile⟩

theorem isFaithful_attempt : (a.attempt trial).IsFaithful := by
  cases a.attempt_cases trial with
  | inl unopened =>
    have ⟨_, log, _⟩ := unopened
    rw [log]
    exact ⟨iff_of_false nofun nofun, nofun⟩
  | inr opened   =>
    have ⟨_, _, log, _⟩ := opened
    rw [log]
    constructor
    case done =>
      dsimp only
      rw [report_eq_ok_iff, ← Course.kept_eq_self_iff, Option.some_inj]
    case part =>
      intro left hl
      cases hl
      exact Course.kept_prefix

theorem isFaithful_writeAll : ∀ w ∈ (a.writeAll trials).1, w.IsFaithful := by
  induction trials generalizing a with
  | nil         => exact nofun
  | cons _ _ hi => exact List.forall_mem_cons.2 ⟨isFaithful_attempt, hi⟩

end Area

section

variable {w : Attempt} {ws : List Attempt} {p : Path} {content : Bytes}

theorem not_lastLeft_nil : ¬LastLeft [] p content := by
  intro ⟨_, _, _, split, _⟩
  simp at split

-- It comes among the later ones, or else it is the first and the file was not opened since.
theorem lastLeft_cons_iff : LastLeft (w :: ws) p content ↔
    LastLeft ws p content ∨ (∀ w' ∈ ws, ∀ later, ¬w'.Left p later) ∧ w.Left p content := by
  constructor
  case mp  =>
    intro ⟨before, last, after, split, left, since⟩
    cases before with
    | nil           =>
      cases split
      exact .inr ⟨since, left⟩
    | cons _ before =>
      cases split
      exact .inl ⟨before, last, after, rfl, left, since⟩
  case mpr =>
    intro h
    cases h with
    | inl later =>
      have ⟨before, last, after, split, rest⟩ := later
      exact ⟨w :: before, last, after, congrArg _ split, rest⟩
    | inr here  =>
      have ⟨since, left⟩ := here
      exact ⟨[], w, ws, rfl, left, since⟩

end

namespace Area

variable {a : Area} {p : Path} {name : String} {content : Bytes} {trial : Trial}
  {trials : List Trial}

-- What one write leaves at a place.
theorem lookup_attempt : (a.after trial).files.lookup p = some content ↔
    (a.attempt trial).Left p content ∨
      (∀ left, ¬(a.attempt trial).Left p left) ∧ a.files.lookup p = some content := by
  cases a.attempt_cases trial with
  | inl unopened =>
    have ⟨_, log, files⟩ := unopened
    have none (left : Bytes) : ¬(a.attempt trial).Left p left := fun h => by
      rw [log] at h
      exact nomatch h.left
    simp [files, none]
  | inr opened   =>
    have ⟨q, hq, log, files⟩ := opened
    have left (bytes : Bytes) : (a.attempt trial).Left p bytes ↔
        p = q ∧ trial.course.kept trial.content = bytes := by
      rw [log]
      constructor
      case mp  =>
        exact fun h => ⟨Except.ok.inj (h.there.symm.trans hq), Option.some.inj h.left⟩
      case mpr => exact fun ⟨same, kept⟩ => ⟨same ▸ hq, congrArg some kept⟩
    rw [files, lookup_store]
    simp only [left]
    split <;> simp [*]

-- The last one that opened the file counts, and where there was none all is as before.
theorem lookup_writeAll : (a.writeAll trials).2.files.lookup p = some content ↔
    LastLeft (a.writeAll trials).1 p content ∨
      (∀ w ∈ (a.writeAll trials).1, ∀ left, ¬w.Left p left) ∧
        a.files.lookup p = some content := by
  induction trials generalizing a with
  | nil            => simp [writeAll, not_lastLeft_nil]
  | cons e rest hi =>
    rw [writeAll, hi, lookup_attempt, lastLeft_cons_iff, List.forall_mem_cons]
    grind

-- Every write is tried; directories and files stay apart, and no directory is read back. A write
-- that fails leaves the part of its content that went into the file before, and nothing if it did
-- not open one.
theorem readFiles_writeAll {made : Except Unmade String} (h : create made = .ok a)
    (trials : List Trial) (reading : Reading) :
    (a.writeAll trials).1.map (·.trial) = trials ∧
    (∀ w ∈ (a.writeAll trials).1, w.IsFaithful) ∧
    (a.writeAll trials).2.IsTree ∧
    (reading = .whole → ∃ files, (a.writeAll trials).2.readFiles reading = .ok files) ∧
    ∀ files, (a.writeAll trials).2.readFiles reading = .ok files →
      ∀ name content, files.find? name = some content ↔
        LastLeft (a.writeAll trials).1 [name] content := by
  refine ⟨map_writeAll, isFaithful_writeAll, isTree_writeAll (isTree_create h), ?_, ?_⟩
  · rintro rfl
    exact ⟨_, rfl⟩
  · intro files read name content
    rw [readFiles_ok read, find?_topFiles, lookup_writeAll, files_create h]
    simp

namespace Sample

def area : Area where
  room := 4079

def noSpace : Refusal :=
  .other "No space left on device (os error 28)"

-- A file in the way of a directory, a directory in the way of a file, and two titles of one file.
def tried : List Trial := [
  ⟨"a.txt", [1], .whole⟩, ⟨"conf/b", [2], .whole⟩, ⟨"conf", [3], .whole⟩,
  ⟨"./a.txt", [4], .whole⟩, ⟨"a.txt/c", [5], .whole⟩, ⟨"..", [6], .whole⟩]

def refusedBehind : List Attempt := [
  ⟨⟨"a.txt/c", [5], .whole⟩, none,
    .error (.fetchFailed "staging of a.txt/c" Refusal.alreadyExists.message)⟩,
  ⟨⟨"..", [6], .whole⟩, none,
    .error (.fetchFailed "layer .." "title is not a relative path inside the artifact")⟩]

theorem log_eq : (area.writeAll tried).1 = [
    ⟨⟨"a.txt", [1], .whole⟩, some [1], .ok ()⟩, ⟨⟨"conf/b", [2], .whole⟩, some [2], .ok ()⟩,
    ⟨⟨"conf", [3], .whole⟩, none,
      .error (.fetchFailed "staging of conf" Refusal.isDirectory.message)⟩] ++
      ⟨⟨"./a.txt", [4], .whole⟩, some [4], .ok ()⟩ :: refusedBehind := by
  decide +kernel

end Sample

theorem readFiles_writeAll_sample : create (.ok "/tmp/oci-secret") = .ok Sample.area ∧
    ∃ files, (Sample.area.writeAll Sample.tried).2.readFiles .whole = .ok files ∧
      files.find? "a.txt" = some [4] := by
  have made : create (.ok "/tmp/oci-secret") = .ok Sample.area := by decide +kernel
  have ⟨_, _, _, readable, read⟩ := readFiles_writeAll made Sample.tried .whole
  have ⟨files, hf⟩ := readable rfl
  refine ⟨made, files, hf, (read files hf _ _).2 ⟨_, _, _, Sample.log_eq, ?_, ?_⟩⟩
  · exact ⟨by decide +kernel, rfl⟩
  · have unopened : ∀ w ∈ Sample.refusedBehind, w.left? = none := by decide +kernel
    exact fun w hw _ left => nomatch (unopened w hw).symm.trans left.left

-- A disk that is full by the second write of a file, and by the first one of another: both fail,
-- and yet the one file has lost what it held and the other one is there.
theorem short_writes_stay : create (.ok "/tmp/oci-secret") = .ok Sample.area ∧
    (Sample.area.writeAll [⟨"a.txt", [1], .whole⟩, ⟨"a.txt", [2, 3], .short 1 Sample.noSpace⟩,
        ⟨"b.txt", [4], .short 0 Sample.noSpace⟩]).1.map (·.outcome) = [.ok (),
      .error (.fetchFailed "staging of a.txt" Sample.noSpace.message),
      .error (.fetchFailed "staging of b.txt" Sample.noSpace.message)] ∧
    ∃ files, (Sample.area.writeAll [⟨"a.txt", [1], .whole⟩,
        ⟨"a.txt", [2, 3], .short 1 Sample.noSpace⟩,
        ⟨"b.txt", [4], .short 0 Sample.noSpace⟩]).2.readFiles .whole = .ok files ∧
      files.find? "a.txt" = some [2] ∧ files.find? "b.txt" = some [] :=
  ⟨by decide +kernel, by decide +kernel, _, rfl, by decide +kernel, by decide +kernel⟩

end Area

end ArtifactSync.Staging
