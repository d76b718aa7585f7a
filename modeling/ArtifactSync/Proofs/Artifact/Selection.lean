import Mathlib.Data.List.Perm.Subperm
import ArtifactSync.Artifact.Content

namespace ArtifactSync

namespace Dict

variable {α : Type} {d e : Dict α}

theorem ext_of_find?_eq_some (h : ∀ k v, d.find? k = some v ↔ e.find? k = some v) : d = e :=
  Dict.ext fun k => Option.ext (h k)

theorem nodup_keys : d.keys.Nodup :=
  List.Pairwise.map _ (fun _ _ => String.ne_of_lt) d.sorted

theorem keys_filter {p : String → Bool} : (d.filter p).keys = d.keys.filter p := by
  simp [keys, filter, List.filter_map, Function.comp_def]

theorem size_eq : d.size = d.keys.length := by
  simp [size, keys]

end Dict

namespace FileMap

open Dict

variable {files : FileMap} {allow other : List String} {name : String} {content : Bytes}

-- The list names this file. An empty one names them all.
def Selects (allow : List String) (name : String) : Prop :=
  allow = [] ∨ name ∈ allow

theorem selects_congr (same : ∀ name, name ∈ other ↔ name ∈ allow) :
    Selects other name ↔ Selects allow name := by
  simp only [Selects, List.eq_nil_iff_forall_not_mem, same]

theorem find?_restrictTo_eq_some_iff : (files.restrictTo allow).find? name = some content ↔
    files.find? name = some content ∧ Selects allow name := by
  rw [find?_restrictTo, Selects]
  split <;> simp [*]

theorem mem_restrictTo_iff : name ∈ files.restrictTo allow ↔ name ∈ files ∧ Selects allow name := by
  simp only [mem_iff, Option.isSome_iff_exists, find?_restrictTo_eq_some_iff, exists_and_right]

theorem restrictTo_congr (same : ∀ name, name ∈ other ↔ name ∈ allow) :
    files.restrictTo other = files.restrictTo allow := by
  refine ext_of_find?_eq_some fun name content => ?_
  simp only [find?_restrictTo_eq_some_iff, selects_congr same]

theorem restrictTo_idem : (files.restrictTo allow).restrictTo allow = files.restrictTo allow := by
  refine ext_of_find?_eq_some fun name content => ?_
  simp only [find?_restrictTo_eq_some_iff, and_assoc, and_self]

-- An empty list needs no case of its own, as it selects every name and not none.
theorem restrictTo_comm :
    (files.restrictTo allow).restrictTo other = (files.restrictTo other).restrictTo allow := by
  refine ext_of_find?_eq_some fun name content => ?_
  simp only [find?_restrictTo_eq_some_iff, and_assoc, and_comm (a := Selects allow name)]

theorem keys_restrictTo (named : allow ≠ []) :
    (files.restrictTo allow).keys = files.keys.filter allow.contains := by
  simp [restrictTo, named, keys_filter]

theorem keys_restrictTo_subperm (named : allow ≠ []) :
    (files.restrictTo allow).keys.Subperm allow := by
  refine nodup_keys.subperm fun name h => ?_
  rw [keys_restrictTo named, List.mem_filter] at h
  simpa using h.2

theorem size_restrictTo_le_length (named : allow ≠ []) :
    (files.restrictTo allow).size ≤ allow.length := by
  rw [size_eq]
  exact (keys_restrictTo_subperm named).length_le

theorem size_restrictTo_eq_length_iff (named : allow ≠ []) :
    (files.restrictTo allow).size = allow.length ↔ allow.Nodup ∧ ∀ name ∈ allow, name ∈ files := by
  have sub : (files.restrictTo allow).keys.Subperm allow := keys_restrictTo_subperm named
  rw [size_eq]
  constructor
  case mp =>
    intro same
    have perm := sub.perm_of_length_le (Nat.le_of_eq same.symm)
    refine ⟨perm.nodup_iff.1 nodup_keys, fun name h => ?_⟩
    have kept := perm.mem_iff.2 h
    rw [keys_restrictTo named, List.mem_filter] at kept
    exact kept.1
  case mpr =>
    intro ⟨once, there⟩
    have sup : allow.Subperm (files.restrictTo allow).keys := by
      refine once.subperm fun name h => ?_
      rw [keys_restrictTo named, List.mem_filter]
      exact ⟨there name h, by simpa using h⟩
    exact Nat.le_antisymm sub.length_le sup.length_le

-- The list asks for everything, or for files that are there, and for each of them once.
def Offers (files : FileMap) (allow : List String) : Prop :=
  allow = [] ∨ allow.Nodup ∧ ∀ name ∈ allow, name ∈ files

theorem offers_iff_size_restrictTo :
    files.Offers allow ↔ allow = [] ∨ (files.restrictTo allow).size = allow.length := by
  by_cases named : allow = []
  case pos => simp [Offers, named]
  case neg => simp only [Offers, named, false_or, size_restrictTo_eq_length_iff named]

theorem restrictTo_lawful (files : FileMap) (allow : List String) :
    (∀ name, name ∈ files.restrictTo allow ↔ name ∈ files ∧ (allow = [] ∨ name ∈ allow)) ∧
    (∀ name ∈ files.restrictTo allow, (files.restrictTo allow).find? name = files.find? name) ∧
    (∀ other, (∀ name, name ∈ other ↔ name ∈ allow) →
      files.restrictTo other = files.restrictTo allow) ∧
    (files.restrictTo allow).restrictTo allow = files.restrictTo allow ∧
    (∀ other, (files.restrictTo allow).restrictTo other =
      (files.restrictTo other).restrictTo allow) ∧
    (allow ≠ [] → (files.restrictTo allow).size ≤ allow.length ∧
      ((files.restrictTo allow).size = allow.length ↔
        allow.Nodup ∧ ∀ name ∈ allow, name ∈ files)) := by
  refine ⟨fun name => mem_restrictTo_iff, fun name kept => ?_, fun other => restrictTo_congr,
    restrictTo_idem, fun other => restrictTo_comm, fun named => ?_⟩
  case refine_1 =>
    have ⟨_, selected⟩ := mem_restrictTo_iff.1 kept
    exact (find?_restrictTo files allow name).trans (if_pos selected)
  case refine_2 => exact ⟨size_restrictTo_le_length named, size_restrictTo_eq_length_iff named⟩

namespace Sample

def letters : FileMap :=
  (Dict.singleton "a.txt" [65]).insert "b.txt" [66]

end Sample

-- Both files are asked for, one of them twice.
open Sample in
theorem restrictTo_lawful_sample :
    letters.restrictTo ["b.txt", "a.txt", "b.txt"] = letters.restrictTo ["a.txt", "b.txt"] ∧
    (letters.restrictTo ["a.txt", "b.txt"]).size = 2 ∧
    (letters.restrictTo ["a.txt", "b.txt"]).find? "b.txt" = some [66] := by
  have ⟨mem, kept, congr, _, _, count⟩ := restrictTo_lawful letters ["a.txt", "b.txt"]
  have there : ∀ name ∈ ["a.txt", "b.txt"], name ∈ letters :=
    List.forall_mem_cons.2 ⟨.head _, List.forall_mem_singleton.2 (.tail _ (.head _))⟩
  refine ⟨congr _ fun name => ?_, (count nofun).2.2 ⟨by decide, there⟩, ?_⟩
  case refine_1 => simp [or_comm, or_left_comm]
  case refine_2 => exact kept _ ((mem _).2 ⟨there _ (.tail _ (.head _)), .inr (.tail _ (.head _))⟩)

end FileMap

end ArtifactSync
