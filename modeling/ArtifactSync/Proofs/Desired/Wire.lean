import ArtifactSync.Desired.Resource
import ArtifactSync.Proofs.Json.Unordered
import Mathlib.Control.Monad.Basic

namespace ArtifactSync

open Json (isExact_ofFields lexemes member?_eq_none_iff met_of_member? once_present present
  read_of_takes spelt_lexemes takes_bind_pure understands_list understands_string)
open Json (IsText Perhaps Reader Spelt Takes Value)
open Json.Value (Distinct)

variable {depth : Nat} {v : Value} {ms : List (String × Value)}

namespace SecretRef

variable {r : SecretRef}

-- Either part may be missing or null.
structure SpelledBy (ms : List (String × Value)) (r : SecretRef) : Prop where
  once        : Distinct (ms.filter (·.1 ∈ ["name", "namespace"]))
  name        : Perhaps IsText ((Value.object ms).member? "name") r.givenName
  «namespace» : Perhaps IsText ((Value.object ms).member? "namespace") r.givenNamespace

def Spells (v : Value) (r : SecretRef) : Prop :=
  ∃ ms, v = .object ms ∧ SpelledBy ms r

-- What is known of a reference when members of these names have been met.
def upTo (r : SecretRef) (met : List String) : Draft where
  name        := if "name" ∈ met then some r.givenName else none
  «namespace» := if "namespace" ∈ met then some r.givenNamespace else none

theorem SpelledBy.fits (spelled : SpelledBy ms r) : record.Fits depth ms r.upTo where
  blank   := rfl
  known   := by
    intro field listed v meant met fresh
    simp only [record, List.mem_cons, List.not_mem_nil, or_false] at listed
    rcases listed with rfl | rfl
    case inl =>
      have taken : Takes depth (Reader.optional Reader.string) v r.givenName :=
        Perhaps.takes (meant ▸ spelled.name) fun _ => IsText.takes
      exact ⟨by simp [upTo, fresh], takes_bind_pure taken (by simp [upTo])⟩
    case inr =>
      have taken : Takes depth (Reader.optional Reader.string) v r.givenNamespace :=
        Perhaps.takes (meant ▸ spelled.namespace) fun _ => IsText.takes
      exact ⟨by simp [upTo, fresh], takes_bind_pure taken (by simp [upTo])⟩
  unknown := by
    intro k met other
    simp only [Json.Record.names, record, List.map_cons, List.map_nil,
      List.forall_mem_cons] at other
    simp [upTo, other]

theorem SpelledBy.built (spelled : SpelledBy ms r) :
    record.build (r.upTo (ms.map (·.1)).reverse) = .ok r := by
  simp only [record, upTo, spelled.name.join, spelled.namespace.join]

theorem Spells.takes (spells : Spells v r) : v ≠ .null ∧ Takes (depth + 1) reader v r := by
  have ⟨ms, same, spelled⟩ := spells
  subst same
  exact ⟨nofun, spelled.fits.takes spelled.once spelled.built⟩

theorem isExact_toJson : r.toJson.IsExact (depth + 1) := by
  refine isExact_ofFields ?_
  simp [Value.IsExact.string]

-- The members of a reference as they are sent.
def sent (r : SecretRef) : List (String × Option Value) :=
  [("name", r.givenName.map .string), ("namespace", r.givenNamespace.map .string)]

theorem distinct_sent : Distinct r.sent := by
  simp [Distinct, sent]

theorem spelledBy_sent : SpelledBy (present r.sent) r where
  once        := once_present distinct_sent
  name        := .present distinct_sent (by simp [sent]) fun _ _ => .text
  «namespace» := .present distinct_sent (by simp [sent]) fun _ _ => .text

theorem spells_toJson : Spells r.toJson r :=
  ⟨_, rfl, spelledBy_sent⟩

end SecretRef

namespace Selection

variable {s : Selection}

-- The files may be missing, but not null.
structure SpelledBy (ms : List (String × Value)) (s : Selection) : Prop where
  once  : Distinct (ms.filter (·.1 ∈ ["Files"]))
  files : (Value.object ms).member? "Files" = none ∧ s.files = [] ∨
    (Value.object ms).member? "Files" = some (.list (s.files.map .string))

def Spells (v : Value) (s : Selection) : Prop :=
  ∃ ms, v = .object ms ∧ SpelledBy ms s

def upTo (s : Selection) (met : List String) : Draft where
  files := if "Files" ∈ met then some s.files else none

theorem SpelledBy.fits (spelled : SpelledBy ms s) : record.Fits (depth + 1) ms s.upTo where
  blank   := rfl
  known   := by
    intro field listed v meant met fresh
    cases List.mem_singleton.1 listed
    have listed : v = .list (s.files.map .string) := by
      cases spelled.files with
      | inl absent => cases meant.symm.trans absent.1
      | inr given  => exact Option.some.inj (meant.symm.trans given)
    have taken : Takes (depth + 1) (Reader.list Reader.string) v s.files :=
      listed ▸ (understands_list fun _ _ => understands_string).reads
    exact ⟨by simp [upTo, fresh], takes_bind_pure taken (by simp [upTo])⟩
  unknown := by
    intro k met other
    simp only [Json.Record.names, record, List.map_cons, List.map_nil,
      List.forall_mem_cons] at other
    simp [upTo, other]

theorem SpelledBy.built (spelled : SpelledBy ms s) :
    record.build (s.upTo (ms.map (·.1)).reverse) = .ok s := by
  cases spelled.files with
  | inl absent =>
    have unmet : "Files" ∉ (ms.map (·.1)).reverse := by
      rw [List.mem_reverse]
      exact member?_eq_none_iff.1 absent.1
    simp [record, upTo, unmet, ← absent.2]
  | inr given  => simp [record, upTo, met_of_member? given]

theorem Spells.takes (spells : Spells v s) : v ≠ .null ∧ Takes (depth + 2) reader v s := by
  have ⟨ms, same, spelled⟩ := spells
  subst same
  exact ⟨nofun, spelled.fits.takes spelled.once spelled.built⟩

theorem isExact_toJson : s.toJson.IsExact (depth + 2) := by
  have files : (Value.list (s.files.map .string)).IsExact (depth + 1) := by
    refine .list fun v hv => ?_
    have ⟨_, _, same⟩ := List.mem_map.1 hv
    exact same ▸ .string
  refine isExact_ofFields ?_
  by_cases h : s.files = [] <;> simp [h, files]

def sent (s : Selection) : List (String × Option Value) :=
  [("Files", if s.files.isEmpty then none else some (.list (s.files.map .string)))]

theorem distinct_sent : Distinct s.sent := by
  simp [Distinct, sent]

theorem spelledBy_sent : SpelledBy (present s.sent) s where
  once  := once_present distinct_sent
  files := by
    rw [← Json.ofFields_eq, Value.member?_ofFields distinct_sent (.head _)]
    by_cases h : s.files = [] <;> simp [h]

theorem spells_toJson : Spells s.toJson s :=
  ⟨_, rfl, spelledBy_sent⟩

end Selection

namespace Spec

variable {s : Spec}

structure SpelledBy (ms : List (String × Value)) (s : Spec) : Prop where
  once       : Distinct (ms.filter (·.1 ∈
    ["orasArtefact", "ArtefactRegistry", "Sync", "ArtefactPullSecret", "targetSecret"]))
  artifact   : (Value.object ms).member? "orasArtefact" = some (.string s.artifact)
  registry   : (Value.object ms).member? "ArtefactRegistry" = some (.string s.registry)
  selection  : Perhaps Selection.Spells ((Value.object ms).member? "Sync") s.selection
  pullSecret : Perhaps SecretRef.Spells ((Value.object ms).member? "ArtefactPullSecret")
    s.pullSecret
  target     : ∃ v, (Value.object ms).member? "targetSecret" = some v ∧ SecretRef.Spells v s.target

def upTo (s : Spec) (met : List String) : Draft where
  artifact   := if "orasArtefact" ∈ met then some s.artifact else none
  registry   := if "ArtefactRegistry" ∈ met then some s.registry else none
  selection  := if "Sync" ∈ met then some s.selection else none
  pullSecret := if "ArtefactPullSecret" ∈ met then some s.pullSecret else none
  target     := if "targetSecret" ∈ met then some s.target else none

theorem SpelledBy.fits (spelled : SpelledBy ms s) : record.Fits (depth + 2) ms s.upTo where
  blank   := rfl
  known   := by
    intro field listed v meant met fresh
    simp only [record, List.mem_cons, List.not_mem_nil, or_false] at listed
    rcases listed with rfl | rfl | rfl | rfl | rfl
    case inl =>
      cases meant.symm.trans spelled.artifact
      have taken : Takes (depth + 2) Reader.string (.string s.artifact) s.artifact :=
        understands_string.reads
      exact ⟨by simp [upTo, fresh], takes_bind_pure taken (by simp [upTo])⟩
    case inr.inl =>
      cases meant.symm.trans spelled.registry
      have taken : Takes (depth + 2) Reader.string (.string s.registry) s.registry :=
        understands_string.reads
      exact ⟨by simp [upTo, fresh], takes_bind_pure taken (by simp [upTo])⟩
    case inr.inr.inl =>
      have taken : Takes (depth + 2) (Reader.optional Selection.reader) v s.selection :=
        Perhaps.takes (meant ▸ spelled.selection) fun _ => Selection.Spells.takes
      exact ⟨by simp [upTo, fresh], takes_bind_pure taken (by simp [upTo])⟩
    case inr.inr.inr.inl =>
      have taken : Takes (depth + 2) (Reader.optional SecretRef.reader) v s.pullSecret :=
        Perhaps.takes (meant ▸ spelled.pullSecret) fun _ => SecretRef.Spells.takes
      exact ⟨by simp [upTo, fresh], takes_bind_pure taken (by simp [upTo])⟩
    case inr.inr.inr.inr =>
      have ⟨_, meant', spells⟩ := spelled.target
      cases meant.symm.trans meant'
      exact ⟨by simp [upTo, fresh], takes_bind_pure spells.takes.2 (by simp [upTo])⟩
  unknown := by
    intro k met other
    simp only [Json.Record.names, record, List.map_cons, List.map_nil,
      List.forall_mem_cons] at other
    simp [upTo, other]

theorem SpelledBy.built (spelled : SpelledBy ms s) :
    record.build (s.upTo (ms.map (·.1)).reverse) = .ok s := by
  have ⟨_, target, _⟩ := spelled.target
  simp only [record, upTo, spelled.selection.join, spelled.pullSecret.join,
    if_pos (met_of_member? spelled.artifact), if_pos (met_of_member? spelled.registry),
    if_pos (met_of_member? target)]
  rfl

theorem takes_of_spelledBy (spelled : SpelledBy ms s) : Takes (depth + 3) reader (.object ms) s :=
  spelled.fits.takes spelled.once spelled.built

-- The members of a desired state as they are sent.
def sent (s : Spec) : List (String × Option Value) := [
  ("orasArtefact", some (.string s.artifact)),
  ("ArtefactRegistry", some (.string s.registry)),
  ("Sync", s.selection.map Selection.toJson),
  ("ArtefactPullSecret", s.pullSecret.map SecretRef.toJson),
  ("targetSecret", some s.target.toJson)]

theorem distinct_sent : Distinct s.sent := by
  simp [Distinct, sent]

theorem isExact_toJson : s.toJson.IsExact (depth + 3) := by
  refine isExact_ofFields ?_
  simp [Value.IsExact.string, Selection.isExact_toJson, SecretRef.isExact_toJson]

theorem spelledBy_sent : SpelledBy (present s.sent) s where
  once       := once_present distinct_sent
  artifact   := Value.member?_ofFields distinct_sent (by simp [sent])
  registry   := Value.member?_ofFields distinct_sent (by simp [sent])
  selection  := .present distinct_sent (by simp [sent]) fun _ _ => Selection.spells_toJson
  pullSecret := .present distinct_sent (by simp [sent]) fun _ _ => SecretRef.spells_toJson
  target     := ⟨_, Value.member?_ofFields distinct_sent (by simp [sent]),
    SecretRef.spells_toJson⟩

-- Every text of such an object is read, whatever blanks are in it.
theorem read_spelledBy {text : Bytes} (spelt : Spelt (.object ms) (lexemes text))
    (spelled : SpelledBy ms s) : Json.read reader text = .ok s := by
  have taken : Takes 3 reader (.object ms) s := takes_of_spelledBy spelled
  exact read_of_takes taken spelt (by decide)

theorem read_toJson : Json.read reader (bytesOf s.toJson.write) = .ok s := by
  have exact : s.toJson.IsExact 3 := isExact_toJson
  exact read_spelledBy (spelt_lexemes exact) spelledBy_sent

-- What was read, and what is read again once it has been written, are used alike.
theorem wire_roundtrip :
    (∀ s : Spec, Json.read reader (bytesOf s.toJson.write) = .ok s) ∧
    (∀ (text : Bytes) (s : Spec), Json.read reader text = .ok s →
      ∃ s', Json.read reader (bytesOf s.toJson.write) = .ok s' ∧ s' = s ∧
        s'.allowList = s.allowList ∧ s'.pullSecretRef = s.pullSecretRef ∧ s'.target = s.target ∧
        ∀ metadata, OciSecret.validate ⟨metadata, s'⟩ = OciSecret.validate ⟨metadata, s⟩) ∧
    ∀ (text : Bytes) (ms : List (String × Value)) (s : Spec),
      Spelt (.object ms) (lexemes text) → SpelledBy ms s → Json.read reader text = .ok s :=
  ⟨fun _ => read_toJson, fun _ s _ => ⟨s, read_toJson, rfl, rfl, rfl, rfl, fun _ => rfl⟩,
    fun _ _ _ => read_spelledBy⟩

-- An object with more in it than is asked for, and less.
namespace Loose

def members : List (String × Value) := [
  ("targetSecret", .object [("uid", .number (.natural 7)), ("namespace", .string "apps")]),
  ("Sync", .object []),
  ("paused", .list [.boolean true, .null]),
  ("ArtefactPullSecret", .null),
  ("orasArtefact", .string "v1"),
  ("paused", .null),
  ("ArtefactRegistry", .string "ghcr.io/org/configs")]

def state : Spec where
  artifact  := "v1"
  registry  := "ghcr.io/org/configs"
  selection := some {}
  target    := ⟨none, some "apps"⟩

theorem spelled : SpelledBy members state where
  once       := by simp [members, Distinct]
  artifact   := rfl
  registry   := rfl
  selection  := .given ⟨[], rfl, .nil, .inl ⟨rfl, rfl⟩⟩
  pullSecret := .null
  target     := ⟨_, rfl, _, rfl, by simp [Distinct], .absent, .given .text⟩

theorem isExact : (Value.object members).IsExact 3 := by
  have target : (Value.object [("uid", .number (.natural 7)),
      ("namespace", .string "apps")]).IsExact 2 :=
    .object (by simp [Value.IsExact.string, Value.IsExact.number, Json.Number.isExact_natural])
  have paused : (Value.list [.boolean true, .null]).IsExact 2 :=
    .list (by simp [Value.IsExact.boolean, Value.IsExact.null])
  have selection : (Value.object []).IsExact 2 := .object nofun
  exact .object (by simp [members, target, paused, selection, Value.IsExact.string,
    Value.IsExact.null])

-- The same state in another text.
def text : Bytes :=
  bytesOf "\x7b \"Sync\": \x7b\"Files\": []\x7d, \"orasArtefact\": \"\\u00761\",
    \"targetSecret\": [null, \"apps\"], \"size\": 1.5, \"ArtefactRegistry\": \"ghcr.io/org/configs\" \x7d"

theorem read_text : Json.read reader text = .ok state := by
  decide +kernel

end Loose

open Loose in
theorem wire_roundtrip_sample :
    Json.read reader (bytesOf (Value.object members).write) = .ok state ∧
    Json.read reader (bytesOf state.toJson.write) = .ok state := by
  have ⟨_, again, spelled_read⟩ := wire_roundtrip
  have ⟨s', read, same, _⟩ := again text state read_text
  subst same
  exact ⟨spelled_read _ members _ (spelt_lexemes isExact) spelled, read⟩

end Spec

end ArtifactSync
