import ArtifactSync.Proofs.Kubernetes.Discovery

namespace ArtifactSync.Kubernetes.Discovery

open Json
open Json.Reader

variable {depth : Nat} {α : Type} {a : α} {reader : Reader α} {address name : String}

def GroupVersion.toJson (v : GroupVersion) : Value :=
  .ofFields [
    ("groupVersion", some (.string v.groupVersion)),
    ("version", some (.string v.version))]

def Group.toJson (g : Group) : Value :=
  .ofFields [
    ("name", some (.string g.name)),
    ("preferredVersion", g.preferred.map GroupVersion.toJson),
    ("versions", some (.list (g.versions.map GroupVersion.toJson)))]

def groupsToJson (gs : List Group) : Value :=
  .ofFields [
    ("apiVersion", some (.string "v1")),
    ("groups", some (.list (gs.map Group.toJson))),
    ("kind", some (.string "APIGroupList"))]

def Resource.toJson (r : Resource) : Value :=
  .ofFields [
    ("kind", some (.string r.kind)),
    ("name", some (.string r.name)),
    ("version", r.version.map .string)]

def ResourceList.toJson (l : ResourceList) : Value :=
  .ofFields [
    ("apiVersion", some (.string "v1")),
    ("groupVersion", some (.string l.groupVersion)),
    ("kind", some (.string "APIResourceList")),
    ("resources", some (.list (l.resources.map Resource.toJson)))]

theorem understands_lenientList {item : Reader α} {f : α → Value} {as : List α}
    (each : ∀ a ∈ as, Understands depth item (f a) a) :
    Understands (depth + 1) (lenientList item) (.list (as.map f)) as :=
  understands_bind_pure (understands_optional nofun (understands_list each)) rfl

theorem understands_checked {expected : String} :
    Understands depth (checked expected a) (.string expected) a :=
  understands_bind_pure Secret.understands_constant rfl

theorem GroupVersion.understands_toJson {v : GroupVersion} :
    Understands (depth + 1) GroupVersion.reader v.toJson v := by
  refine understands_of_object (understands_members ?_) fun _ _ _ _ _ => rfl
  refine .given (enters_bind understands_lenientText rfl) ?_
  refine .given (enters_bind understands_lenientText rfl) ?_
  exact .nil

theorem Group.understands_toJson {g : Group} :
    Understands (depth + 3) Group.reader g.toJson g := by
  refine understands_of_object (understands_members ?_) fun _ _ _ _ _ => rfl
  refine .given (enters_bind understands_lenientText rfl) ?_
  refine .optional rfl rfl (fun _ _ => ⟨nofun, GroupVersion.understands_toJson⟩) ?_
  refine .given (enters_bind
    (understands_lenientList fun _ _ => GroupVersion.understands_toJson) rfl) ?_
  exact .nil

theorem Resource.understands_toJson {r : Resource} :
    Understands (depth + 1) Resource.reader r.toJson r := by
  refine understands_of_object (understands_members ?_) fun _ _ _ _ _ => rfl
  refine .given (enters_bind understands_lenientText rfl) ?_
  refine .given (enters_bind understands_lenientText rfl) ?_
  refine .optional rfl rfl (fun _ _ => ⟨nofun, understands_string⟩) ?_
  exact .nil

theorem understands_groupsToJson {gs : List Group} :
    Understands (depth + 5) groupsReader (groupsToJson gs) gs := by
  refine understands_of_object (understands_members ?_) fun _ _ _ _ _ => rfl
  refine .given (enters_whole understands_checked) ?_
  refine .given (enters_whole (understands_lenientList fun _ _ => Group.understands_toJson)) ?_
  refine .given (enters_whole understands_checked) ?_
  exact .nil

theorem ResourceList.understands_toJson {l : ResourceList} :
    Understands (depth + 3) ResourceList.reader l.toJson l := by
  refine understands_of_object (understands_members ?_) fun _ _ _ _ _ => rfl
  refine .given (enters_whole understands_checked) ?_
  refine .given (enters_bind understands_lenientText rfl) ?_
  refine .given (enters_whole understands_checked) ?_
  refine .given (enters_bind
    (understands_lenientList fun _ _ => Resource.understands_toJson) rfl) ?_
  exact .nil

namespace Catalogue

variable {c : Catalogue}

-- What is found under a path.
def document (c : Catalogue) (path : String) : Value :=
  if path = "/apis" then groupsToJson c.groups
  else (c.list (String.ofList (path.toList.drop "/apis/".length))).toJson

def api (c : Catalogue) (r : Request) : Answer :=
  .ok (Server.json 200 (c.document r.path))

-- The names of the versions are parts of a path.
def IsAddressable (c : Catalogue) (name : String) : Prop :=
  ∀ g ∈ c.groups, g.name = name → ∀ v ∈ g.versions,
    (∀ ch ∈ v.groupVersion.toList, Client.isPathCharacter ch = true) ∧
      Client.FitsAddress ("/apis/" ++ v.groupVersion)

theorem answers_api (addressed : Client.path address = .ok address)
    (understood : Understands depth reader (c.document address) a) (shallow : depth < maxDepth) :
    Answers c.api reader address a :=
  ⟨address, _, addressed, rfl, Client.understand_ok rfl (read_of_understands understood shallow)⟩

theorem document_list {groupVersion : String} :
    c.document ("/apis/" ++ groupVersion) = (c.list groupVersion).toJson := by
  have other : "/apis/" ++ groupVersion ≠ "/apis" := by
    intro same
    have longer : 6 + groupVersion.length = 5 :=
      (String.length_append ..).symm.trans (congrArg String.length same)
    omega
  have behind : ("/apis/" ++ groupVersion).toList.drop "/apis/".length = groupVersion.toList := by
    rw [String.toList_append]
    exact List.drop_left
  rw [document, if_neg other, behind, String.ofList_toList]

theorem servedBy_api (addressable : c.IsAddressable name) : c.ServedBy c.api name := by
  constructor
  case groups =>
    exact answers_api (by decide) understands_groupsToJson (by decide : 5 < maxDepth)
  case lists  =>
    intro g hg named v hv
    have ⟨plain, short⟩ := addressable g hg named v hv
    have front : "/apis/".toList.all Client.isPathCharacter = true := by decide
    have whole : ∀ ch ∈ ("/apis/" ++ v.groupVersion).toList, Client.isPathCharacter ch = true := by
      intro ch hc
      rw [String.toList_append, List.mem_append] at hc
      exact hc.elim (List.all_eq_true.1 front ch) (plain ch)
    refine answers_api (Client.path_eq_self whole short) ?_ (by decide : 3 < maxDepth)
    rw [document_list]
    exact ResourceList.understands_toJson

end Catalogue

end ArtifactSync.Kubernetes.Discovery
