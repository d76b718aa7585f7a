import ArtifactSync.Kubernetes.Client
import ArtifactSync.Kubernetes.Meta
import ArtifactSync.Kubernetes.Secret
import ArtifactSync.Kubernetes.Version
import ArtifactSync.Text.Split

namespace ArtifactSync.Kubernetes.Discovery

open Json (Reader)

structure GroupVersion where
  groupVersion : String := ""
  version : String := ""
  deriving DecidableEq, Repr

structure Group where
  name : String := ""
  preferred : Option GroupVersion := none
  versions : List GroupVersion := []
  deriving DecidableEq, Repr

structure Resource where
  kind : String := ""
  name : String := ""
  version : Option String := none
  deriving DecidableEq, Repr

structure ResourceList where
  groupVersion : String := ""
  resources : List Resource := []
  deriving DecidableEq, Repr

-- A list that may be left out.
def lenientList {α : Type} (item : Reader α) : Reader (List α) :=
  return (← Reader.optional (Reader.list item)).getD []

def skipped {α : Type} (a : α) : Reader α := do
  Reader.skip
  return a

def checked {α : Type} (expected : String) (a : α) : Reader α := do
  Secret.constant expected
  return a

def GroupVersion.reader : Reader GroupVersion :=
  keyed "GroupVersionForDiscovery" (fun key g => do
    Reader.colon
    match key with
    | "groupVersion" => return { g with groupVersion := ← lenientText }
    | "version" => return { g with version := ← lenientText }
    | _ => skipped g) {}

def Group.reader : Reader Group :=
  keyed "APIGroup" (fun key g => do
    Reader.colon
    match key with
    | "apiVersion" => checked "v1" g
    | "kind" => checked "APIGroup" g
    | "name" => return { g with name := ← lenientText }
    | "preferredVersion" =>
      return { g with preferred := ← Reader.optional GroupVersion.reader }
    | "versions" => return { g with versions := ← lenientList GroupVersion.reader }
    | _ => skipped g) {}

def groupsReader : Reader (List Group) :=
  keyed "APIGroupList" (fun key gs => do
    Reader.colon
    match key with
    | "apiVersion" => checked "v1" gs
    | "kind" => checked "APIGroupList" gs
    | "groups" => lenientList Group.reader
    | _ => skipped gs) []

def Resource.reader : Reader Resource :=
  keyed "APIResource" (fun key r => do
    Reader.colon
    match key with
    | "kind" => return { r with kind := ← lenientText }
    | "name" => return { r with name := ← lenientText }
    | "version" => return { r with version := ← Reader.optional Reader.string }
    | "namespaced" =>
      let _ ← Reader.optional Reader.boolean
      return r
    | "categories" | "shortNames" | "verbs" =>
      let _ ← lenientList Reader.string
      return r
    | "group" | "singularName" | "storageVersionHash" =>
      let _ ← lenientText
      return r
    | _ => skipped r) {}

def ResourceList.reader : Reader ResourceList :=
  keyed "APIResourceList" (fun key l => do
    Reader.colon
    match key with
    | "apiVersion" => checked "v1" l
    | "kind" => checked "APIResourceList" l
    | "groupVersion" => return { l with groupVersion := ← lenientText }
    | "resources" => return { l with resources := ← lenientList Resource.reader }
    | _ => skipped l) {}

inductive Fault
  | request (f : Client.Fault)
  -- A group that serves no version.
  | emptyGroup (name : String)
  deriving DecidableEq, Repr

-- A kind of object and the version it is served in.
structure Served where
  kind : String
  version : String
  deriving DecidableEq, Repr

-- The version of a group's list that is named behind its slash, or all of it.
def versionIn (groupVersion : String) : String :=
  match Text.cut? '/' groupVersion.toList with
  | some (_, version) => String.ofList version
  | none => groupVersion

-- Resources with a slash in their name are parts of others.
def ResourceList.served (l : ResourceList) : List Served :=
  (l.resources.filter fun r => !r.name.toList.contains '/').map fun r =>
    ⟨r.kind, r.version.getD (versionIn l.groupVersion)⟩

def latest : List String → Option String
  | [] => none
  | v :: rest =>
    some (rest.foldl (fun best v =>
      if (Version.ofName v).outranks (Version.ofName best) then v else best) v)

-- What the preferred version serves, or the latest one where none is preferred.
def recommended (g : Group) (served : List (String × List Served)) : List Served :=
  let version := (g.preferred.map (·.version)) <|> latest (served.map (·.1))
  ((version.bind fun v => served.lookup v)).getD []

abbrev Program (α : Type) := ExceptT Fault Exchange α

def ask {α : Type} (reader : Reader α) (address : String) : Program α :=
  ExceptT.mk ((·.mapError Fault.request) <$>
    Client.exchange reader ((Client.path address).map fun path => ⟨.get, path, none⟩))

def groups : Program (List Group) :=
  ask groupsReader "/apis"

-- Lists the resources of every version, in the order the group names them.
def query (g : Group) : Program (List (String × List Served)) :=
  if g.versions.isEmpty then throw (.emptyGroup g.name)
  else g.versions.mapM fun v => do
    return (v.version, (← ask ResourceList.reader ("/apis/" ++ v.groupVersion)).served)

-- What the group of that name recommends. Should two have it, the later one counts.
def recommendedBy (name : String) : Program (List Served) := do
  let found ← ((← groups).filter (·.name = name)).mapM fun g => return recommended g (← query g)
  return found.getLast?.getD []

end ArtifactSync.Kubernetes.Discovery
