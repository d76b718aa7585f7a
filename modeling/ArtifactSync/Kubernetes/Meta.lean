import ArtifactSync.Json.Value
import ArtifactSync.Kubernetes.Time

namespace ArtifactSync.Kubernetes

open Json (Reader Value)

def Time.reader : Reader Time :=
  Reader.stringWith "an RFC 3339 formatted date and time string" fun s =>
    match Time.ofText s with
    | .ok t => .ok t
    | .error f => .error (.rejected f.message)

def Time.toJson (t : Time) : Value := .string t.text

def int64 : Reader Int :=
  Reader.integer "i64" (-2 ^ 63) (2 ^ 63)

def textDict : Reader (Dict String) :=
  Reader.dict Reader.string

-- A required text that is missing is empty.
def lenientText : Reader String :=
  return (← Reader.optional Reader.string).getD ""

structure OwnerReference where
  apiVersion : String := ""
  blockOwnerDeletion : Option Bool := none
  controller : Option Bool := none
  kind : String := ""
  name : String := ""
  uid : String := ""
  deriving DecidableEq, Repr

namespace OwnerReference

def entry (key : String) (o : OwnerReference) : Reader OwnerReference := do
  Reader.colon
  match key with
  | "apiVersion" => return { o with apiVersion := ← lenientText }
  | "blockOwnerDeletion" => return { o with blockOwnerDeletion := ← Reader.optional Reader.boolean }
  | "controller" => return { o with controller := ← Reader.optional Reader.boolean }
  | "kind" => return { o with kind := ← lenientText }
  | "name" => return { o with name := ← lenientText }
  | "uid" => return { o with uid := ← lenientText }
  | _ =>
    Reader.skip
    return o

end OwnerReference

-- Reads an object whose kind does not admit the list form.
def keyed {α : Type} (name : String) (entry : String → α → Reader α) (blank : α) : Reader α := do
  match ← Reader.peek with
  | some ⟨.openBracket, _, _⟩ =>
    Reader.bracketed .list (Reader.fail (.wrongType .sequence name))
  | _ => Reader.object name entry blank

def OwnerReference.reader : Reader OwnerReference :=
  keyed "OwnerReference" entry {}

def OwnerReference.toJson (o : OwnerReference) : Value :=
  .ofFields [
    ("apiVersion", some (.string o.apiVersion)),
    ("blockOwnerDeletion", o.blockOwnerDeletion.map .boolean),
    ("controller", o.controller.map .boolean),
    ("kind", some (.string o.kind)),
    ("name", some (.string o.name)),
    ("uid", some (.string o.uid))]

-- Who last set which fields, as the API server keeps account of it.
structure ManagedFields where
  apiVersion : Option String := none
  fieldsType : Option String := none
  fieldsV1 : Option Value := none
  manager : Option String := none
  operation : Option String := none
  subresource : Option String := none
  time : Option Time := none
  deriving Repr

namespace ManagedFields

def entry (key : String) (m : ManagedFields) : Reader ManagedFields := do
  Reader.colon
  let text := Reader.optional Reader.string
  match key with
  | "apiVersion" => return { m with apiVersion := ← text }
  | "fieldsType" => return { m with fieldsType := ← text }
  | "fieldsV1" => return { m with fieldsV1 := ← Reader.optional Value.reader }
  | "manager" => return { m with manager := ← text }
  | "operation" => return { m with operation := ← text }
  | "subresource" => return { m with subresource := ← text }
  | "time" => return { m with time := ← Reader.optional Time.reader }
  | _ =>
    Reader.skip
    return m

def reader : Reader ManagedFields :=
  keyed "ManagedFieldsEntry" entry {}

def toJson (m : ManagedFields) : Value :=
  .ofFields [
    ("apiVersion", m.apiVersion.map .string),
    ("fieldsType", m.fieldsType.map .string),
    ("fieldsV1", m.fieldsV1),
    ("manager", m.manager.map .string),
    ("operation", m.operation.map .string),
    ("subresource", m.subresource.map .string),
    ("time", m.time.map Time.toJson)]

end ManagedFields

structure ObjectMeta where
  annotations : Option (Dict String) := none
  creationTimestamp : Option Time := none
  deletionGracePeriodSeconds : Option Int := none
  deletionTimestamp : Option Time := none
  finalizers : Option (List String) := none
  generateName : Option String := none
  generation : Option Int := none
  labels : Option (Dict String) := none
  managedFields : Option (List ManagedFields) := none
  name : Option String := none
  «namespace» : Option String := none
  ownerReferences : Option (List OwnerReference) := none
  resourceVersion : Option String := none
  selfLink : Option String := none
  uid : Option String := none
  deriving Repr

namespace ObjectMeta

def entry (key : String) (m : ObjectMeta) : Reader ObjectMeta := do
  Reader.colon
  let text := Reader.optional Reader.string
  match key with
  | "annotations" => return { m with annotations := ← Reader.optional textDict }
  | "creationTimestamp" => return { m with creationTimestamp := ← Reader.optional Time.reader }
  | "deletionGracePeriodSeconds" =>
    return { m with deletionGracePeriodSeconds := ← Reader.optional int64 }
  | "deletionTimestamp" => return { m with deletionTimestamp := ← Reader.optional Time.reader }
  | "finalizers" => return { m with finalizers := ← Reader.optional (Reader.list Reader.string) }
  | "generateName" => return { m with generateName := ← text }
  | "generation" => return { m with generation := ← Reader.optional int64 }
  | "labels" => return { m with labels := ← Reader.optional textDict }
  | "managedFields" =>
    return { m with managedFields := ← Reader.optional (Reader.list ManagedFields.reader) }
  | "name" => return { m with name := ← text }
  | "namespace" => return { m with «namespace» := ← text }
  | "ownerReferences" =>
    return { m with ownerReferences := ← Reader.optional (Reader.list OwnerReference.reader) }
  | "resourceVersion" => return { m with resourceVersion := ← text }
  | "selfLink" => return { m with selfLink := ← text }
  | "uid" => return { m with uid := ← text }
  | _ =>
    Reader.skip
    return m

def reader : Reader ObjectMeta :=
  keyed "ObjectMeta" entry {}

def toJson (m : ObjectMeta) : Value :=
  .ofFields [
    ("annotations", m.annotations.map (.ofDict .string)),
    ("creationTimestamp", m.creationTimestamp.map Time.toJson),
    ("deletionGracePeriodSeconds", m.deletionGracePeriodSeconds.map .ofInt),
    ("deletionTimestamp", m.deletionTimestamp.map Time.toJson),
    ("finalizers", m.finalizers.map fun fs => .list (fs.map .string)),
    ("generateName", m.generateName.map .string),
    ("generation", m.generation.map .ofInt),
    ("labels", m.labels.map (.ofDict .string)),
    ("managedFields", m.managedFields.map fun ms => .list (ms.map ManagedFields.toJson)),
    ("name", m.name.map .string),
    ("namespace", m.namespace.map .string),
    ("ownerReferences", m.ownerReferences.map fun os => .list (os.map OwnerReference.toJson)),
    ("resourceVersion", m.resourceVersion.map .string),
    ("selfLink", m.selfLink.map .string),
    ("uid", m.uid.map .string)]

-- The name, or what the server would begin it with.
def anyName (m : ObjectMeta) : String :=
  (m.name <|> m.generateName).getD ""

end ObjectMeta

end ArtifactSync.Kubernetes
