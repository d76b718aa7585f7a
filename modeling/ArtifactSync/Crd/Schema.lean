import ArtifactSync.Desired.Resource

namespace ArtifactSync.Crd

open Json (Value)

-- What is said about a value beside its form.
structure Remark where
  description : Option String := none
  nullable : Bool := false

inductive Schema
  | text (r : Remark)
  | texts (r : Remark)
  | object (r : Remark) (fields : List (String × Schema)) (required : List String)

namespace Schema

def fields (r : Remark) (type : String) (more : List (String × Value)) : List (String × Value) :=
  (r.description.map fun d => ("description", Value.string d)).toList ++
    (if r.nullable then [("nullable", .boolean true)] else []) ++
    ("type", .string type) :: more

def names (ns : List String) : Value :=
  .list (ns.map .string)

mutual

def toJson : Schema → Value
  | text r => .object (fields r "string" [])
  | texts r => .object (fields r "array" [("items", .object [("type", .string "string")])])
  | object r members required =>
    .object (fields r "object" (("properties", .object (membersToJson members)) ::
      (if required.isEmpty then [] else [("required", names required)])))

def membersToJson : List (String × Schema) → List (String × Value)
  | [] => []
  | (name, s) :: rest => (name, s.toJson) :: membersToJson rest

end

end Schema

def secretRefSchema (nullable : Bool) : Schema :=
  .object ⟨some "Namespaced reference to a Secret", nullable⟩
    [("name", .text { nullable := true }), ("namespace", .text { nullable := true })] []

def selectionSchema : Schema :=
  .object { nullable := true }
    [("Files", .texts { description := some "Files to project; empty means all of them" })] []

def specSchema : Schema :=
  .object
    { description := some
        ("Desired state: which artifact to project into which secret.\n\n" ++
          "Field names on the wire follow the published CRD schema, which mixes casing.") }
    [("orasArtefact",
        .text { description := some "Tag or digest of the artifact inside the repository" }),
      ("ArtefactRegistry",
        .text { description := some "Repository address, e.g. \x60ghcr.io/org/configs\x60" }),
      ("Sync", selectionSchema),
      ("ArtefactPullSecret", secretRefSchema true),
      ("targetSecret", secretRefSchema false)]
    ["ArtefactRegistry", "orasArtefact", "targetSecret"]

def resourceSchema : Value :=
  let described : Schema :=
    .object
      { description := some
          "Auto-generated derived type for OCISecretSpec via \x60CustomResource\x60" }
      [("spec", specSchema)] ["spec"]
  described.toJson.withMember "title" (.string OciSecret.kind)

def singular : String := "ocisecret"

def shortName : String := "ocisec"

def version : Value :=
  .object [
    ("name", .string OciSecret.version),
    ("served", .boolean true),
    ("storage", .boolean true),
    ("schema", .object [("openAPIV3Schema", resourceSchema)]),
    ("additionalPrinterColumns", .list []),
    ("subresources", .object [])]

-- The resource belongs to the cluster and not to one of its namespaces.
def definition : Value :=
  .object [
    ("apiVersion", .string "apiextensions.k8s.io/v1"),
    ("kind", .string "CustomResourceDefinition"),
    ("metadata", .object [("name", .string (OciSecret.plural ++ "." ++ OciSecret.group))]),
    ("spec", .object [
      ("group", .string OciSecret.group),
      ("names", .object [
        ("categories", .list []),
        ("kind", .string OciSecret.kind),
        ("plural", .string OciSecret.plural),
        ("shortNames", Schema.names [shortName]),
        ("singular", .string singular)]),
      ("scope", .string "Cluster"),
      ("versions", .list [version])])]

end ArtifactSync.Crd
