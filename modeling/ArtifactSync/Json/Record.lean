import ArtifactSync.Json.Reader

namespace ArtifactSync.Json

-- A field of a record that is read into drafts of type `σ`.
structure Field (σ : Type) where
  name : String
  optional : Bool
  isSet : σ → Bool
  read : σ → Reader σ

-- `build` makes the record of a draft, or says which field it lacks.
structure Record (σ α : Type) where
  name : String
  fields : List (Field σ)
  draft : σ
  build : σ → Except Cause α

namespace Record

variable {σ α : Type}

def describe (r : Record σ α) : String :=
  let n := r.fields.length
  s!"struct {r.name} with {n} element" ++ (if n = 1 then "" else "s")

def entry (r : Record σ α) (key : String) (s : σ) : Reader σ := do
  match r.fields.find? (·.name == key) with
  | none =>
    Reader.colon
    Reader.skip
    return s
  | some field =>
    if field.isSet s then Reader.fail (.duplicateField field.name)
    else
      Reader.colon
      field.read s

def inOrder (r : Record σ α) (place : Nat) (s : σ) : List (Field σ) → Reader σ
  | [] => return s
  | field :: rest => do
    if ← Reader.nextElement? (place == 0) then
      r.inOrder (place + 1) (← field.read s) rest
    else if field.optional then r.inOrder (place + 1) s rest
    else Reader.fail (.wrongLength place r.describe)

def finish (r : Record σ α) (s : σ) : Reader α :=
  match r.build s with
  | .ok a => return a
  | .error cause => Reader.fail cause

def reader (r : Record σ α) : Reader α := do
  match ← Reader.peek with
  | some ⟨.openBrace, _, _⟩ =>
    Reader.bracketed .object do r.finish (← Reader.members r.entry r.draft)
  | some ⟨.openBracket, _, _⟩ =>
    Reader.bracketed .list do r.finish (← r.inOrder 0 r.draft r.fields)
  | _ => Reader.refuse ("struct " ++ r.name)

end Record

def required {α : Type} (name : String) (value : Option α) : Except Cause α :=
  match value with
  | some a => .ok a
  | none => .error (.missingField name)

end ArtifactSync.Json
