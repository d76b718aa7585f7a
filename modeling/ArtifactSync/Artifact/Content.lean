import ArtifactSync.Dict
import ArtifactSync.Text.Utf8

namespace ArtifactSync

-- The identifier of a manifest. It is compared and never taken apart.
structure Digest where
  text : String
  deriving DecidableEq, Repr

abbrev FileMap := Dict Bytes

namespace FileMap

-- Keeps the named files. Where no name is given, all are kept.
def restrictTo (files : FileMap) (allow : List String) : FileMap :=
  if allow.isEmpty then files else Dict.filter allow.contains files

theorem find?_restrictTo (files : FileMap) (allow : List String) (name : String) :
    (files.restrictTo allow).find? name =
      if allow = [] ∨ name ∈ allow then files.find? name else none := by
  cases allow with
  | nil => simp [restrictTo]
  | cons a rest => simp [restrictTo, Dict.find?_filter]

end FileMap

structure Content where
  digest : Digest
  files : FileMap
  deriving DecidableEq, Repr

def Content.restrictTo (c : Content) (allow : List String) : Content :=
  { c with files := c.files.restrictTo allow }

end ArtifactSync
