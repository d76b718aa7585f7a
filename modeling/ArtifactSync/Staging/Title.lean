import ArtifactSync.Error
import ArtifactSync.Text.Quoted
import ArtifactSync.Text.Split

namespace ArtifactSync.Staging

-- The names on the way from the area to a file.
abbrev Path := List String

namespace Title

inductive Fault
  | escapes
  | empty
  deriving DecidableEq, Repr

-- Repeated slashes, and the dot for where one is, do not count.
def names (title : String) : Path :=
  ((Text.splitOn '/' title.toList).map String.ofList).filter fun name => name ≠ "" ∧ name ≠ "."

def path (title : String) : Except Fault Path :=
  if title.toList.head? = some '/' ∨ ".." ∈ names title then .error .escapes
  else if names title = [] then .error .empty
  else .ok (names title)

def Fault.report (title : String) : Fault → Error
  | escapes => .fetchFailed s!"layer {title}" "title is not a relative path inside the artifact"
  | empty => .fetchFailed s!"layer {Text.quoted title}" "empty title"

end Title

end ArtifactSync.Staging
