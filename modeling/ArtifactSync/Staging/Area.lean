import ArtifactSync.Artifact.Content
import ArtifactSync.Staging.Title

namespace ArtifactSync.Staging

-- What a host refuses an operation with.
inductive Refusal
  | noEntry
  | alreadyExists
  | notDirectory
  | isDirectory
  | nameTooLong
  | nulByte
  -- Anything else, in the words of the host.
  | other (reason : String)
  deriving DecidableEq, Repr

def Refusal.message : Refusal → String
  | noEntry => "No such file or directory (os error 2)"
  | alreadyExists => "File exists (os error 17)"
  | notDirectory => "Not a directory (os error 20)"
  | isDirectory => "Is a directory (os error 21)"
  | nameTooLong => "File name too long (os error 36)"
  | nulByte => "file name contained an unexpected NUL byte"
  | other reason => reason

-- How far a host goes along with a write, whatever lies in the way of it besides.
inductive Course
  | whole
  -- It does not get past this directory, or cannot make it.
  | stuck (directory : Path) (r : Refusal)
  -- It does not open the file.
  | unopened (r : Refusal)
  -- It has room in the file for so many bytes and no more.
  | short (room : Nat) (r : Refusal)
  deriving DecidableEq, Repr

namespace Course

def stop? (directory : Path) : Course → Option Refusal
  | stuck there r => if there = directory then some r else none
  | _ => none

def opening? : Course → Option Refusal
  | unopened r => some r
  | _ => none

-- What gets into the file of its content.
def kept (content : Bytes) : Course → Bytes
  | short room _ => content.take room
  | _ => content

-- Why this is not all.
def shortage? (content : Bytes) : Course → Option Refusal
  | short room r => if content.length ≤ room then none else some r
  | _ => none

end Course

-- How far a host goes along where an area is read back.
inductive Reading
  | whole
  -- It does not list what there is, or does not tell files from directories.
  | unlisted (r : Refusal)
  -- It does not read the file of this name.
  | unread (name : String) (r : Refusal)
  deriving DecidableEq, Repr

structure Area where
  -- How many bytes a path below the area may have.
  room : Nat
  files : List (Path × Bytes) := []
  directories : List Path := []
  deriving DecidableEq, Repr

namespace Area

-- Every area has a name of its own, of which only the last part differs.
def directoryName (mark : String) : String :=
  "oci-secret-sync-" ++ mark

-- Where the area lies under `root`.
def place (root mark : String) : String :=
  let slash := if root.toList.getLast? = some '/' then "" else "/"
  root ++ slash ++ directoryName mark

-- A directory that could not be made.
structure Unmade where
  place : String
  refusal : Refusal
  deriving DecidableEq, Repr

def Unmade.message (u : Unmade) : String :=
  s!"{u.refusal.message} at path {Text.quoted u.place}"

-- What a host takes for a path, its own end mark not counted.
def maxPathBytes : Nat := 4095

-- A new area in the directory that the host has made, unless it refused to make one.
def create : Except Unmade String → Except Error Area
  | .ok place => .ok { room := maxPathBytes - (place.utf8ByteSize + 1) }
  | .error u => .error (.fetchFailed "staging directory" u.message)

def isTooLong (name : String) : Bool :=
  255 < name.utf8ByteSize

def hasNul (path : Path) : Bool :=
  path.any (·.toList.contains '\x00')

-- The names and the slashes between them do not fit.
def overflows (a : Area) (p : Path) : Bool :=
  a.room < p.foldr (fun name bytes => name.utf8ByteSize + bytes) (p.length - 1)

-- What is wrong with a path whatever there is in the area.
def hopeless? (a : Area) (p : Path) : Option Refusal :=
  if hasNul p then some .nulByte else if a.overflows p then some .nameTooLong else none

def isFile (a : Area) (p : Path) : Bool :=
  a.files.any (·.1 = p)

variable (course : Course)

-- Goes down from `above`, which is there, making what is missing. Says why it stops, if it does.
def descend (a : Area) (above : Path) : Path → Option Refusal × Area
  | [] => (none, a)
  | name :: rest =>
    let here := above ++ [name]
    match course.stop? here with
    | some r => (some r, a)
    | none =>
      if isTooLong name then (some .nameTooLong, a)
      -- Only the last part was to be made; on the way there a file is no directory.
      else if a.isFile here then (some (if rest = [] then .alreadyExists else .notDirectory), a)
      else if here ∈ a.directories then descend a here rest
      else descend { a with directories := here :: a.directories } here rest

-- Makes a directory and all those it lies in.
def makeDirectory (a : Area) (p : Path) : Option Refusal × Area :=
  match (a.hopeless? p).or (course.stop? []) with
  | some r => (some r, a)
  | none => a.descend course [] p

-- Why a file cannot be opened in a directory that is there.
def obstacle? (a : Area) (p : Path) : Option Refusal :=
  if p.getLast?.any isTooLong then some .nameTooLong
  else if p ∈ a.directories then some .isDirectory
  else none

-- Opens a file to be written anew, in a directory that is made for it.
def openFile (a : Area) (p : Path) : Option Refusal × Area :=
  match a.makeDirectory course p.dropLast with
  | (none, a) => ((a.hopeless? p).or (course.opening?.or (a.obstacle? p)), a)
  | refused => refused

def store (a : Area) (p : Path) (content : Bytes) : Area :=
  { a with files := (p, content) :: a.files.filter (·.1 ≠ p) }

-- What was in a file is gone once it is open, even if there is no room for all of the content.
def writeAt (a : Area) (p : Path) (content : Bytes) : Option Refusal × Area :=
  match a.openFile course p with
  | (none, a) => (course.shortage? content, a.store p (course.kept content))
  | refused => refused

def report (title : String) : Option Refusal → Except Error Unit
  | none => .ok ()
  | some r => .error (.fetchFailed s!"staging of {title}" r.message)

-- Writes the file that a title stands for, on the course that the host takes with it.
def write {m : Type → Type} [Monad m] (host : Path → Bytes → m Course) (a : Area) (title : String)
    (content : Bytes) : m (Except Error Unit × Area) :=
  match Title.path title with
  | .error f => return (.error (f.report title), a)
  | .ok p => do
    let (refused?, a) := a.writeAt (← host p content) p content
    return (report title refused?, a)

-- The files that lie in the area itself and not in a directory of it.
def topFiles (a : Area) : FileMap :=
  a.files.foldr (fun e found =>
    match e.1 with
    | [name] => found.insert name e.2
    | _ => found) ∅

-- Reads these files back, all of them or none.
def readFiles (a : Area) : Reading → Except Error FileMap
  | .whole => .ok a.topFiles
  | .unlisted r => .error (.fetchFailed "staging directory listing" r.message)
  | .unread name r =>
    if a.isFile [name] then .error (.fetchFailed s!"staged file {name}" r.message)
    else .ok a.topFiles

end Area

end ArtifactSync.Staging
