import ArtifactSync.Text.CodePoints
import ArtifactSync.Url.Idna.ScriptTable
import ArtifactSync.Url.Idna.CompositionTable

namespace ArtifactSync.Url.Idna

open Text (CodePoints Range)

def marks : CodePoints := .ofText markRanges

-- A range of marks with its combining class.
structure ClassRow where
  range : Range
  combiningClass : Nat

def ClassRow.ofWord? (word : List Char) : Option ClassRow :=
  let range := word.takeWhile (· ≠ '/')
  let number := (word.drop (range.length + 1)).foldl (fun n c => n * 10 + (c.toNat - 0x30)) 0
  match Text.hexNumbers range with
  | [n] => some ⟨⟨n, n⟩, number⟩
  | [first, last] => some ⟨⟨first, last⟩, number⟩
  | _ => none

def classTable : Array ClassRow :=
  (Text.tableWords combiningClasses).toArray.filterMap ClassRow.ofWord?

def combiningClass (c : Char) : Nat :=
  if c.toNat < 0x300 then 0
  else ((Range.search ClassRow.range classTable c.toNat).map (·.combiningClass)).getD 0

-- The class of the marks that silence a vowel; a joiner may follow one.
def viramaClass : Nat := 9

def leftJoining : CodePoints := .ofText leftJoiningRanges

def rightJoining : CodePoints := .ofText rightJoiningRanges

def dualJoining : CodePoints := .ofText dualJoiningRanges

def transparentJoining : CodePoints := .ofText transparentJoiningRanges

-- Whether a non-joiner between the two texts breaks a join; `before` is read backwards.
def breaksJoin (before after : List Char) : Bool :=
  let nearest (cs : List Char) := (cs.dropWhile (transparentJoining.contains ·.toNat)).head?
  (nearest before).any (fun c => leftJoining.contains c.toNat || dualJoining.contains c.toNat) &&
    (nearest after).any (fun c => rightJoining.contains c.toNat || dualJoining.contains c.toNat)

def joinersFit (before : List Char) : List Char → Bool
  | [] => true
  | c :: rest =>
    let afterVirama := before.head?.any (combiningClass · = viramaClass)
    (if c.toNat = 0x200C then afterVirama || breaksJoin before rest
      else c.toNat ≠ 0x200D || afterVirama) &&
      joinersFit (c :: before) rest

inductive Direction
  | left
  | right
  | arabicLetter
  | arabicNumber
  | europeanNumber
  | europeanSeparator
  | commonSeparator
  | europeanTerminator
  | otherNeutral
  | boundaryNeutral
  | nonspacingMark
  deriving DecidableEq, Repr

def directions : List (Direction × CodePoints) := [
  (.right, .ofText rightToLeftRanges),
  (.arabicLetter, .ofText arabicLetterRanges),
  (.arabicNumber, .ofText arabicNumberRanges),
  (.europeanNumber, .ofText europeanNumberRanges),
  (.europeanSeparator, .ofText europeanSeparatorRanges),
  (.commonSeparator, .ofText commonSeparatorRanges),
  (.europeanTerminator, .ofText europeanTerminatorRanges),
  (.otherNeutral, .ofText otherNeutralRanges),
  (.boundaryNeutral, .ofText boundaryNeutralRanges),
  (.nonspacingMark, .ofText nonspacingMarkRanges)]

def direction (c : Char) : Direction :=
  ((directions.find? fun (_, set) => set.contains c.toNat).map (·.1)).getD .left

def isRightToLeft : Direction → Bool
  | .right | .arabicLetter | .arabicNumber => true
  | _ => false

-- The directions of a label in a name that has characters written from right to left.
def directionsFit (ds : List Direction) : Bool :=
  let last := (ds.reverse.dropWhile (· = .nonspacingMark)).head?
  match ds.head? with
  | none => true
  | some .left =>
    !ds.any isRightToLeft && last.any fun d => d = .left || d = .europeanNumber
  | some .right | some .arabicLetter =>
    !ds.contains .left &&
      last.any (fun d =>
        d = .right || d = .arabicLetter || d = .europeanNumber || d = .arabicNumber) &&
      !(ds.contains .europeanNumber && ds.contains .arabicNumber)
  | some _ => false

end ArtifactSync.Url.Idna
