import ArtifactSync.Text.Lowercase
import ArtifactSync.Text.Split
import ArtifactSync.Url.Idna.Composition
import ArtifactSync.Url.Idna.MappingTable
import ArtifactSync.Url.Punycode

namespace ArtifactSync.Url.Idna

open Text (CodePoints Range Shift)

def kept : CodePoints := .ofText keptRanges

def omitted : CodePoints := .ofText omittedRanges

def moved : Array Shift := Shift.table movedRuns

structure Replacement where
  character : Nat
  text : List Char

def Replacement.ofWord? (word : List Char) : Option Replacement :=
  match Text.hexNumbers word with
  | n :: rest => some ⟨n, rest.map Char.ofNat⟩
  | [] => none

def replacements : Array Replacement :=
  (Text.tableWords replacedTexts).toArray.filterMap Replacement.ofWord?

-- What a character becomes, if it may occur at all.
def mapChar? (c : Char) : Option (List Char) :=
  let n := c.toNat
  if n < 0x80 then some [Text.asciiLower c]
  else if kept.contains n then some [c]
  else if omitted.contains n then some []
  else
    match Shift.shifted? moved n with
    | some m => some [Char.ofNat m]
    | none => (Range.search (fun r => ⟨r.character, r.character⟩) replacements n).map (·.text)

def isAscii (cs : List Char) : Bool :=
  cs.all (·.toNat < 0x80)

def labels (cs : List Char) : List (List Char) :=
  Text.splitOn '.' cs

def joinLabels (ls : List (List Char)) : List Char :=
  ['.'].intercalate ls

def punycodeMark : List Char := ['x', 'n', '-', '-']

-- A label as it is meant and as it is written.
structure Label where
  meant : List Char
  written : List Char

def Label.ofText? (label : List Char) : Option Label :=
  if punycodeMark.isPrefixOf label then do
    let meant ← Punycode.decode (label.drop punycodeMark.length)
    -- Only the form that encoding would give is a written form.
    if isAscii meant || !isAscii label || meant.any (!kept.contains ·.toNat) ||
        compose meant ≠ meant then
      none
    else return ⟨meant, label⟩
  else if isAscii label then some ⟨label, label⟩
  else some ⟨label, punycodeMark ++ Punycode.encode label⟩

def Label.isFit (l : Label) : Bool :=
  isAscii l.meant || (!l.meant.head?.any (marks.contains ·.toNat) && joinersFit [] l.meant)

def isTwoWay (ls : List Label) : Bool :=
  ls.any fun l => !isAscii l.meant && l.meant.any fun c => isRightToLeft (direction c)

-- Characters that separate the parts of an address, and what never shows.
def isForbidden (c : Char) : Bool :=
  c.toNat ≤ 0x20 || c.toNat = 0x7F || "%#/:<>?@[\\]^|".toList.contains c

def plainForm? (cs : List Char) : Option (List Char) :=
  let lowered := cs.map Text.asciiLower
  -- No table has a say in plain names.
  if isAscii cs && (labels lowered).all (!punycodeMark.isPrefixOf ·) then some lowered
  else do
    let mapped ← cs.mapM mapChar?
    let ls ← (labels (compose mapped.flatten)).mapM Label.ofText?
    if ls.all Label.isFit &&
        (!isTwoWay ls || ls.all fun l => directionsFit (l.meant.map direction)) then
      return joinLabels (ls.map (·.written))
    else none

-- The plain form of a domain name.
def toAscii? (cs : List Char) : Option (List Char) :=
  (plainForm? cs).filter fun name => !name.any isForbidden

end ArtifactSync.Url.Idna
