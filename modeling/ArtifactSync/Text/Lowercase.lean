import ArtifactSync.Text.CodePoints
import ArtifactSync.Text.CaseTable

namespace ArtifactSync.Text

def lowerTable : Array Shift := Shift.table lowerRuns

def cased : CodePoints := .ofText casedRanges

def caseIgnorable : CodePoints := .ofText caseIgnorableRanges

def isAsciiUpper (c : Char) : Bool :=
  'A' ≤ c && c ≤ 'Z'

def asciiLower (c : Char) : Char :=
  if isAsciiUpper c then Char.ofNat (c.toNat + 32) else c

def lowerChar (c : Char) : List Char :=
  if c.toNat < 0x80 then [asciiLower c]
  else if c.toNat = 0x130 then ['i', '\u0307']
  else
    match Shift.shifted? lowerTable c.toNat with
    | some n => [Char.ofNat n]
    | none => [c]

-- Whether the first character that case does not look past has a case.
def startsCased (cs : List Char) : Bool :=
  match cs.dropWhile (caseIgnorable.contains ·.toNat) with
  | [] => false
  | c :: _ => cased.contains c.toNat

-- `before` holds what was read already, the nearest character first.
def lowerFrom (before : List Char) : List Char → List Char
  | [] => []
  | c :: rest =>
    (if c = 'Σ' then
      -- Final is what has a letter before it and none behind it.
      [if startsCased before && !startsCased rest then 'ς' else 'σ']
    else lowerChar c) ++ lowerFrom (c :: before) rest

def lower (s : String) : String :=
  String.ofList (lowerFrom [] s.toList)

end ArtifactSync.Text
