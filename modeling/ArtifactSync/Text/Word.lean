import ArtifactSync.Text.CodePoints
import ArtifactSync.Text.WordTable

namespace ArtifactSync.Text

def wordCharacters : CodePoints := .ofText wordRanges

def isAsciiWord (c : Char) : Bool :=
  ('a' ≤ c && c ≤ 'z') || ('A' ≤ c && c ≤ 'Z') || ('0' ≤ c && c ≤ '9') || c = '_'

def isWord (c : Char) : Bool :=
  if c.toNat < 0x80 then isAsciiWord c else wordCharacters.contains c.toNat

end ArtifactSync.Text
