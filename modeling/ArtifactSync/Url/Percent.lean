import ArtifactSync.Text.Hexadecimal
import ArtifactSync.Text.Lowercase
import ArtifactSync.Text.Utf8

namespace ArtifactSync.Url

def percentByte (b : UInt8) : List Char :=
  '%' :: Text.Hexadecimal.upperPair b.toNat

-- Writes a character as it is unless it is in the set; its bytes are written one by one.
def percentEncode (inSet : Char → Bool) (cs : List Char) : List Char :=
  cs.flatMap fun c =>
    if inSet c then (String.utf8EncodeChar c).flatMap percentByte else [c]

-- A percent sign without two digits behind it stands for itself.
def percentDecode : Bytes → Bytes
  | [] => []
  | b :: rest =>
    if b = 0x25 then
      match rest with
      | h :: l :: more =>
        match Text.Hexadecimal.byteValue? h, Text.Hexadecimal.byteValue? l with
        | some x, some y => UInt8.ofNat (x * 16 + y) :: percentDecode more
        | _, _ => b :: percentDecode (h :: l :: more)
      | short => b :: short
    else b :: percentDecode rest

-- Controls and everything beyond ASCII.
def isControl (c : Char) : Bool :=
  c.toNat < 0x20 || 0x7E < c.toNat

def isFragmentSet (c : Char) : Bool :=
  isControl c || " \"<>`".toList.contains c

def isQuerySet (c : Char) : Bool :=
  isControl c || " \"#<>".toList.contains c

def isSpecialQuerySet (c : Char) : Bool :=
  isQuerySet c || c = '\''

def isPathSet (c : Char) : Bool :=
  isControl c || " \"#<>?`\x7b\x7d".toList.contains c

def isUserinfoSet (c : Char) : Bool :=
  isPathSet c || "/:;=@[\\]^|".toList.contains c

-- Forms keep letters, digits and four signs; a blank becomes a plus.
def formEncode (s : String) : String :=
  String.ofList <| (bytesOf s).flatMap fun b =>
    let c := Char.ofNat b.toNat
    if c.isAlphanum || "*-._".toList.contains c then [c]
    else if c = ' ' then ['+']
    else percentByte b

end ArtifactSync.Url
