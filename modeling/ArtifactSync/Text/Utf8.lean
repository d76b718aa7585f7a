namespace ArtifactSync

abbrev Bytes := List UInt8

namespace Text.Utf8

inductive Fault
  | invalid (index length : Nat)
  | incomplete (index : Nat)
  deriving Repr, DecidableEq

def Fault.message : Fault → String
  | invalid index length => s!"invalid utf-8 sequence of {length} bytes from index {index}"
  | incomplete index => s!"incomplete utf-8 byte sequence from index {index}"

-- How many bytes before it are in order.
def Fault.index : Fault → Nat
  | invalid index _ | incomplete index => index

def encode (cs : List Char) : Bytes :=
  cs.flatMap String.utf8EncodeChar

def isContinuation (b : UInt8) : Bool :=
  0x80 ≤ b && b ≤ 0xBF

-- The second byte of a longer sequence: some first bytes allow only part of the range, so that no
-- character has two encodings, no surrogate has one, and nothing lies past the last code point.
def isSecond (first second : UInt8) : Bool :=
  if first = 0xE0 then 0xA0 ≤ second && second ≤ 0xBF
  else if first = 0xED then 0x80 ≤ second && second ≤ 0x9F
  else if first = 0xF0 then 0x90 ≤ second && second ≤ 0xBF
  else if first = 0xF4 then 0x80 ≤ second && second ≤ 0x8F
  else isContinuation second

def tail (b : UInt8) : Nat :=
  b.toNat % 64

def decodeFrom (index : Nat) (read : List Char) : Bytes → Except Fault (List Char)
  | [] => .ok read.reverse
  | a :: rest =>
    if a < 0x80 then decodeFrom (index + 1) (Char.ofNat a.toNat :: read) rest
    -- A continuation byte, or one that could only spell ASCII in two bytes.
    else if a < 0xC2 then .error (.invalid index 1)
    else if a < 0xE0 then
      match rest with
      | [] => .error (.incomplete index)
      | b :: rest =>
        if !isContinuation b then .error (.invalid index 1)
        else decodeFrom (index + 2) (Char.ofNat ((a.toNat - 0xC0) * 64 + tail b) :: read) rest
    else if a < 0xF0 then
      match rest with
      | [] => .error (.incomplete index)
      | [b] => .error (if isSecond a b then .incomplete index else .invalid index 1)
      | b :: c :: rest =>
        if !isSecond a b then .error (.invalid index 1)
        else if !isContinuation c then .error (.invalid index 2)
        else
          decodeFrom (index + 3)
            (Char.ofNat (((a.toNat - 0xE0) * 64 + tail b) * 64 + tail c) :: read) rest
    else if a < 0xF5 then
      match rest with
      | [] => .error (.incomplete index)
      | [b] => .error (if isSecond a b then .incomplete index else .invalid index 1)
      | [b, c] =>
        .error (if !isSecond a b then .invalid index 1
          else if !isContinuation c then .invalid index 2
          else .incomplete index)
      | b :: c :: d :: rest =>
        if !isSecond a b then .error (.invalid index 1)
        else if !isContinuation c then .error (.invalid index 2)
        else if !isContinuation d then .error (.invalid index 3)
        else
          decodeFrom (index + 4)
            (Char.ofNat ((((a.toNat - 0xF0) * 64 + tail b) * 64 + tail c) * 64 + tail d) :: read)
            rest
    else .error (.invalid index 1)

def decode (bytes : Bytes) : Except Fault (List Char) :=
  decodeFrom 0 [] bytes

end Text.Utf8

-- The UTF-8 bytes of a text.
def bytesOf (s : String) : Bytes :=
  Text.Utf8.encode s.toList

end ArtifactSync
