import ArtifactSync.Json.Number
import ArtifactSync.Text.Hexadecimal

namespace ArtifactSync.Json

structure Scalar (α : Type) where
  value : Except Fault α
  skipped : Except Fault Nat

inductive Word
  | null
  | boolean (b : Bool)
  deriving Repr, DecidableEq

inductive Token
  | openBrace
  | closeBrace
  | openBracket
  | closeBracket
  | comma
  | colon
  | word (w : Word) (misspelt : Option Fault)
  | number (n : Scalar Number)
  | string (s : Scalar String)
  | other

structure Lexeme where
  token : Token
  start : Nat
  stop : Nat

namespace Lexeme

def isSpace (b : UInt8) : Bool :=
  b = 0x20 || b = 0x0A || b = 0x09 || b = 0x0D

-- The letters that must follow.
def misspelt (place : Nat) : Bytes → Bytes → Option Fault
  | [], _ => none
  | _ :: _, [] => some ⟨.endInValue, some place⟩
  | e :: expected, b :: rest =>
    if e = b then misspelt (place + 1) expected rest else some ⟨.expectedIdent, some (place + 1)⟩

def escape? (b : UInt8) : Option UInt8 :=
  if b = 0x22 ∨ b = 0x5C ∨ b = 0x2F then some b
  else if b = 0x62 then some 0x08
  else if b = 0x66 then some 0x0C
  else if b = 0x6E then some 0x0A
  else if b = 0x72 then some 0x0D
  else if b = 0x74 then some 0x09
  else none

-- The number that four digits stand for.
def hexUnit? (a b c d : UInt8) : Option Nat :=
  [a, b, c, d].foldlM (fun n b => return n * 16 + (← Text.Hexadecimal.byteValue? b)) 0

def isHighSurrogate (n : Nat) : Bool :=
  0xD800 ≤ n && n ≤ 0xDBFF

def isLowSurrogate (n : Nat) : Bool :=
  0xDC00 ≤ n && n ≤ 0xDFFF

def joinSurrogates (high low : Nat) : Nat :=
  0x10000 + (high - 0xD800) * 0x400 + (low - 0xDC00)

def pushCodePoint (n : Nat) (read : Bytes) : Bytes :=
  (String.utf8EncodeChar (Char.ofNat n)).reverse ++ read

-- Reads on after the opening quote: the bytes meant, and the place after the closing quote.
def readString (place : Nat) (read : Bytes) : Bytes → Except Fault (Bytes × Nat)
  | [] => .error ⟨.endInString, some place⟩
  | b :: rest =>
    if b = 0x22 then .ok (read.reverse, place + 1)
    else if b < 0x20 then .error ⟨.controlCharacter, some (place + 1)⟩
    else if b ≠ 0x5C then readString (place + 1) (b :: read) rest
    else
      match rest with
      | [] => .error ⟨.endInString, some (place + 1)⟩
      | e :: rest =>
        match escape? e with
        | some c => readString (place + 2) (c :: read) rest
        | none =>
          if e ≠ 0x75 then .error ⟨.invalidEscape, some (place + 2)⟩
          else
            match rest with
            | h₁ :: h₂ :: h₃ :: h₄ :: rest =>
              match hexUnit? h₁ h₂ h₃ h₄ with
              | none => .error ⟨.invalidEscape, some (place + 6)⟩
              | some high =>
                if isLowSurrogate high then .error ⟨.loneSurrogate, some (place + 6)⟩
                else if !isHighSurrogate high then
                  readString (place + 6) (pushCodePoint high read) rest
                else
                  match rest with
                  | [] => .error ⟨.endInString, some (place + 6)⟩
                  | [c] =>
                    .error (if c = 0x5C then ⟨.endInString, some (place + 7)⟩
                      else ⟨.shortHexEscape, some (place + 7)⟩)
                  | c :: u :: l₁ :: l₂ :: l₃ :: l₄ :: rest =>
                    if c ≠ 0x5C then .error ⟨.shortHexEscape, some (place + 7)⟩
                    else if u ≠ 0x75 then .error ⟨.shortHexEscape, some (place + 8)⟩
                    else
                      match hexUnit? l₁ l₂ l₃ l₄ with
                      | none => .error ⟨.invalidEscape, some (place + 12)⟩
                      | some low =>
                        if isLowSurrogate low then
                          readString (place + 12) (pushCodePoint (joinSurrogates high low) read)
                            rest
                        else .error ⟨.loneSurrogate, some (place + 12)⟩
                  | c :: u :: short =>
                    .error (if c ≠ 0x5C then ⟨.shortHexEscape, some (place + 7)⟩
                      else if u ≠ 0x75 then ⟨.shortHexEscape, some (place + 8)⟩
                      else ⟨.endInString, some (place + 8 + short.length)⟩)
            | short => .error ⟨.endInString, some (place + 2 + short.length)⟩

-- The place after the closing quote of a string nobody asks for.
def skipString (place : Nat) : Bytes → Except Fault Nat
  | [] => .error ⟨.endInString, some place⟩
  | b :: rest =>
    if b = 0x22 then .ok (place + 1)
    else if b < 0x20 then .error ⟨.controlCharacter, some place⟩
    else if b ≠ 0x5C then skipString (place + 1) rest
    else
      match rest with
      | [] => .error ⟨.endInString, some (place + 1)⟩
      | e :: rest =>
        if (escape? e).isSome then skipString (place + 2) rest
        else if e ≠ 0x75 then .error ⟨.invalidEscape, some (place + 2)⟩
        else
          match rest with
          | a :: b :: c :: d :: rest =>
            if (hexUnit? a b c d).isSome then skipString (place + 6) rest
            else .error ⟨.invalidEscape, some (place + 6)⟩
          | short => .error ⟨.endInString, some (place + 2 + short.length)⟩

-- A byte that belongs to no character is placed by what stands before it, where an escape counts as
-- the bytes it means.
def string (place : Nat) (rest : Bytes) : Scalar String where
  value := do
    let (bytes, _) ← readString place [] rest
    match Text.Utf8.decode bytes with
    | .ok cs => .ok (String.ofList cs)
    | .error f => .error ⟨.invalidCodePoint, some (place + f.index + 1)⟩
  skipped := skipString place rest

-- The lexeme that the byte `b` at `place` begins.
def first (place : Nat) (b : UInt8) (rest : Bytes) : Lexeme :=
  let mark (t : Token) : Lexeme := ⟨t, place, place + 1⟩
  let letters (w : Word) (expected : Bytes) : Lexeme :=
    ⟨.word w (misspelt (place + 1) expected rest), place, place + 1 + expected.length⟩
  if b = 0x7B then mark .openBrace
  else if b = 0x7D then mark .closeBrace
  else if b = 0x5B then mark .openBracket
  else if b = 0x5D then mark .closeBracket
  else if b = 0x2C then mark .comma
  else if b = 0x3A then mark .colon
  else if b = 0x22 then
    let s := string (place + 1) rest
    ⟨.string s, place, (s.skipped.toOption).getD (place + 1)⟩
  else if b = 0x2D ∨ isDigit b then
    let (value, skipped) := Numeral.read place (b :: rest)
    ⟨.number ⟨value, skipped⟩, place, skipped.toOption.getD (place + 1)⟩
  else if b = 0x6E then letters .null [0x75, 0x6C, 0x6C]
  else if b = 0x74 then letters (.boolean true) [0x72, 0x75, 0x65]
  else if b = 0x66 then letters (.boolean false) [0x61, 0x6C, 0x73, 0x65]
  else mark .other

-- Cuts from `place` on, where the first `covered` bytes still belong to the lexeme before.
def cut (place covered : Nat) : Bytes → List Lexeme
  | [] => []
  | b :: rest =>
    match covered with
    | covered + 1 => cut (place + 1) covered rest
    | 0 =>
      if isSpace b then cut (place + 1) 0 rest
      else
        let l := first place b rest
        l :: cut (place + 1) (l.stop - (place + 1)) rest

end Lexeme

def lexemes (text : Bytes) : List Lexeme :=
  Lexeme.cut 0 0 text

end ArtifactSync.Json
