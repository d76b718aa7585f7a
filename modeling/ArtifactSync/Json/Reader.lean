import ArtifactSync.Dict
import ArtifactSync.Json.Lexeme
import ArtifactSync.Text.Shortest

namespace ArtifactSync.Json

-- What lies ahead, how many more brackets may be opened, and how long the text is.
structure Cursor where
  ahead : List Lexeme
  room : Nat
  size : Nat

-- How deep lists and objects may lie in each other.
def maxDepth : Nat := 128

namespace Cursor

def ofText (text : Bytes) : Cursor :=
  ⟨lexemes text, maxDepth, text.length⟩

def here (c : Cursor) : Nat :=
  match c.ahead with
  | [] => c.size
  | l :: _ => l.start

-- Just after the next byte, or the end.
def afterNext (c : Cursor) : Nat :=
  match c.ahead with
  | [] => c.size
  | l :: _ => l.start + 1

end Cursor

inductive Bracket
  | list
  | object
  deriving DecidableEq

def Bracket.closes : Bracket → Token → Bool
  | .list, .closeBracket => true
  | .object, .closeBrace => true
  | _, _ => false

def Bracket.endCause : Bracket → Cause
  | .list => .endInList
  | .object => .endInObject

def Bracket.wantComma : Bracket → Cause
  | .list => .expectedCommaOrBracket
  | .object => .expectedCommaOrBrace

def Word.found : Word → Found
  | .null => .null
  | .boolean b => .boolean b

def Number.found : Number → Found
  | .natural n => .integer n
  | .negative n => .integer (-n)
  | .float bits => .float (Text.Shortest.text bits)

abbrev Reader := EStateM Fault Cursor

namespace Reader

variable {α σ : Type}

def peek : Reader (Option Lexeme) :=
  return (← get).ahead.head?

def advance : Reader Unit :=
  modify fun c => { c with ahead := c.ahead.tail }

def failNext (cause : Cause) : Reader α := do
  throw ⟨cause, some (← get).afterNext⟩

-- Fails without a place of its own.
def fail (cause : Cause) : Reader α :=
  throw ⟨cause, none⟩

-- Passes the next lexeme, which holds `value`.
def accept (value : Except Fault α) : Reader α :=
  match value with
  | .ok a => do
    advance
    return a
  | .error f => throw f

def acceptWord (misspelt : Option Fault) (a : α) : Reader α :=
  accept (match misspelt with | none => .ok a | some f => .error f)

-- Refuses what comes next, which is not the `wanted` thing.
def refuse (wanted : String) : Reader α := do
  match ← peek with
  | none => failNext .endInValue
  | some l =>
    let wrong (found : Found) : Reader α := throw ⟨.wrongType found wanted, some l.stop⟩
    match l.token with
    | .word _ (some f) => throw f
    | .word w none => wrong w.found
    | .number n =>
      match n.value with
      | .ok n => wrong n.found
      | .error f => throw f
    | .string s =>
      match s.value with
      | .ok s => wrong (.string s)
      | .error f => throw f
    | .openBracket => throw ⟨.wrongType .sequence wanted, some l.start⟩
    | .openBrace => throw ⟨.wrongType .map wanted, some l.start⟩
    | _ => failNext .expectedValue

def stringFor (wanted : String) : Reader String := do
  match ← peek with
  | some ⟨.string s, _, _⟩ => accept s.value
  | _ => refuse wanted

def string : Reader String :=
  stringFor "a string"

-- A string that `f` understands; the place of a failure is just after the string.
def stringWith (wanted : String) (f : String → Except Cause α) : Reader α := do
  match ← peek with
  | some ⟨.string s, _, stop⟩ =>
    match f (← accept s.value) with
    | .ok a => return a
    | .error cause => throw ⟨cause, some stop⟩
  | _ => refuse wanted

def boolean : Reader Bool := do
  match ← peek with
  | some ⟨.word (.boolean b) misspelt, _, _⟩ => acceptWord misspelt b
  | _ => refuse "a boolean"

-- A whole number from `low` on and below `bound`.
def integer (wanted : String) (low bound : Int) : Reader Int := do
  match ← peek with
  | some ⟨.number n, _, stop⟩ =>
    let within (n : Int) : Reader Int :=
      if low ≤ n ∧ n < bound then return n
      else throw ⟨.wrongValue (.integer n) wanted, some stop⟩
    match ← accept n.value with
    | .natural n => within n
    | .negative n => within (-n)
    | .float bits => throw ⟨.wrongType (Number.float bits).found wanted, some stop⟩
  | _ => refuse wanted

def optional (r : Reader α) : Reader (Option α) := do
  match ← peek with
  | some ⟨.word .null misspelt, _, _⟩ => acceptWord misspelt none
  | _ => some <$> r

-- Where a list or object ends whose reading went wrong before its end.
def afterBroken (b : Bracket) (c : Cursor) : Nat :=
  match b, c.ahead with
  | .list, ⟨.comma, _, _⟩ :: rest => { c with ahead := rest }.here
  | b, l :: _ => if b.closes l.token then l.stop else l.start
  | _, [] => c.size

def close (b : Bracket) : Reader Unit := do
  match ← peek with
  | none => failNext b.endCause
  | some l =>
    if b.closes l.token then advance
    else
      match b, l.token with
      | .object, .comma => failNext .trailingComma
      | .list, .comma =>
        advance
        match ← peek with
        -- The comma has been passed, so what comes after it is at fault.
        | some ⟨.closeBracket, _, _⟩ => failNext .trailingComma
        | _ => failNext .trailingCharacters
      | _, _ => failNext .trailingCharacters

-- Reads a list or an object whose opening bracket comes next.
def bracketed (b : Bracket) (body : Reader α) : Reader α := fun c =>
  if c.room ≤ 1 then .error ⟨.tooDeep, some c.afterNext⟩ c
  else
    match body { c with ahead := c.ahead.tail, room := c.room - 1 } with
    | .ok a inner => (close b *> pure a) { inner with room := c.room }
    | .error f inner =>
      match f.place with
      | some _ => .error f inner
      -- The list or object is read to its end as far as it goes before the fault is placed.
      | none => .error ⟨f.cause, some (afterBroken b inner)⟩ inner

def colon : Reader Unit := do
  match ← peek with
  | some ⟨.colon, _, _⟩ => advance
  | some _ => failNext .expectedColon
  | none => failNext .endInObject

def key : Reader (Option String) := do
  match ← peek with
  | none => failNext .endInValue
  | some ⟨.string s, _, _⟩ => some <$> accept s.value
  | some ⟨.closeBrace, _, _⟩ => failNext .trailingComma
  | some _ => failNext .keyNotString

-- The next key, if the object does not end here.
def nextKey? (first : Bool) : Reader (Option String) := do
  match ← peek with
  | none => failNext .endInObject
  | some ⟨.closeBrace, _, _⟩ => return none
  | some ⟨.comma, _, _⟩ =>
    if first then key
    else
      advance
      key
  | some _ => if first then key else failNext .expectedCommaOrBrace

-- Whether the list has another element.
def nextElement? (first : Bool) : Reader Bool := do
  match ← peek with
  | none => failNext .endInList
  | some ⟨.closeBracket, _, _⟩ => return false
  | some ⟨.comma, _, _⟩ =>
    if first then return true
    else
      advance
      match ← peek with
      | some ⟨.closeBracket, _, _⟩ => failNext .trailingComma
      | some _ => return true
      | none => failNext .endInValue
  | some _ => if first then return true else failNext .expectedCommaOrBracket

-- One more than the lexemes ahead: enough rounds for a loop that passes one in each.
def rounds : Reader Nat :=
  return (← get).ahead.length + 1

-- Folds the members of an object. `entry` is called with the key passed and the colon not.
def members (entry : String → σ → Reader σ) (s : σ) : Reader σ := do
  go (← rounds) true s
where
  go : Nat → Bool → σ → Reader σ
    | 0, _, s => return s
    | n + 1, first, s => do
      match ← nextKey? first with
      | none => return s
      | some k => go n false (← entry k s)

-- Folds the elements of a list.
def elements (item : σ → Reader σ) (s : σ) : Reader σ := do
  go (← rounds) true s
where
  go : Nat → Bool → σ → Reader σ
    | 0, _, s => return s
    | n + 1, first, s => do
      if ← nextElement? first then go n false (← item s) else return s

def object (wanted : String) (entry : String → σ → Reader σ) (s : σ) : Reader σ := do
  match ← peek with
  | some ⟨.openBrace, _, _⟩ => bracketed .object (members entry s)
  | _ => refuse wanted

def list (item : Reader α) : Reader (List α) := do
  match ← peek with
  | some ⟨.openBracket, _, _⟩ =>
    List.reverse <$> bracketed .list (elements (fun s => return (← item) :: s) [])
  | _ => refuse "a sequence"

-- An object of whatever keys. Of two members of one name the later one stays.
def dict (item : Reader α) : Reader (Dict α) :=
  object "a map" (fun k d => do
    colon
    return d.insert k (← item)) ∅

-- What must come next while a value is being skipped.
inductive Wanted
  | value
  | first
  | more
  | key
  | colon

def placedAfter (l : Lexeme) (cause : Cause) : Fault :=
  ⟨cause, some (l.start + 1)⟩

def skipInto (open_ : List Bracket) (l : Lexeme) : Except Fault (Wanted × List Bracket) :=
  match l.token with
  | .openBrace => .ok (.first, .object :: open_)
  | .openBracket => .ok (.first, .list :: open_)
  | .word _ none => .ok (.more, open_)
  | .word _ (some f) => .error f
  | .number n => n.skipped.map fun _ => (.more, open_)
  | .string s => s.skipped.map fun _ => (.more, open_)
  | _ => .error (placedAfter l .expectedValue)

def skipKey (open_ : List Bracket) (l : Lexeme) : Except Fault (Wanted × List Bracket) :=
  match l.token with
  | .string s => s.skipped.map fun _ => (.colon, open_)
  | _ => .error (placedAfter l .keyNotString)

def skipStep (l : Lexeme) : Wanted → List Bracket → Except Fault (Wanted × List Bracket)
  | .value, open_ => skipInto open_ l
  | .first, b :: open_ =>
    if b.closes l.token then .ok (.more, open_)
    else
      match b with
      | .list => skipInto (b :: open_) l
      | .object => skipKey (b :: open_) l
  | .more, b :: open_ =>
    match l.token, b with
    | .comma, .list => .ok (.value, b :: open_)
    | .comma, .object => .ok (.key, b :: open_)
    | t, b => if b.closes t then .ok (.more, open_) else .error (placedAfter l b.wantComma)
  | .key, open_ => skipKey open_ l
  | .colon, open_ =>
    match l.token with
    | .colon => .ok (.value, open_)
    | _ => .error (placedAfter l .expectedColon)
  | _, [] => .ok (.more, [])

def skipEnd : Wanted → List Bracket → Cause
  | .value, _ => .endInValue
  | _, b :: _ => b.endCause
  | _, [] => .endInValue

def skipFrom (size : Nat) : Wanted → List Bracket → List Lexeme → Except Fault (List Lexeme)
  | w, open_, [] => .error ⟨skipEnd w open_, some size⟩
  | w, open_, l :: rest => do
    match ← skipStep l w open_ with
    | (.more, []) => return rest
    | (w, open_) => skipFrom size w open_ rest

-- Passes a value of whatever kind. No depth is too deep for it.
def skip : Reader Unit := do
  let c ← get
  match skipFrom c.size .value [] c.ahead with
  | .ok rest => set { c with ahead := rest }
  | .error f => throw f

end Reader

-- A fault and its line and column, both counted from one and in bytes.
structure Error where
  cause : Cause
  position : Option (Nat × Nat)
  deriving Repr, DecidableEq

def Error.message (e : Error) : String :=
  match e.position with
  | none => e.cause.message
  | some (line, column) => s!"{e.cause.message} at line {line} column {column}"

def isLineFeed (b : UInt8) : Bool :=
  b = 0x0A

-- The column is the number of bytes since the last line feed before `place`.
def positionOf (text : Bytes) (place : Nat) : Nat × Nat :=
  let before := text.take place
  (1 + before.countP isLineFeed, (before.reverse.takeWhile (!isLineFeed ·)).length)

def Fault.locate (f : Fault) (text : Bytes) : Error :=
  ⟨f.cause, f.place.map (positionOf text)⟩

-- Reads a text that holds one value and nothing else.
def read {α : Type} (r : Reader α) (text : Bytes) : Except Error α :=
  match r (Cursor.ofText text) with
  | .error f _ => .error (f.locate text)
  | .ok a c =>
    match c.ahead with
    | [] => .ok a
    | _ :: _ => .error (Fault.locate ⟨.trailingCharacters, some c.afterNext⟩ text)

end ArtifactSync.Json
