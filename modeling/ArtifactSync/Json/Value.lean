import ArtifactSync.Json.Reader

namespace ArtifactSync.Json

-- The members of an object are kept as they come, repeated ones included.
inductive Value
  | null
  | boolean (b : Bool)
  | number (n : Number)
  | string (s : String)
  | list (items : List Value)
  | object (members : List (String × Value))
  deriving Repr

namespace Value

def readWithin : Nat → Reader Value
  | 0 => Reader.failNext .tooDeep
  | depth + 1 => do
    match ← Reader.peek with
    | none => Reader.failNext .endInValue
    | some l =>
      match l.token with
      | .word .null misspelt => Reader.acceptWord misspelt .null
      | .word (.boolean b) misspelt => Reader.acceptWord misspelt (.boolean b)
      | .number n => number <$> Reader.accept n.value
      | .string s => string <$> Reader.accept s.value
      | .openBracket =>
        let item (items : List Value) : Reader (List Value) :=
          return (← readWithin depth) :: items
        return .list (← Reader.bracketed .list (Reader.elements item [])).reverse
      | .openBrace =>
        let entry (k : String) (ms : List (String × Value)) : Reader (List (String × Value)) := do
          Reader.colon
          return (k, ← readWithin depth) :: ms
        return .object (← Reader.bracketed .object (Reader.members entry [])).reverse
      | _ => Reader.failNext .expectedValue

def reader : Reader Value :=
  readWithin maxDepth

def escape (c : Char) : List Char :=
  if c = '"' then ['\\', '"']
  else if c = '\\' then ['\\', '\\']
  else if c = '\x08' then ['\\', 'b']
  else if c = '\t' then ['\\', 't']
  else if c = '\n' then ['\\', 'n']
  else if c = '\x0c' then ['\\', 'f']
  else if c = '\r' then ['\\', 'r']
  else if c.toNat < 0x20 then '\\' :: 'u' :: '0' :: '0' :: Text.Hexadecimal.lowerPair c.toNat
  else [c]

def writeString (s : String) : String :=
  String.ofList ('"' :: (s.toList.flatMap escape ++ ['"']))

def writeNumber : Number → String
  | .natural n => toString n
  | .negative n => "-" ++ toString n
  | .float bits => Text.Shortest.text bits

mutual

def write : Value → String
  | null => "null"
  | boolean true => "true"
  | boolean false => "false"
  | number n => writeNumber n
  | string s => writeString s
  | list items => "[" ++ ",".intercalate (writeItems items) ++ "]"
  | object members => "\x7b" ++ ",".intercalate (writeMembers members) ++ "\x7d"

def writeItems : List Value → List String
  | [] => []
  | v :: rest => v.write :: writeItems rest

def writeMembers : List (String × Value) → List String
  | [] => []
  | (k, v) :: rest => (writeString k ++ ":" ++ v.write) :: writeMembers rest

end

-- An object of those members that are there.
def ofFields (fields : List (String × Option Value)) : Value :=
  .object (fields.filterMap fun (name, v) => v.map (name, ·))

def ofDict {α : Type} (f : α → Value) (d : Dict α) : Value :=
  .object (d.entries.map fun (k, a) => (k, f a))

def ofInt (n : Int) : Value :=
  .number (if n < 0 then .negative n.natAbs else .natural n.natAbs)

-- The last member of that name.
def member? (v : Value) (name : String) : Option Value :=
  match v with
  | object members => (members.reverse.find? (·.1 == name)).map (·.2)
  | _ => none

-- Leaves the other members as they are.
def withMember (v : Value) (name : String) (new : Value) : Value :=
  match v with
  | object members => object (members.filter (·.1 ≠ name) ++ [(name, new)])
  | v => v

mutual

-- Members are sorted by name, and of those with one name only the last is left.
def canonical : Value → Value
  | list items => list (canonicalItems items)
  | object members => object (Dict.ofList (canonicalMembers members)).entries
  | v => v

def canonicalItems : List Value → List Value
  | [] => []
  | v :: rest => v.canonical :: canonicalItems rest

def canonicalMembers : List (String × Value) → List (String × Value)
  | [] => []
  | (k, v) :: rest => (k, v.canonical) :: canonicalMembers rest

end

end Value

end ArtifactSync.Json
