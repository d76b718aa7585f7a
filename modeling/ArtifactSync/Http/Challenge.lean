import ArtifactSync.Text.Utf8

namespace ArtifactSync.Http

structure Challenge where
  scheme : String
  parameters : List (String × String) := []
  deriving DecidableEq, Repr

namespace Challenge

inductive Lexeme
  | word (cs : List Char)
  | quoted (cs : List Char)
  | equals
  | comma
  -- Nothing can be made of the rest.
  | broken
  deriving DecidableEq, Repr

def isWordCharacter (c : Char) : Bool :=
  c.isAlphanum || "!#$%&'*+-.^_\x60|~".toList.contains c

-- Reads on after the opening quote; a backslash takes its meaning from the next character.
def readQuoted (read : List Char) : List Char → Option (List Char × List Char)
  | [] => none
  | '"' :: rest => some (read.reverse, rest)
  | '\\' :: c :: rest => readQuoted (c :: read) rest
  | c :: rest => readQuoted (c :: read) rest

theorem length_readQuoted {read cs text rest : List Char}
    (h : readQuoted read cs = some (text, rest)) : rest.length < cs.length := by
  fun_induction readQuoted read cs with
  | case1 => simp at h
  | case2 =>
    simp only [Option.some.injEq, Prod.mk.injEq] at h
    simp [h.2]
  | case3 _ _ _ ih =>
    have := ih h
    simp only [List.length_cons]
    omega
  | case4 _ _ _ _ _ ih =>
    have := ih h
    simp only [List.length_cons]
    omega

def lexemes : List Char → List Lexeme
  | [] => []
  | c :: rest =>
    if c = ' ' ∨ c = '\t' then lexemes rest
    else if c = ',' then .comma :: lexemes rest
    else if c = '=' then .equals :: lexemes rest
    else if c = '"' then
      match _h : readQuoted [] rest with
      | some (text, rest) => .quoted text :: lexemes rest
      | none => [.broken]
    else if isWordCharacter c then
      .word (c :: rest.takeWhile isWordCharacter) :: lexemes (rest.dropWhile isWordCharacter)
    else [.broken]
termination_by cs => cs.length
decreasing_by
  all_goals simp only [List.length_cons]
  · omega
  · omega
  · omega
  · have := length_readQuoted _h
    omega
  · have := (List.dropWhile_suffix isWordCharacter (l := rest)).length_le
    omega

def withParameter (c : Challenge) (name value : List Char) : Challenge :=
  { c with parameters := c.parameters ++ [(String.ofList name, String.ofList value)] }

-- A word with a value belongs to the challenge before it, any other word begins a new one. What
-- cannot be read takes the challenge it stands in with it.
def collect : Option Challenge → List Lexeme → List Challenge
  | current, [] => current.toList
  | current, .comma :: rest => collect current rest
  | some c, .word name :: .equals :: .word value :: rest =>
    collect (some (c.withParameter name value)) rest
  | some c, .word name :: .equals :: .quoted value :: rest =>
    collect (some (c.withParameter name value)) rest
  -- A value with no challenge before it, or none behind the sign.
  | _, .word _ :: .equals :: _ => []
  | current, .word scheme :: rest =>
    current.toList ++ collect (some { scheme := String.ofList scheme }) rest
  | _, _ => []

def ofText (text : String) : List Challenge :=
  collect none (lexemes text.toList)

def sameLetters (a b : String) : Bool :=
  a.toLower = b.toLower

-- The last parameter of that name in whatever case.
def parameter? (c : Challenge) (name : String) : Option String :=
  (c.parameters.reverse.find? fun p => sameLetters p.1 name).map (·.2)

end Challenge

end ArtifactSync.Http
