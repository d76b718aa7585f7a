import ArtifactSync.Json.Record
import Mathlib.Control.Monad.Basic

namespace ArtifactSync.Json

-- What is open at a place of a text, the innermost first, and whether a key would be a key there.
structure Scope where
  opened : List Bracket := []
  keyed  : Bool := false

-- What is so after one more lexeme.
def Scope.after (p : Scope) : Token → Scope
  | .openBrace                  => ⟨.object :: p.opened, true⟩
  | .openBracket                => ⟨.list :: p.opened, false⟩
  | .closeBrace | .closeBracket => ⟨p.opened.tail, false⟩
  | .comma                      => ⟨p.opened, p.opened.head? = some .object⟩
  | _                           => ⟨p.opened, false⟩

-- Both say something, or neither does.
def AsEmpty (v v' : String) : Prop :=
  v.isEmpty = v'.isEmpty

-- Two strings with nothing wrong with either. That they are of one length is seen from the lexemes.
structure Scalar.Alike (s s' : Scalar String) : Prop where
  value   : ∃ v v', s.value = .ok v ∧ s'.value = .ok v' ∧ AsEmpty v v'
  skipped : s.skipped = s'.skipped

inductive Token.Alike (keyed : Bool) : Token → Token → Prop
  | same {t : Token} : Alike keyed t t
  | string {s s' : Scalar String} :
    (keyed = false) → s.Alike s' → Alike keyed (.string s) (.string s')

inductive Layout : Scope → List Lexeme → List Lexeme → Prop
  | nil {p : Scope} : Layout p [] []
  | cons {p : Scope} {t t' : Token} {start stop : Nat} {ls ls' : List Lexeme} :
    t.Alike p.keyed t' → Layout (p.after t) ls ls' →
    Layout p (⟨t, start, stop⟩ :: ls) (⟨t', start, stop⟩ :: ls')

-- The texts have their lexemes and their lines at the same places, and differ in nothing but string
-- values.
structure SameLayout (text text' : Bytes) : Prop where
  lines   : text.map isLineFeed = text'.map isLineFeed
  lexemes : Layout {} (lexemes text) (lexemes text')

deriving instance DecidableEq for Scalar, Token

instance {s s' : Scalar String} : Decidable (s.Alike s') :=
  match hv : s.value, hv' : s'.value with
  | .ok v, .ok v'             =>
    decidable_of_iff (v.isEmpty = v'.isEmpty ∧ s.skipped = s'.skipped) ⟨
      fun h => ⟨⟨v, v', hv, hv', h.1⟩, h.2⟩,
      fun h => ⟨by simpa [hv, hv', AsEmpty] using h.value, h.skipped⟩⟩
  | .error _, _ | .ok _, .error _ => isFalse fun h => by simpa [hv, hv'] using h.value

def Token.string? : Token → Option (Scalar String)
  | .string s => some s
  | _         => none

theorem Token.alike_iff {keyed : Bool} {t t' : Token} : t.Alike keyed t' ↔
    t = t' ∨ keyed = false ∧ ∃ s ∈ t.string?, ∃ s' ∈ t'.string?, s.Alike s' := by
  constructor
  case mp =>
    intro alike
    cases alike with
    | same            => exact .inl rfl
    | string keyed hs => exact .inr ⟨keyed, _, rfl, _, rfl, hs⟩
  case mpr =>
    intro h
    cases h with
    | inl same   => exact same ▸ .same
    | inr differ =>
      have ⟨keyed, s, hs, s', hs', alike⟩ := differ
      cases t <;> cases hs
      cases t' <;> cases hs'
      exact .string keyed alike

instance {keyed : Bool} {t t' : Token} : Decidable (t.Alike keyed t') :=
  decidable_of_iff _ Token.alike_iff.symm

def Layout.decide (p : Scope) : (ls ls' : List Lexeme) → Decidable (Layout p ls ls')
  | [], []                                             => isTrue .nil
  | [], _ :: _ | _ :: _, []                            => isFalse nofun
  | ⟨t, start, stop⟩ :: ls, ⟨t', start', stop'⟩ :: ls' =>
    have := Layout.decide (p.after t) ls ls'
    decidable_of_iff
      (start = start' ∧ stop = stop' ∧ t.Alike p.keyed t' ∧ Layout (p.after t) ls ls')
      ⟨fun ⟨starts, stops, alike, layout⟩ => starts ▸ stops ▸ .cons alike layout,
        fun | .cons alike layout => ⟨rfl, rfl, alike, layout⟩⟩

instance {p : Scope} {ls ls' : List Lexeme} : Decidable (Layout p ls ls') :=
  Layout.decide p ls ls'

instance {text text' : Bytes} : Decidable (SameLayout text text') :=
  decidable_of_iff (_ ∧ _) ⟨fun h => ⟨h.1, h.2⟩, fun h => ⟨h.lines, h.lexemes⟩⟩

-- Two readers at the same place.
inductive At (p : Scope) : Cursor → Cursor → Prop
  | mk {ls ls' : List Lexeme} {room size : Nat} :
    Layout p ls ls' → At p ⟨ls, room, size⟩ ⟨ls', room, size⟩

-- The same is wrong, but for a string that is quoted.
inductive Fault.Alike : Fault → Fault → Prop
  | same {f : Fault} : Alike f f
  | quoted {v v' wanted : String} {place : Option Nat} :
    Alike ⟨.wrongType (.string v) wanted, place⟩ ⟨.wrongType (.string v') wanted, place⟩

namespace Reader

variable {α α' β β' : Type} {p q : Scope} {R : α → α' → Scope → Prop}
  {T : β → β' → Scope → Prop} {r : Reader α} {r' : Reader α'} {c d : Cursor}

-- Both readers get to the same place with related results, or both fail alike.
inductive Matches (R : α → α' → Scope → Prop) :
    EStateM.Result Fault Cursor α → EStateM.Result Fault Cursor α' → Prop
  | ok {a : α} {a' : α'} {c d : Cursor} {q : Scope} :
    R a a' q → At q c d → Matches R (.ok a c) (.ok a' d)
  | error {f f' : Fault} {c d : Cursor} {q : Scope} :
    f.Alike f' → At q c d → Matches R (.error f c) (.error f' d)

-- So it is wherever they stand at such a place.
def Agree (p : Scope) (R : α → α' → Scope → Prop) (r : Reader α) (r' : Reader α') : Prop :=
  ∀ c d, At p c d → Matches R (r c) (r' d)

theorem Matches.mono {T : α → α' → Scope → Prop} {x : EStateM.Result Fault Cursor α}
    {x' : EStateM.Result Fault Cursor α'} (m : Matches R x x')
    (h : ∀ a a' q, R a a' q → T a a' q) : Matches T x x' := by
  cases m with
  | ok hr at_    => exact .ok (h _ _ _ hr) at_
  | error hf at_ => exact .error hf at_

theorem Agree.mono {T : α → α' → Scope → Prop} (h : Agree p R r r')
    (rt : ∀ a a' q, R a a' q → T a a' q) : Agree p T r r' :=
  fun _ _ at_ => (h _ _ at_).mono rt

theorem agree_pure {a : α} {a' : α'} (h : R a a' p) : Agree p R (pure a) (pure a') :=
  fun _ _ at_ => .ok h at_

theorem agree_bind {f : α → Reader β} {f' : α' → Reader β'} (h : Agree p R r r')
    (hf : ∀ a a' q, R a a' q → Agree q T (f a) (f' a')) : Agree p T (r >>= f) (r' >>= f') := by
  intro c d at_
  have m := h c d at_
  change Matches T (EStateM.bind r f c) (EStateM.bind r' f' d)
  unfold EStateM.bind
  revert m
  generalize r c = x
  generalize r' d = x'
  intro m
  cases m with
  | ok hr at_    => exact hf _ _ _ hr _ _ at_
  | error hf at_ => exact .error hf at_

theorem agree_throw {f f' : Fault} (h : f.Alike f') :
    Agree p R (throw f : Reader α) (throw f' : Reader α') :=
  fun _ _ at_ => .error h at_

theorem agree_fail {cause : Cause} :
    Agree p R (fail cause : Reader α) (fail cause : Reader α') :=
  agree_throw .same

theorem agree_failNext {cause : Cause} :
    Agree p R (failNext cause : Reader α) (failNext cause : Reader α') := by
  intro c d at_
  cases at_ with
  | mk layout =>
    cases layout with
    | nil           => exact .error .same (.mk (.nil (p := p)))
    | cons alike ls => exact .error .same (.mk (.cons alike ls))

-- Both have the same ahead of them, or two strings.
theorem agree_peek {f : Option Lexeme → Reader β} {f' : Option Lexeme → Reader β'}
    (nil : ∀ {room size}, At p ⟨[], room, size⟩ ⟨[], room, size⟩ →
      Matches T (f none ⟨[], room, size⟩) (f' none ⟨[], room, size⟩))
    (same : ∀ {t start stop ls ls' room size},
      At p ⟨⟨t, start, stop⟩ :: ls, room, size⟩ ⟨⟨t, start, stop⟩ :: ls', room, size⟩ →
      Layout (p.after t) ls ls' →
      Matches T (f (some ⟨t, start, stop⟩) ⟨⟨t, start, stop⟩ :: ls, room, size⟩)
        (f' (some ⟨t, start, stop⟩) ⟨⟨t, start, stop⟩ :: ls', room, size⟩))
    (string : ∀ {v v' skipped start stop ls ls' room size},
      At p ⟨⟨.string ⟨.ok v, skipped⟩, start, stop⟩ :: ls, room, size⟩
        ⟨⟨.string ⟨.ok v', skipped⟩, start, stop⟩ :: ls', room, size⟩ →
      Layout ⟨p.opened, false⟩ ls ls' → p.keyed = false → AsEmpty v v' →
      Matches T
        (f (some ⟨.string ⟨.ok v, skipped⟩, start, stop⟩)
          ⟨⟨.string ⟨.ok v, skipped⟩, start, stop⟩ :: ls, room, size⟩)
        (f' (some ⟨.string ⟨.ok v', skipped⟩, start, stop⟩)
          ⟨⟨.string ⟨.ok v', skipped⟩, start, stop⟩ :: ls', room, size⟩)) :
    Agree p T (peek >>= f) (peek >>= f') := by
  intro c d here
  have at_ := here
  cases at_ with
  | mk layout =>
    cases layout with
    | nil               => exact nil here
    | cons alike layout =>
      cases alike with
      | same                     => exact same here layout
      | @string s s' keyed alike =>
        cases s
        cases s'
        have ⟨⟨_, _, hv, hv', empty⟩, skipped⟩ := alike
        cases hv
        cases hv'
        cases skipped
        exact string here layout keyed empty

theorem agree_refuse {wanted : String} :
    Agree p R (refuse wanted : Reader α) (refuse wanted : Reader α') := by
  refine agree_peek ?nil ?same ?string
  case nil    => exact agree_failNext _ _
  case string => exact fun at_ _ _ _ => .error .quoted at_
  case same   =>
    intro t _ _ _ _ _ _ at_ _
    cases t with
    | word w misspelt => cases misspelt <;> exact .error .same at_
    | number n        => cases n with | mk value _ => cases value <;> exact .error .same at_
    | string s        => cases s with | mk value _ => cases value <;> exact .error .same at_
    | openBrace       => exact .error .same at_
    | openBracket     => exact .error .same at_
    | _               => exact agree_failNext _ _ at_

-- A reader of a value ends where it began, as to what is open.
def ReadsAlike (Q : α → α' → Prop) (r : Reader α) (r' : Reader α') : Prop :=
  ∀ opened, Agree ⟨opened, false⟩ (fun a a' q => Q a a' ∧ q = ⟨opened, false⟩) r r'

theorem readsAlike_pure {Q : α → α' → Prop} {a : α} {a' : α'} (h : Q a a') :
    ReadsAlike Q (pure a) (pure a') :=
  fun _ => agree_pure ⟨h, rfl⟩

theorem readsAlike_bind {Q : α → α' → Prop} {T : β → β' → Prop} {f : α → Reader β}
    {f' : α' → Reader β'} (h : ReadsAlike Q r r')
    (hf : ∀ a a', Q a a' → ReadsAlike T (f a) (f' a')) : ReadsAlike T (r >>= f) (r' >>= f') := by
  intro opened
  refine agree_bind (h opened) fun a a' q hr => ?_
  have ⟨related, hq⟩ := hr
  subst hq
  exact hf a a' related opened

theorem readsAlike_fail {Q : α → α' → Prop} {cause : Cause} :
    ReadsAlike Q (fail cause) (fail cause) :=
  fun _ => agree_fail

theorem readsAlike_stringFor {wanted : String} :
    ReadsAlike AsEmpty (stringFor wanted) (stringFor wanted) := by
  intro opened
  refine agree_peek ?nil ?same ?string
  case nil    => exact agree_refuse _ _
  case string => exact fun _ layout _ empty => .ok ⟨empty, rfl⟩ (.mk layout)
  case same   =>
    intro t _ _ _ _ _ _ at_ layout
    cases t with
    | string s =>
      cases s with
      | mk value _ =>
        cases value with
        | ok _    => exact .ok ⟨rfl, rfl⟩ (.mk layout)
        | error _ => exact .error .same at_
    | _        => exact agree_refuse _ _ at_

theorem readsAlike_optional {Q : α → α' → Prop} (h : ReadsAlike Q r r') :
    ReadsAlike (Option.Rel Q) (optional r) (optional r') := by
  intro opened
  have present : ReadsAlike (Option.Rel Q) (some <$> r) (some <$> r') := by
    simp only [map_eq_pure_bind]
    exact readsAlike_bind h fun a a' related => readsAlike_pure (.some related)
  refine agree_peek ?nil ?same ?string
  case nil    => exact present _ _ _
  case string => exact fun at_ _ _ _ => present _ _ _ at_
  case same   =>
    intro t _ _ _ _ _ _ at_ layout
    cases t with
    | word w misspelt =>
      cases w with
      | null      =>
        cases misspelt with
        | none   => exact .ok ⟨.none, rfl⟩ (.mk layout)
        | some _ => exact .error .same at_
      | boolean _ => exact present _ _ _ at_
    | _               => exact present _ _ _ at_

theorem readsAlike_colon : ReadsAlike (fun _ _ => True) colon colon := by
  intro opened
  refine agree_peek ?nil ?same ?string
  case nil    => exact agree_failNext _ _
  case string => exact fun at_ _ _ _ => agree_failNext _ _ at_
  case same   =>
    intro t _ _ _ _ _ _ at_ layout
    cases t with
    | colon => exact .ok ⟨trivial, rfl⟩ (.mk layout)
    | _     => exact agree_failNext _ _ at_

-- Keys are the same, as where one is due no two strings may differ.
theorem agree_key (keyed : p.keyed = true) :
    Agree p (fun k k' q => k = k' ∧ q = ⟨p.opened, false⟩) key key := by
  refine agree_peek ?nil ?same ?string
  case nil    => exact agree_failNext _ _
  case string => exact fun _ _ unkeyed => by cases keyed.symm.trans unkeyed
  case same   =>
    intro t _ _ _ _ _ _ at_ layout
    cases t with
    | string s =>
      cases s with
      | mk value _ =>
        cases value with
        | ok _    => exact .ok ⟨rfl, rfl⟩ (.mk layout)
        | error _ => exact .error .same at_
    | _        => exact agree_failNext _ _ at_

-- The next key of an object, or the end of it.
theorem agree_nextKey? {opened : List Bracket} {first : Bool} :
    Agree ⟨.object :: opened, first⟩
      (fun k k' q => k = k' ∧ q.opened = .object :: opened ∧ (k.isSome → q.keyed = false))
      (nextKey? first) (nextKey? first) := by
  have named : Agree ⟨.object :: opened, true⟩
      (fun k k' q => k = k' ∧ q.opened = .object :: opened ∧ (k.isSome → q.keyed = false))
      key key :=
    (agree_key rfl).mono fun k k' q h => ⟨h.1, by rw [h.2], fun _ => by rw [h.2]⟩
  refine agree_peek ?nil ?same ?string
  case nil    => exact agree_failNext _ _
  case string =>
    intro _ _ _ _ _ _ _ _ _ at_ _ unkeyed _
    cases unkeyed
    exact agree_failNext _ _ at_
  case same   =>
    intro t _ _ _ _ _ _ at_ layout
    cases t with
    | closeBrace => exact .ok ⟨rfl, rfl, nofun⟩ at_
    | comma      =>
      cases first with
      | true  => exact named _ _ at_
      | false => exact named _ _ (.mk layout)
    | _          =>
      cases first with
      | true  => exact named _ _ at_
      | false => exact agree_failNext _ _ at_

-- What follows a comma in a list.
def afterComma : Reader Bool := do
  match ← peek with
  | some ⟨.closeBracket, _, _⟩ => failNext .trailingComma
  | some _ => return true
  | none => failNext .endInValue

theorem agree_afterComma :
    Agree p (fun more more' q => more = more' ∧ q = p) afterComma afterComma := by
  refine agree_peek ?nil ?same ?string
  case nil    => exact agree_failNext _ _
  case string => exact fun at_ _ _ _ => .ok ⟨rfl, rfl⟩ at_
  case same   =>
    intro t _ _ _ _ _ _ at_ _
    cases t with
    | closeBracket => exact agree_failNext _ _ at_
    | _            => exact .ok ⟨rfl, rfl⟩ at_

-- Whether there is another element, or the list ends.
theorem agree_nextElement? {opened : List Bracket} {first : Bool} :
    Agree ⟨.list :: opened, false⟩ (fun more more' q => more = more' ∧ q = ⟨.list :: opened, false⟩)
      (nextElement? first) (nextElement? first) := by
  refine agree_peek ?nil ?same ?string
  case nil    => exact agree_failNext _ _
  case string =>
    intro _ _ _ _ _ _ _ _ _ at_ _ _ _
    cases first with
    | true  => exact .ok ⟨rfl, rfl⟩ at_
    | false => exact agree_failNext _ _ at_
  case same   =>
    intro t _ _ _ _ _ _ at_ layout
    cases t with
    | closeBracket => exact .ok ⟨rfl, rfl⟩ at_
    | comma        =>
      cases first with
      | true  => exact .ok ⟨rfl, rfl⟩ at_
      | false => exact agree_afterComma _ _ (.mk layout)
    | _            =>
      cases first with
      | true  => exact .ok ⟨rfl, rfl⟩ at_
      | false => exact agree_failNext _ _ at_

theorem Layout.length_eq {ls ls' : List Lexeme} (layout : Layout p ls ls') :
    ls.length = ls'.length := by
  induction layout with
  | nil         => rfl
  | cons _ _ hi => exact congrArg (· + 1) hi

theorem agree_rounds : Agree p (fun n n' q => n = n' ∧ q = p) rounds rounds := by
  intro c d at_
  have here := at_
  cases at_ with
  | mk layout => exact .ok ⟨congrArg (· + 1) (Layout.length_eq layout), rfl⟩ here

-- The members of an object, from the brace on that opens it to the one that closes it.
theorem agree_members {entry entry' : String → β → Reader β} {Q : β → β → Prop} {b b' : β}
    {opened : List Bracket} (h : ∀ k b b', Q b b' → ReadsAlike Q (entry k b) (entry' k b'))
    (hb : Q b b') :
    Agree ⟨.object :: opened, true⟩ (fun b b' q => Q b b' ∧ q.opened = .object :: opened)
      (members entry b) (members entry' b') := by
  have go (n first b b') (hb : Q b b') : Agree ⟨.object :: opened, first⟩
      (fun b b' q => Q b b' ∧ q.opened = .object :: opened)
      (members.go entry n first b) (members.go entry' n first b') := by
    induction n generalizing first b b' with
    | zero      => exact agree_pure ⟨hb, rfl⟩
    | succ n hi =>
      refine agree_bind agree_nextKey? fun k k' q hk => ?_
      have ⟨same, inside, unkeyed⟩ := hk
      subst same
      cases k with
      | none   => exact agree_pure ⟨hb, inside⟩
      | some k =>
        cases q
        cases inside
        cases unkeyed rfl
        refine agree_bind (h k b b' hb _) fun b b' q related => ?_
        cases related.2
        exact hi _ _ _ related.1
  refine agree_bind agree_rounds fun n n' q hn => ?_
  have ⟨same, hq⟩ := hn
  subst same
  subst hq
  exact go _ _ _ _ hb

theorem here_eq (at_ : At p c d) : c.here = d.here := by
  cases at_ with
  | mk layout => cases layout <;> rfl

theorem afterNext_eq (at_ : At p c d) : c.afterNext = d.afterNext := by
  cases at_ with
  | mk layout => cases layout <;> rfl

theorem afterBroken_eq {b : Bracket} (at_ : At p c d) : afterBroken b c = afterBroken b d := by
  cases at_ with
  | mk layout =>
    cases layout with
    | nil                               => cases b <;> rfl
    | @cons _ t _ _ _ _ _ alike layout =>
      cases alike with
      | string => cases b <;> rfl
      | same   =>
        cases b with
        | object => cases t <;> rfl
        | list   =>
          cases t with
          | comma => exact here_eq (p := p.after .comma) (.mk layout)
          | _     => rfl

def closeAfterComma : Reader Unit := do
  match ← peek with
  | some ⟨.closeBracket, _, _⟩ => failNext .trailingComma
  | _ => failNext .trailingCharacters

theorem agree_closeAfterComma {T : Unit → Unit → Scope → Prop} :
    Agree p T closeAfterComma closeAfterComma := by
  refine agree_peek ?nil ?same ?string
  case nil    => exact agree_failNext _ _
  case string => exact fun at_ _ _ _ => agree_failNext _ _ at_
  case same   =>
    intro t _ _ _ _ _ _ at_ _
    cases t <;> exact agree_failNext _ _ at_

theorem agree_close {b : Bracket} {opened : List Bracket} {keyed : Bool} :
    Agree ⟨b :: opened, keyed⟩ (fun _ _ q => q = ⟨opened, false⟩) (close b) (close b) := by
  refine agree_peek ?nil ?same ?string
  case nil    => exact agree_failNext _ _
  case string =>
    intro _ _ _ _ _ _ _ _ _ at_ _ _ _
    cases b <;> exact agree_failNext _ _ at_
  case same   =>
    intro t _ _ _ _ _ _ at_ layout
    cases b with
    | object =>
      cases t with
      | closeBrace => exact .ok rfl (.mk layout)
      | _          => exact agree_failNext _ _ at_
    | list   =>
      cases t with
      | closeBracket => exact .ok rfl (.mk layout)
      | comma        => exact agree_closeAfterComma _ _ (.mk layout)
      | _            => exact agree_failNext _ _ at_

-- A list or an object that is next, if what is in it is read alike.
theorem matches_bracketed {b : Bracket} {opened : List Bracket} {Q : α → α' → Prop} {t : Token}
    {start stop room size : Nat} {ls ls' : List Lexeme}
    (body : Agree ((⟨opened, false⟩ : Scope).after t)
      (fun a a' q => Q a a' ∧ q.opened = b :: opened) r r')
    (layout : Layout ((⟨opened, false⟩ : Scope).after t) ls ls') :
    Matches (fun a a' q => Q a a' ∧ q = ⟨opened, false⟩)
      (bracketed b r ⟨⟨t, start, stop⟩ :: ls, room, size⟩)
      (bracketed b r' ⟨⟨t, start, stop⟩ :: ls', room, size⟩) := by
  have here : At ⟨opened, false⟩ ⟨⟨t, start, stop⟩ :: ls, room, size⟩
      ⟨⟨t, start, stop⟩ :: ls', room, size⟩ := .mk (.cons .same layout)
  unfold bracketed
  dsimp only [List.tail_cons]
  split
  case isTrue  => exact .error .same here
  case isFalse =>
    have inner : At _ ⟨ls, room - 1, size⟩ ⟨ls', room - 1, size⟩ := .mk layout
    have m := body _ _ inner
    revert m
    generalize r ⟨ls, room - 1, size⟩ = x
    generalize r' ⟨ls', room - 1, size⟩ = x'
    intro m
    cases m with
    | @ok _ _ _ _ q hr at_ =>
      have ⟨hq, inside⟩ := hr
      cases q
      cases inside
      cases at_ with
      | mk layout =>
        exact agree_bind agree_close (fun _ _ _ hq' => agree_pure ⟨hq, hq'⟩) _ _ (.mk layout)
    | @error f _ _ _ _ hf at_ =>
      cases hf with
      | same           =>
        cases f with
        | mk cause place =>
          cases place with
          | some _ => exact .error .same at_
          | none   =>
            dsimp only
            rw [afterBroken_eq at_]
            exact .error .same at_
      | @quoted _ _ _ place =>
        cases place with
        | some _ => exact .error .quoted at_
        | none   =>
          dsimp only
          rw [afterBroken_eq at_]
          exact .error .quoted at_

end Reader

end ArtifactSync.Json
