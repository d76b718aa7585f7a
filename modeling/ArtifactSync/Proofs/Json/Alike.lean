import ArtifactSync.Proofs.Json.Skip

namespace ArtifactSync

-- The keys are the same, and the values related.
def Dict.Rel {α : Type} (Q : α → α → Prop) (d d' : Dict α) : Prop :=
  ∀ k, Option.Rel Q (d.find? k) (d'.find? k)

namespace Json

-- Either both give related values, or both fail with related faults.
inductive Both {ε α α' : Type} (E : ε → ε → Prop) (Q : α → α' → Prop) :
    Except ε α → Except ε α' → Prop
  | ok {a : α} {a' : α'} : Q a a' → Both E Q (.ok a) (.ok a')
  | error {e e' : ε} : E e e' → Both E Q (.error e) (.error e')

-- The same is wrong at the same place, but for a string that is quoted.
inductive Error.Alike : Error → Error → Prop
  | same {e : Error} : Alike e e
  | quoted {v v' wanted : String} {position : Option (Nat × Nat)} :
    Alike ⟨.wrongType (.string v) wanted, position⟩ ⟨.wrongType (.string v') wanted, position⟩

variable {α α' σ : Type} {text text' : Bytes} {Q : α → α' → Prop} {r : Reader α} {r' : Reader α'}

theorem positionOf_eq (lines : text.map isLineFeed = text'.map isLineFeed) (place : Nat) :
    positionOf text place = positionOf text' place := by
  have counted (bs : Bytes) : (bs.take place).countP isLineFeed =
      ((bs.map isLineFeed).take place).countP id := by
    rw [← List.map_take, List.countP_map]
    rfl
  have passed (bs : Bytes) : ((bs.take place).reverse.takeWhile (!isLineFeed ·)).length =
      (((bs.map isLineFeed).take place).reverse.takeWhile (!·)).length := by
    rw [← List.map_take, ← List.map_reverse, List.takeWhile_map, List.length_map]
    rfl
  unfold positionOf
  dsimp only
  rw [counted, passed, lines, ← counted, ← passed]

theorem locate_alike {f f' : Fault} (same : SameLayout text text') (h : f.Alike f') :
    (f.locate text).Alike (f'.locate text') := by
  unfold Fault.locate
  have position (place : Option Nat) :
      place.map (positionOf text) = place.map (positionOf text') := by
    rw [funext (positionOf_eq same.lines)]
  cases h with
  | same   =>
    rw [position]
    exact .same
  | quoted =>
    rw [position]
    exact .quoted

theorem at_ofText (same : SameLayout text text') :
    At {} (Cursor.ofText text) (Cursor.ofText text') := by
  have length : text.length = text'.length := by
    simpa using congrArg List.length same.lines
  unfold Cursor.ofText
  rw [length]
  exact .mk same.lexemes

theorem read_alike (same : SameLayout text text') (h : Reader.ReadsAlike Q r r') :
    Both Error.Alike Q (read r text) (read r' text') := by
  have m := h [] _ _ (at_ofText same)
  unfold read
  revert m
  generalize r (Cursor.ofText text) = x
  generalize r' (Cursor.ofText text') = x'
  intro m
  cases m with
  | error hf _ => exact .error (locate_alike same hf)
  | ok hr at_  =>
    have after := Reader.afterNext_eq at_
    cases at_ with
    | mk layout =>
      cases layout with
      | nil      => exact .ok hr.1
      | cons _ _ =>
        dsimp only
        rw [after]
        exact .error (locate_alike same .same)

namespace Reader

theorem readsAlike_object {R : σ → σ → Prop} {wanted : String}
    {entry entry' : String → σ → Reader σ} {s s' : σ}
    (h : ∀ k s s', R s s' → ReadsAlike R (entry k s) (entry' k s'))
    (hs : R s s') : ReadsAlike R (object wanted entry s) (object wanted entry' s') := by
  intro opened
  refine agree_peek ?nil ?same ?string
  case nil    => exact agree_refuse _ _
  case string => exact fun at_ _ _ _ => agree_refuse _ _ at_
  case same   =>
    intro t _ _ _ _ _ _ at_ layout
    cases t with
    | openBrace => exact matches_bracketed (agree_members h hs) layout
    | _         => exact agree_refuse _ _ at_

theorem readsAlike_dict {Q : α → α → Prop} {item item' : Reader α} (h : ReadsAlike Q item item') :
    ReadsAlike (Dict.Rel Q) (dict item) (dict item') := by
  refine readsAlike_object (fun k d d' hd => ?_) fun k => ?_
  case refine_1 =>
    refine readsAlike_bind readsAlike_colon fun _ _ _ => readsAlike_bind h fun a a' ha => ?_
    refine readsAlike_pure fun k' => ?_
    rw [Dict.find?_insert, Dict.find?_insert]
    split
    case isTrue  => exact .some ha
    case isFalse => exact hd k'
  case refine_2 => exact .none

end Reader

namespace Record

variable {R : σ → σ → Prop} {Q : α → α → Prop} {r : Record σ α} {s s' : σ} {opened : List Bracket}

-- What is read into a field, and what is made of it, depends on like drafts in like ways.
structure Blind (r : Record σ α) (R : σ → σ → Prop) (Q : α → α → Prop) : Prop where
  draft : R r.draft r.draft
  isSet : ∀ field ∈ r.fields, ∀ s s', R s s' → field.isSet s = field.isSet s'
  read  : ∀ field ∈ r.fields, ∀ s s', R s s' → Reader.ReadsAlike R (field.read s) (field.read s')
  build : ∀ s s', R s s' → Both Eq Q (r.build s) (r.build s')

theorem entry_alike (blind : r.Blind R Q) (key : String) (hs : R s s') :
    Reader.ReadsAlike R (r.entry key s) (r.entry key s') := by
  unfold entry
  cases hf : r.fields.find? (·.name == key) with
  | none       =>
    refine Reader.readsAlike_bind Reader.readsAlike_colon fun _ _ _ => ?_
    exact Reader.readsAlike_bind Reader.readsAlike_skip fun _ _ _ => Reader.readsAlike_pure hs
  | some field =>
    have mem := List.mem_of_find?_eq_some hf
    dsimp only
    rw [blind.isSet field mem s s' hs]
    split
    case isTrue  => exact Reader.readsAlike_fail
    case isFalse =>
      exact Reader.readsAlike_bind Reader.readsAlike_colon fun _ _ _ => blind.read field mem s s' hs

theorem inOrder_alike (blind : r.Blind R Q) {fields : List (Field σ)} (sub : fields ⊆ r.fields)
    (place : Nat) (hs : R s s') :
    Reader.Agree ⟨.list :: opened, false⟩ (fun s s' q => R s s' ∧ q = ⟨.list :: opened, false⟩)
      (r.inOrder place s fields) (r.inOrder place s' fields) := by
  induction fields generalizing place s s' with
  | nil                 => exact Reader.agree_pure ⟨hs, rfl⟩
  | cons field fields hi =>
    have ⟨mem, sub⟩ := List.cons_subset.1 sub
    refine Reader.agree_bind Reader.agree_nextElement? fun more more' q hm => ?_
    have ⟨same, hq⟩ := hm
    subst same hq
    cases more with
    | true  =>
      refine Reader.agree_bind (blind.read field mem s s' hs _) fun s s' q h => ?_
      have ⟨hs, hq⟩ := h
      subst hq
      exact hi sub _ hs
    | false =>
      cases ho : field.optional
      case true  => simpa [ho] using hi sub (place + 1) hs
      case false => simpa [ho] using Reader.agree_fail

theorem finish_alike (blind : r.Blind R Q) {p : Scope} (hs : R s s') :
    Reader.Agree p (fun a a' q => Q a a' ∧ q = p) (r.finish s) (r.finish s') := by
  have built := blind.build s s' hs
  unfold finish
  revert built
  generalize r.build s = x
  generalize r.build s' = x'
  intro built
  cases built with
  | ok related => exact Reader.agree_pure ⟨related, rfl⟩
  | error same =>
    subst same
    exact Reader.agree_fail

theorem Blind.readsAlike (blind : r.Blind R Q) : Reader.ReadsAlike Q r.reader r.reader := by
  intro opened
  refine Reader.agree_peek ?nil ?same ?string
  case nil    => exact Reader.agree_refuse _ _
  case string => exact fun at_ _ _ _ => Reader.agree_refuse _ _ at_
  case same   =>
    intro t _ _ _ _ _ _ at_ layout
    cases t with
    | openBrace   =>
      refine Reader.matches_bracketed (Reader.agree_bind
        (Reader.agree_members (fun k _ _ hs => entry_alike blind k hs) blind.draft) ?_) layout
      exact fun s s' q hs => (finish_alike blind hs.1).mono fun _ _ _ h => ⟨h.1, h.2 ▸ hs.2⟩
    | openBracket =>
      refine Reader.matches_bracketed (Reader.agree_bind
        (inOrder_alike blind (List.Subset.refl _) 0 blind.draft) ?_) layout
      exact fun s s' q hs => (finish_alike blind hs.1).mono fun _ _ _ h =>
        ⟨h.1, h.2 ▸ congrArg Scope.opened hs.2⟩
    | _           => exact Reader.agree_refuse _ _ at_

end Record

end Json

end ArtifactSync
