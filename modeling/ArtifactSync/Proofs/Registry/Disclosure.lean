import ArtifactSync.Error
import ArtifactSync.Proofs.Json.Alike
import ArtifactSync.Proofs.Registry.Credentials
import Mathlib.Data.List.Forall2

namespace ArtifactSync.Registry

open Json (Both SameLayout AsEmpty)
open Json.Reader (readsAlike_bind readsAlike_pure readsAlike_optional readsAlike_stringFor
  readsAlike_dict)

section

variable {α β : Type} {Q : α → β → Prop}

theorem isSome_eq_of_rel {o : Option α} {o' : Option β} (h : Option.Rel Q o o') :
    o.isSome = o'.isSome := by
  cases h <;> rfl

theorem eq_none_iff_of_rel {o : Option α} {o' : Option β} (h : Option.Rel Q o o') :
    o = none ↔ o' = none := by
  cases h <;> simp

theorem filter_rel {o : Option α} {o' : Option β} {p : α → Bool} {p' : β → Bool}
    (h : Option.Rel Q o o') (hp : ∀ a b, Q a b → p a = p' b) :
    Option.Rel Q (o.filter p) (o'.filter p') := by
  cases h with
  | none         => exact .none
  | some related =>
    rw [Option.filter_some, Option.filter_some, hp _ _ related]
    split
    case isTrue  => exact .some related
    case isFalse => exact .none

theorem join_rel {o : Option (Option α)} {o' : Option (Option β)}
    (h : Option.Rel (Option.Rel Q) o o') : Option.Rel Q o.join o'.join := by
  cases h with
  | none      => exact .none
  | some here => exact here

end

namespace AuthEntry

variable {e e' : AuthEntry} {g : Fault}

structure Draft.Alike (d d' : Draft) : Prop where
  auth     : Option.Rel (Option.Rel AsEmpty) d.auth d'.auth
  username : Option.Rel (Option.Rel AsEmpty) d.username d'.username
  password : Option.Rel (Option.Rel AsEmpty) d.password d'.password

-- The same is given, and what is empty in the one is empty in the other.
structure Alike (e e' : AuthEntry) : Prop where
  auth     : Option.Rel AsEmpty e.auth e'.auth
  username : Option.Rel AsEmpty e.username e'.username
  password : Option.Rel AsEmpty e.password e'.password

theorem blind : record.Blind Draft.Alike Alike where
  draft := ⟨.none, .none, .none⟩
  isSet := by
    simp only [record, List.forall_mem_cons]
    exact ⟨fun _ _ h => isSome_eq_of_rel h.auth, fun _ _ h => isSome_eq_of_rel h.username,
      fun _ _ h => isSome_eq_of_rel h.password, nofun⟩
  read := by
    simp only [record, List.forall_mem_cons]
    refine ⟨fun _ _ h => ?_, fun _ _ h => ?_, fun _ _ h => ?_, nofun⟩
    all_goals
      refine readsAlike_bind (readsAlike_optional readsAlike_stringFor) fun _ _ said => ?_
      refine readsAlike_pure ?_
    · exact { h with auth := .some said }
    · exact { h with username := .some said }
    · exact { h with password := .some said }
  build := fun _ _ h => .ok ⟨join_rel h.auth, join_rel h.username, join_rel h.password⟩

theorem decodeAuth_ne_incomplete {encoded : String} : decodeAuth encoded ≠ .error .incomplete := by
  unfold decodeAuth
  split
  · nofun
  · split
    · nofun
    · split <;> nofun

theorem basic_eq_incomplete_iff : e.basic = .error .incomplete ↔
    (e.username.isSome → e.password = none) ∧ e.auth.filter (!·.isEmpty) = none := by
  unfold basic
  cases e.username <;> cases e.password <;> cases e.auth.filter (!·.isEmpty) <;>
    simp [decodeAuth_ne_incomplete]

theorem basic_error (h : e.basic = .error g) :
    g = .incomplete ∨ ∃ encoded, e.auth = some encoded ∧ decodeAuth encoded = .error g := by
  unfold basic at h
  split at h
  case h_1 => cases h
  case h_2 =>
    split at h
    case h_1 encoded he => exact .inr ⟨encoded, (Option.filter_eq_some_iff.1 he).1, h⟩
    case h_2            => exact .inl (by cases h; rfl)

-- Whether enough is given does not depend on what is given.
theorem Alike.incomplete_iff (h : e.Alike e') :
    e.basic = .error .incomplete ↔ e'.basic = .error .incomplete := by
  have auth := filter_rel h.auth fun v v' same => congrArg (!·) same
  rw [basic_eq_incomplete_iff, basic_eq_incomplete_iff, isSome_eq_of_rel h.username,
    eq_none_iff_of_rel h.password, eq_none_iff_of_rel auth]

end AuthEntry

namespace CredentialStore

variable {text text' : Bytes} {s s' : CredentialStore} {f f' : Fault} {e e' : String × AuthEntry}
  {es es' : List (String × AuthEntry)} {auths auths' : Dict AuthEntry} {order : List String}

def Draft.Alike (d d' : Draft) : Prop :=
  Option.Rel (Dict.Rel AuthEntry.Alike) d.auths d'.auths

theorem blind : record.Blind Draft.Alike (Dict.Rel AuthEntry.Alike) where
  draft := .none
  isSet := by
    simp only [record, List.forall_mem_cons]
    exact ⟨fun _ _ h => isSome_eq_of_rel h, nofun⟩
  read := by
    simp only [record, List.forall_mem_cons]
    refine ⟨fun _ _ _ => ?_, nofun⟩
    refine readsAlike_bind (readsAlike_dict AuthEntry.blind.readsAlike) fun _ _ said => ?_
    exact readsAlike_pure (.some said)
  build := by
    intro d d' h
    refine .ok ?_
    cases d
    cases d'
    cases h with
    | none      => exact fun _ => .none
    | some said => exact said

theorem read_alike (same : SameLayout text text') :
    Both Json.Error.Alike (Dict.Rel AuthEntry.Alike) (Json.read record.reader text)
      (Json.read record.reader text') :=
  Json.read_alike same blind.readsAlike

-- The text a failure is reported by.
def Fault.report (f : Fault) : String :=
  (Error.invalidRegistry f.message).message

-- An entry that is refused for what it has in base 64.
def Garbled (e : String × AuthEntry) (f : Fault) : Prop :=
  ∃ encoded g, e.2.auth = some encoded ∧ AuthEntry.decodeAuth encoded = .error g ∧
    f = .entry (normalizeHost e.1) g

theorem add_error_iff :
    s.add e.1 e.2 = .error f ↔ ∃ g, e.2.basic = .error g ∧ f = .entry (normalizeHost e.1) g := by
  unfold add
  cases e.2.basic <;> simp [eq_comm]

theorem addAll_cons_error_iff : s.addAll (e :: es) = .error f ↔
    s.add e.1 e.2 = .error f ∨ ∃ s₁, s.add e.1 e.2 = .ok s₁ ∧ s₁.addAll es = .error f := by
  unfold addAll
  rw [List.foldlM_cons]
  cases s.add e.1 e.2 <;> simp [bind, Except.bind]

theorem garbled_or_incomplete (h : s.add e.1 e.2 = .error f) :
    Garbled e f ∨ e.2.basic = .error .incomplete ∧ f = .entry (normalizeHost e.1) .incomplete := by
  have ⟨g, hb, hf⟩ := add_error_iff.1 h
  cases AuthEntry.basic_error hb with
  | inl incomplete =>
    subst incomplete
    exact .inr ⟨hb, hf⟩
  | inr garbled    =>
    have ⟨encoded, auth, hd⟩ := garbled
    exact .inl ⟨encoded, g, auth, hd, hf⟩

def Paired (e e' : String × AuthEntry) : Prop :=
  e.1 = e'.1 ∧ e.2.Alike e'.2

theorem find?_of_mem (h : e ∈ auths.entries) : auths.find? e.1 = some e.2 := by
  have ⟨before, after, split⟩ := List.append_of_mem h
  have sorted := auths.sorted
  rw [split, List.pairwise_append] at sorted
  refine List.lookup_eq_some_iff.2 ⟨before, after, split, fun e' he' => ?_⟩
  have below : e'.1 < e.1 := sorted.2.2 e' he' e (.head _)
  simpa using fun eq => String.lt_irrefl _ (eq ▸ below)

-- Where the keys are the same, the order of the keys is all the order there is.
theorem paired_of_order (h : Dict.Rel AuthEntry.Alike auths auths') (p : es.Perm auths.entries)
    (p' : es'.Perm auths'.entries) (order : es.map (·.1) = es'.map (·.1)) :
    List.Forall₂ Paired es es' := by
  have order : List.Forall₂ (· = ·) (es.map (·.1)) (es'.map (·.1)) := by
    rw [List.forall₂_eq_eq_eq]
    exact order
  have keys := List.forall₂_map_left_iff.1 (List.forall₂_map_right_iff.1 order)
  refine List.forall₂_iff_zip.2 ⟨keys.length_eq, fun {e e'} hz => ?_⟩
  have key := List.forall₂_zip keys hz
  have ⟨he, he'⟩ := List.of_mem_zip hz
  have related := h e.1
  rw [find?_of_mem (p.mem_iff.1 he), key, find?_of_mem (p'.mem_iff.1 he')] at related
  cases related with
  | some alike => exact ⟨key, alike⟩

theorem addAll_alike (h : List.Forall₂ Paired es es') (hf : s.addAll es = .error f)
    (hf' : s'.addAll es' = .error f') :
    f = f' ∨ (∃ e ∈ es, Garbled e f) ∨ ∃ e' ∈ es', Garbled e' f' := by
  induction h generalizing s s' with
  | nil                          => cases hf
  | @cons e e' _ es' paired _ hi =>
    have ⟨key, alike⟩ := paired
    cases addAll_cons_error_iff.1 hf with
    | inl fails =>
      cases garbled_or_incomplete fails with
      | inl garbled    => exact .inr (.inl ⟨e, .head _, garbled⟩)
      | inr incomplete =>
        have ⟨hb, hf⟩ := incomplete
        have hb' := alike.incomplete_iff.1 hb
        have fails' : s'.add e'.1 e'.2 = .error f := add_error_iff.2 ⟨_, hb', key ▸ hf⟩
        have same : s'.addAll (e' :: es') = .error f := addAll_cons_error_iff.2 (.inl fails')
        exact .inl (Except.error.inj (same.symm.trans hf'))
    | inr later =>
      have ⟨s₁, ha, hf⟩ := later
      cases addAll_cons_error_iff.1 hf' with
      | inl fails' =>
        cases garbled_or_incomplete fails' with
        | inl garbled    => exact .inr (.inr ⟨e', .head _, garbled⟩)
        | inr incomplete =>
          have hb := alike.incomplete_iff.2 incomplete.1
          have ⟨_, hb', _⟩ := add_ok_iff.1 ha
          cases hb.symm.trans hb'
      | inr later' =>
        have ⟨_, _, hf'⟩ := later'
        cases hi hf hf' with
        | inl same    => exact .inl same
        | inr garbled =>
          refine .inr (garbled.imp ?_ ?_)
          · exact fun ⟨e, he, hg⟩ => ⟨e, .tail _ he, hg⟩
          · exact fun ⟨e, he, hg⟩ => ⟨e, .tail _ he, hg⟩

theorem takenAs_error_elim (t : TakenAs text order (.error f)) :
    (∃ err, Json.read record.reader text = .error err ∧ f = .json err) ∨
      ∃ auths es, Json.read record.reader text = .ok auths ∧ es.Perm auths.entries ∧
        es.map (·.1) = order ∧ empty.addAll es = .error f := by
  generalize h : (.error f : Except Fault CredentialStore) = r at t
  cases t with
  | malformed hr =>
    cases h
    exact .inl ⟨_, hr, rfl⟩
  | visited hr p => exact .inr ⟨_, _, hr, p, rfl, rfl⟩

-- A string stands where an entry or the like belongs, and is quoted.
def Fault.quoting (v wanted : String) (position : Option (Nat × Nat)) : Fault :=
  .json ⟨.wrongType (.string v) wanted, position⟩

-- One of the entries is refused for what it has in base 64.
def Undecodable (text : Bytes) (f : Fault) : Prop :=
  ∃ auths, Json.read record.reader text = .ok auths ∧ ∃ e ∈ auths.entries, Garbled e f

end CredentialStore

open CredentialStore

theorem report_eq_of_sameLayout {text text' : Bytes} {order : List String} {f f' : Fault}
    (same : SameLayout text text') (t : TakenAs text order (.error f))
    (t' : TakenAs text' order (.error f')) :
    f.report = f'.report ∨
      (∃ v v' wanted position, f = .quoting v wanted position ∧ f' = .quoting v' wanted position) ∨
      Undecodable text f ∨ Undecodable text' f' := by
  have read := read_alike same
  cases takenAs_error_elim t with
  | inl malformed =>
    have ⟨err, hr, hf⟩ := malformed
    cases takenAs_error_elim t' with
    | inl malformed' =>
      have ⟨err', hr', hf'⟩ := malformed'
      rw [hr, hr'] at read
      subst hf hf'
      cases read with
      | error alike =>
        cases alike with
        | same   => exact .inl rfl
        | quoted => exact .inr (.inl ⟨_, _, _, _, rfl, rfl⟩)
    | inr visited'   =>
      have ⟨auths', es', hr', _⟩ := visited'
      rw [hr, hr'] at read
      cases read
  | inr visited   =>
    have ⟨auths, es, hr, p, ho, hf⟩ := visited
    cases takenAs_error_elim t' with
    | inl malformed' =>
      have ⟨err', hr', _⟩ := malformed'
      rw [hr, hr'] at read
      cases read
    | inr visited'   =>
      have ⟨auths', es', hr', p', ho', hf'⟩ := visited'
      rw [hr, hr'] at read
      cases read with
      | ok related =>
        have paired := paired_of_order related p p' (ho.trans ho'.symm)
        cases addAll_alike paired hf hf' with
        | inl equal   => exact .inl (congrArg _ equal)
        | inr garbled =>
          refine .inr (.inr (garbled.imp ?_ ?_))
          · exact fun ⟨e, he, hg⟩ => ⟨auths, hr, e, p.mem_iff.1 he, hg⟩
          · exact fun ⟨e, he, hg⟩ => ⟨auths', hr', e, p'.mem_iff.1 he, hg⟩

-- Configs with one entry.
namespace Sole

def text (entry : String) : Bytes :=
  bytesOf "\x7b\"auths\":\x7b\"r.io\":" ++ bytesOf entry ++ bytesOf "\x7d\x7d"

-- A user without a password.
def lacking (user : String) : Bytes :=
  text ("\x7b\"username\":\"" ++ user ++ "\"\x7d")

def encoded (auth : String) : Bytes :=
  text ("\x7b\"auth\":\"" ++ auth ++ "\"\x7d")

-- User and password in place of an entry with them.
def misplaced (login : String) : Bytes :=
  text ("\"" ++ login ++ "\"")

theorem takenAs {text : Bytes} {e : AuthEntry} {r : Except Fault CredentialStore}
    (hr : Json.read record.reader text = .ok (.singleton "r.io" e))
    (hs : ofEntries [("r.io", e)] = r) : TakenAs text ["r.io"] r :=
  hs ▸ .visited hr (.refl _)

theorem takenAs_lacking : TakenAs (lacking "bot") ["r.io"] (.error (.entry "r.io" .incomplete)) ∧
    TakenAs (lacking "eve") ["r.io"] (.error (.entry "r.io" .incomplete)) :=
  ⟨takenAs (e := { username := some "bot" }) (by decide +kernel) (by decide +kernel),
    takenAs (e := { username := some "eve" }) (by decide +kernel) (by decide +kernel)⟩

theorem takenAs_encoded :
    TakenAs (encoded "%%%%") ["r.io"] (.error (.entry "r.io" (.base64 (.symbol 0x25 0)))) ∧
    TakenAs (encoded "!!!!") ["r.io"] (.error (.entry "r.io" (.base64 (.symbol 0x21 0)))) :=
  ⟨takenAs (e := { auth := some "%%%%" }) (by decide +kernel) (by decide +kernel),
    takenAs (e := { auth := some "!!!!" }) (by decide +kernel) (by decide +kernel)⟩

theorem takenAs_misplaced :
    TakenAs (misplaced "bot:s3cret") ["r.io"]
      (.error (.quoting "bot:s3cret" "struct DockerAuthEntry" (some (1, 29)))) ∧
    TakenAs (misplaced "bot:hunter") ["r.io"]
      (.error (.quoting "bot:hunter" "struct DockerAuthEntry" (some (1, 29)))) :=
  ⟨.malformed (by decide +kernel), .malformed (by decide +kernel)⟩

end Sole

theorem report_eq_of_sameLayout_sample : ∃ f f',
    SameLayout (Sole.lacking "bot") (Sole.lacking "eve") ∧
    TakenAs (Sole.lacking "bot") ["r.io"] (.error f) ∧
    TakenAs (Sole.lacking "eve") ["r.io"] (.error f') ∧
    (f.report = f'.report ∨
      (∃ v v' wanted position, f = .quoting v wanted position ∧ f' = .quoting v' wanted position) ∨
      Undecodable (Sole.lacking "bot") f ∨ Undecodable (Sole.lacking "eve") f') := by
  have same : SameLayout (Sole.lacking "bot") (Sole.lacking "eve") := by decide +kernel
  have ⟨t, t'⟩ := Sole.takenAs_lacking
  exact ⟨_, _, same, t, t', report_eq_of_sameLayout same t t'⟩

-- What is quoted are user and password, and what is said of base 64 is a character of it.
theorem report_tells_strings_apart :
    (∃ f f', SameLayout (Sole.misplaced "bot:s3cret") (Sole.misplaced "bot:hunter") ∧
      TakenAs (Sole.misplaced "bot:s3cret") ["r.io"] (.error f) ∧
      TakenAs (Sole.misplaced "bot:hunter") ["r.io"] (.error f') ∧ f.report ≠ f'.report) ∧
    ∃ f f', SameLayout (Sole.encoded "%%%%") (Sole.encoded "!!!!") ∧
      TakenAs (Sole.encoded "%%%%") ["r.io"] (.error f) ∧
      TakenAs (Sole.encoded "!!!!") ["r.io"] (.error f') ∧ f.report ≠ f'.report := by
  have ⟨misplaced, misplaced'⟩ := Sole.takenAs_misplaced
  have ⟨encoded, encoded'⟩ := Sole.takenAs_encoded
  exact ⟨⟨_, _, by decide +kernel, misplaced, misplaced', by decide +kernel⟩,
    ⟨_, _, by decide +kernel, encoded, encoded', by decide +kernel⟩⟩

end ArtifactSync.Registry
