import ArtifactSync.Registry.Credentials

namespace ArtifactSync.Registry

def AuthEntry.Usable (e : AuthEntry) : Prop :=
  ∃ basic, e.basic = .ok basic

namespace CredentialStore

variable {text : Bytes} {s s' s₁ s₂ : CredentialStore} {host registry : String}
  {e : String × AuthEntry} {es es₁ es₂ : List (String × AuthEntry)} {basic : String × String}
  {auths : Dict AuthEntry} {order : List String} {r : Except Fault CredentialStore}

-- The entries taken one after the other, after those that the store was made of.
def addAll (s : CredentialStore) (es : List (String × AuthEntry)) : Except Fault CredentialStore :=
  es.foldlM (fun s e => s.add e.1 e.2) s

-- The entries of a config that are for a host, whatever way their keys are written.
def entriesFor (host : String) (es : List (String × AuthEntry)) : List (String × AuthEntry) :=
  es.filter fun e => normalizeHost e.1 = host

-- All the entries for the host say the same.
def Unanimous (host : String) (es : List (String × AuthEntry)) : Prop :=
  ∀ e₁ ∈ entriesFor host es, ∀ e₂ ∈ entriesFor host es, e₁.2.basic = e₂.2.basic

-- What a config can be taken for, with its keys in this order.
inductive TakenAs (text : Bytes) : List String → Except Fault CredentialStore → Prop
  | malformed {order : List String} {err : Json.Error} :
    (Json.read record.reader text = .error err) → TakenAs text order (.error (.json err))
  | visited {auths : Dict AuthEntry} {es : List (String × AuthEntry)} :
    (Json.read record.reader text = .ok auths) → es.Perm auths.entries →
    TakenAs text (es.map (·.1)) (ofEntries es)

theorem takenAs_ofDockerConfig : ∃ order, TakenAs text order (ofDockerConfig text) := by
  unfold ofDockerConfig
  cases h : Json.read record.reader text with
  | error _  => exact ⟨[], .malformed h⟩
  | ok auths => exact ⟨_, .visited h (.refl _)⟩

-- A config that can be read is taken entry by entry.
theorem takenAs_iff_of_read (read : Json.read record.reader text = .ok auths) :
    TakenAs text order r ↔ ∃ es, es.Perm auths.entries ∧ es.map (·.1) = order ∧
      ofEntries es = r := by
  constructor
  case mp  =>
    intro t
    cases t with
    | malformed unread => cases unread.symm.trans read
    | visited read' p  =>
      cases read'.symm.trans read
      exact ⟨_, p, rfl, rfl⟩
  case mpr =>
    intro ⟨es, p, keys, made⟩
    subst keys made
    exact .visited read p

theorem add_ok_iff : s.add e.1 e.2 = .ok s' ↔
    ∃ basic, e.2.basic = .ok basic ∧ s' = ⟨s.entries.insert (normalizeHost e.1) basic⟩ := by
  unfold add
  cases e.2.basic <;> simp [eq_comm]

theorem addAll_nil_ok_iff : s.addAll [] = .ok s' ↔ s = s' := by
  simp [addAll, pure, Except.pure]

theorem addAll_cons_ok_iff : s.addAll (e :: es) = .ok s' ↔
    ∃ s₁, s.add e.1 e.2 = .ok s₁ ∧ s₁.addAll es = .ok s' := by
  unfold addAll
  rw [List.foldlM_cons]
  cases s.add e.1 e.2 <;> simp [bind, Except.bind]

theorem addAll_append_ok_iff : s.addAll (es₁ ++ es₂) = .ok s' ↔
    ∃ s₁, s.addAll es₁ = .ok s₁ ∧ s₁.addAll es₂ = .ok s' := by
  unfold addAll
  rw [List.foldlM_append]
  cases es₁.foldlM (fun s e => s.add e.1 e.2) s <;> simp [bind, Except.bind]

-- In whatever order they come, every one of them has to be usable.
theorem exists_addAll_iff : (∃ s', s.addAll es = .ok s') ↔ ∀ e ∈ es, e.2.Usable := by
  induction es generalizing s with
  | nil          => simp [addAll_nil_ok_iff]
  | cons e es hi =>
    simp only [addAll_cons_ok_iff, add_ok_iff, List.forall_mem_cons]
    constructor
    case mp =>
      intro ⟨s', s₁, ⟨basic, hb, _⟩, hs⟩
      exact ⟨⟨basic, hb⟩, hi.1 ⟨s', hs⟩⟩
    case mpr =>
      intro ⟨⟨basic, hb⟩, usable⟩
      have ⟨s', hs⟩ := hi (s := ⟨s.entries.insert (normalizeHost e.1) basic⟩).2 usable
      exact ⟨s', _, ⟨basic, hb, rfl⟩, hs⟩

-- What is kept for a host was said by an entry for it, or was kept before.
theorem find?_addAll (h : s.addAll es = .ok s') (hf : s'.entries.find? host = some basic) :
    (∃ e ∈ entriesFor host es, e.2.basic = .ok basic) ∨ s.entries.find? host = some basic := by
  induction es generalizing s with
  | nil          => exact .inr (addAll_nil_ok_iff.1 h ▸ hf)
  | cons e es hi =>
    have ⟨s₁, ha, h⟩ := addAll_cons_ok_iff.1 h
    have ⟨said, hb, hs⟩ := add_ok_iff.1 ha
    subst hs
    cases hi h with
    | inl there =>
      have ⟨e', he, hb⟩ := there
      exact .inl ⟨e', List.mem_filter.2 (List.mem_filter.1 he |>.imp_left (.tail _)), hb⟩
    | inr here =>
      rw [Dict.find?_insert] at here
      split at here
      case isTrue hh =>
        cases here
        exact .inl ⟨e, List.mem_filter.2 ⟨.head _, by simp [hh]⟩, hb⟩
      case isFalse => exact .inr here

-- Nothing that is kept is lost, though another entry may take its place.
theorem find?_addAll_eq_none_iff (h : s.addAll es = .ok s') :
    s'.entries.find? host = none ↔ entriesFor host es = [] ∧ s.entries.find? host = none := by
  induction es generalizing s with
  | nil          => simp [entriesFor, addAll_nil_ok_iff.1 h]
  | cons e es hi =>
    have ⟨s₁, ha, h⟩ := addAll_cons_ok_iff.1 h
    have ⟨said, _, hs⟩ := add_ok_iff.1 ha
    subst hs
    rw [hi h, Dict.find?_insert]
    by_cases hh : normalizeHost e.1 = host
    · simp [entriesFor, hh]
    · simp [entriesFor, hh, Ne.symm hh]

-- The entry taken last for a host is the one that is kept.
theorem find?_addAll_concat (h : s.addAll (es ++ [e]) = .ok s') (hb : e.2.basic = .ok basic) :
    s'.entries.find? (normalizeHost e.1) = some basic := by
  have ⟨s₁, _, h⟩ := addAll_append_ok_iff.1 h
  have ⟨s₂, ha, h⟩ := addAll_cons_ok_iff.1 h
  have ⟨said, hb', hs⟩ := add_ok_iff.1 ha
  cases hb.symm.trans hb'
  rw [← addAll_nil_ok_iff.1 h, hs]
  exact Dict.find?_insert_self ..

theorem login_eq_of_find?_eq
    (h : s₁.entries.find? (normalizeHost registry) = s₂.entries.find? (normalizeHost registry)) :
    s₁.login registry = s₂.login registry := by
  unfold login
  rw [h]

theorem login_of_find? (h : s.entries.find? (normalizeHost registry) = some basic) :
    s.login registry = .basic basic.1 basic.2 := by
  unfold login
  rw [h]

theorem takenAs_ok_iff : TakenAs text order (.ok s) ↔ ∃ auths es,
    Json.read record.reader text = .ok auths ∧ es.Perm auths.entries ∧ es.map (·.1) = order ∧
      empty.addAll es = .ok s := by
  constructor
  case mp =>
    intro t
    generalize h : (.ok s : Except Fault CredentialStore) = r at t
    cases t with
    | malformed _  => cases h
    | visited hr p => exact ⟨_, _, hr, p, rfl, rfl⟩
  case mpr =>
    intro ⟨auths, es, hr, p, ho, hs⟩
    rw [← ho, ← hs]
    exact .visited hr p

-- Where the entries for a host agree, the one that was taken last says what they all say.
theorem find?_addAll_of_unanimous (h : empty.addAll es = .ok s)
    (unanimous : Unanimous host es) (he : e ∈ entriesFor host es) (hb : e.2.basic = .ok basic) :
    s.entries.find? host = some basic := by
  cases hf : s.entries.find? host with
  | none      => exact absurd ((find?_addAll_eq_none_iff h).1 hf).1 (List.ne_nil_of_mem he)
  | some said =>
    cases find?_addAll h hf with
    | inr none  => cases none
    | inl there =>
      have ⟨e', he', hb'⟩ := there
      cases hb.symm.trans ((unanimous e he e' he').trans hb')
      rfl

-- So it makes no difference in which order they are taken.
theorem find?_addAll_of_perm (p : es₁.Perm es₂) (unanimous : Unanimous host es₂)
    (h₁ : empty.addAll es₁ = .ok s₁) (h₂ : empty.addAll es₂ = .ok s₂) :
    s₁.entries.find? host = s₂.entries.find? host := by
  have p : (entriesFor host es₁).Perm (entriesFor host es₂) := p.filter _
  cases hf : s₁.entries.find? host with
  | none       =>
    have ⟨absent, _⟩ := (find?_addAll_eq_none_iff h₁).1 hf
    rw [absent] at p
    exact ((find?_addAll_eq_none_iff h₂).2 ⟨p.nil_eq.symm, rfl⟩).symm
  | some basic =>
    cases find?_addAll h₁ hf with
    | inr none  => cases none
    | inl there =>
      have ⟨e, he, hb⟩ := there
      exact (find?_addAll_of_unanimous h₂ unanimous (p.mem_iff.1 he) hb).symm

-- Any entry can be the last one to be taken.
theorem exists_takenAs_last (hr : Json.read record.reader text = .ok auths)
    (usable : ∀ e ∈ auths.entries, e.2.Usable) (he : e ∈ entriesFor host auths.entries)
    (hb : e.2.basic = .ok basic) :
    ∃ order s, TakenAs text order (.ok s) ∧ s.entries.find? host = some basic := by
  have ⟨he, hh⟩ := List.mem_filter.1 he
  have ⟨before, after, hes⟩ := List.append_of_mem he
  have p : (before ++ after ++ [e]).Perm auths.entries := by
    rw [hes, List.append_assoc]
    exact (List.perm_append_singleton e after).append_left before
  have ⟨s, hs⟩ := exists_addAll_iff (s := empty).2 fun e' he' => usable e' (p.mem_iff.1 he')
  have last := find?_addAll_concat hs hb
  rw [of_decide_eq_true hh] at last
  exact ⟨_, s, takenAs_ok_iff.2 ⟨auths, _, hr, p, rfl, hs⟩, last⟩

end CredentialStore

open CredentialStore

-- One of all the orders is the one of the keys.
theorem login_independent_iff {text : Bytes} :
    (∃ order, TakenAs text order (ofDockerConfig text)) ∧
    ((∀ order r, TakenAs text order r → ∃ f, r = .error f) ∨
      ∀ order r, TakenAs text order r → ∃ s, r = .ok s) ∧
    ∀ registry,
      (∀ order₁ order₂ s₁ s₂, TakenAs text order₁ (.ok s₁) → TakenAs text order₂ (.ok s₂) →
        s₁.login registry = s₂.login registry) ↔
      ∀ auths, Json.read record.reader text = .ok auths → (∀ e ∈ auths.entries, e.2.Usable) →
        Unanimous (normalizeHost registry) auths.entries := by
  refine ⟨takenAs_ofDockerConfig, ?_, fun registry => ⟨?_, ?_⟩⟩
  case refine_1 =>
    cases hr : Json.read record.reader text with
    | error err =>
      refine .inl fun order r t => ?_
      cases t with
      | malformed _   => exact ⟨_, rfl⟩
      | visited hr' _ => cases hr.symm.trans hr'
    | ok auths  =>
      by_cases usable : ∀ e ∈ auths.entries, e.2.Usable
      case pos =>
        refine .inr fun order r t => ?_
        cases t with
        | malformed hr' => cases hr.symm.trans hr'
        | visited hr' p =>
          cases hr.symm.trans hr'
          exact exists_addAll_iff.2 fun e he => usable e (p.mem_iff.1 he)
      case neg =>
        refine .inl fun order r t => ?_
        cases r with
        | error f => exact ⟨f, rfl⟩
        | ok s    =>
          have ⟨auths', es, hr', p, _, hs⟩ := takenAs_ok_iff.1 t
          cases hr.symm.trans hr'
          exact (usable fun e he => exists_addAll_iff.1 ⟨s, hs⟩ e (p.mem_iff.2 he)).elim
  case refine_2 =>
    intro same auths hr usable e₁ he₁ e₂ he₂
    have ⟨basic₁, hb₁⟩ := usable e₁ (List.mem_filter.1 he₁).1
    have ⟨basic₂, hb₂⟩ := usable e₂ (List.mem_filter.1 he₂).1
    have ⟨_, s₁, t₁, hf₁⟩ := exists_takenAs_last hr usable he₁ hb₁
    have ⟨_, s₂, t₂, hf₂⟩ := exists_takenAs_last hr usable he₂ hb₂
    have login := same _ _ _ _ t₁ t₂
    rw [login_of_find? hf₁, login_of_find? hf₂] at login
    cases basic₁
    cases basic₂
    cases login
    exact hb₁.trans hb₂.symm
  case refine_3 =>
    intro unanimous order₁ order₂ s₁ s₂ t₁ t₂
    have ⟨auths, es₁, hr₁, p₁, _, hs₁⟩ := takenAs_ok_iff.1 t₁
    have ⟨_, es₂, hr₂, p₂, _, hs₂⟩ := takenAs_ok_iff.1 t₂
    cases hr₁.symm.trans hr₂
    have usable (e) (he : e ∈ auths.entries) : e.2.Usable :=
      exists_addAll_iff.1 ⟨s₁, hs₁⟩ e (p₁.mem_iff.2 he)
    have unanimous := unanimous auths hr₁ usable
    have ⟨s, hs⟩ := exists_addAll_iff (s := empty).2 usable
    apply login_eq_of_find?_eq
    rw [find?_addAll_of_perm p₁ unanimous hs₁ hs, find?_addAll_of_perm p₂ unanimous hs₂ hs]

-- Two entries for one host, which its address and its bare name are keys of.
namespace Rivals

def text : Bytes :=
  bytesOf "\x7b\"auths\":\x7b" ++
  bytesOf "\"https://r.io/\":\x7b\"username\":\"a\",\"password\":\"x\"\x7d," ++
  bytesOf "\"r.io\":\x7b\"username\":\"b\",\"password\":\"y\"\x7d\x7d\x7d"

def first : String × AuthEntry := ("https://r.io/", { username := some "a", password := some "x" })

def second : String × AuthEntry := ("r.io", { username := some "b", password := some "y" })

theorem read_eq :
    (Json.read record.reader text).toOption.map (·.entries) = some [first, second] := by
  decide +kernel

theorem exists_takenAs : ∃ s₁ s₂,
    TakenAs text ["r.io", "https://r.io/"] (.ok s₁) ∧ empty.addAll [second, first] = .ok s₁ ∧
    TakenAs text ["https://r.io/", "r.io"] (.ok s₂) ∧ empty.addAll [first, second] = .ok s₂ := by
  have ⟨auths, hr, he⟩ := Option.map_eq_some_iff.1 read_eq
  cases hr' : Json.read record.reader text with
  | error _ =>
    rw [hr'] at hr
    cases hr
  | ok _    =>
    rw [hr'] at hr
    cases hr
    have usable₁ : ∀ e ∈ [second, first], e.2.Usable := by
      simp [first, second, AuthEntry.Usable, AuthEntry.basic]
    have usable₂ : ∀ e ∈ [first, second], e.2.Usable := by
      simp [first, second, AuthEntry.Usable, AuthEntry.basic]
    have swapped : [second, first].Perm auths.entries := he ▸ .swap ..
    have ⟨s₁, h₁⟩ := exists_addAll_iff (s := empty).2 usable₁
    have ⟨s₂, h₂⟩ := exists_addAll_iff (s := empty).2 usable₂
    exact ⟨s₁, s₂, takenAs_ok_iff.2 ⟨auths, _, hr', swapped, rfl, h₁⟩, h₁,
      takenAs_ok_iff.2 ⟨auths, _, hr', he ▸ .refl _, rfl, h₂⟩, h₂⟩

theorem host_eq : normalizeHost "https://r.io/" = "r.io" ∧ normalizeHost "r.io" = "r.io" := by
  decide +kernel

end Rivals

-- The two orders give two logins.
theorem login_depends_on_order : ∃ s₁ s₂,
    TakenAs Rivals.text ["r.io", "https://r.io/"] (.ok s₁) ∧ s₁.login "r.io" = .basic "a" "x" ∧
    TakenAs Rivals.text ["https://r.io/", "r.io"] (.ok s₂) ∧ s₂.login "r.io" = .basic "b" "y" := by
  have ⟨host₁, host₂⟩ := Rivals.host_eq
  have ⟨s₁, s₂, t₁, h₁, t₂, h₂⟩ := Rivals.exists_takenAs
  change empty.addAll ([Rivals.second] ++ [Rivals.first]) = _ at h₁
  change empty.addAll ([Rivals.first] ++ [Rivals.second]) = _ at h₂
  have first := find?_addAll_concat h₁ rfl
  have second := find?_addAll_concat h₂ rfl
  rw [Rivals.first, host₁, ← host₂] at first
  exact ⟨s₁, s₂, t₁, login_of_find? first, t₂, login_of_find? second⟩

end ArtifactSync.Registry
