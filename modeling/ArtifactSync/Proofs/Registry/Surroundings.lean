import ArtifactSync.Proofs.Interaction.Reaches
import ArtifactSync.Proofs.Staging.Area
import ArtifactSync.Registry.Fetch

namespace ArtifactSync.Registry

open Http (Method Reply Request)
open Interaction (Reaches Turn)
open Program
open Source

-- A registry that has one reply to each request, and a host that does its part in one way.
structure Surroundings where
  reply : Request → Reply
  made : Option String → Except Staging.Area.Unmade String := fun _ => .ok "/tmp/s"
  -- What becomes of a write, by how many there were before.
  course : Nat → Staging.Course := fun _ => .whole
  reading : Staging.Reading := .whole

-- The deadline came first.
def Late : Turn Answer → Prop
  | ⟨.send .., none⟩ | ⟨.pause .., none⟩ | ⟨.storeFile .., none⟩ | ⟨.readBack _, none⟩ => True
  | _                                                                              => False

namespace Surroundings

-- A world that is like this and always in time, and in which the clock stands still.
def world (w : Surroundings) : (q : Question) → Answer q
  | .send q _             => some (w.reply q)
  | .pause ..             => some ()
  | .wallClock            => (0 : Nat)
  | .makeDirectory root   => w.made root
  | .storeFile earlier .. => some (w.course earlier)
  | .readBack _           => some w.reading

-- What was answered in time was answered as always. Only the time of day is left open.
def Gave (w : Surroundings) : Turn Answer → Prop
  | ⟨.wallClock, _⟩ => True
  | ⟨q, x⟩          => x = w.world q ∨ Late ⟨q, x⟩

-- What a program comes to that has no token to begin with.
def Comes {α : Type} (w : Surroundings) (p : Program α) (a : α) : Prop :=
  ((p.run.run none).answeredBy (m := Id) w.world).1 = some a

variable {α β : Type} {w : Surroundings} {s : Source} {r : Reference}
  {own : Option KeptToken → Prop} {p : Program α} {f : α → Program β} {P Q : α → Prop}
  {R : β → Prop} {q : Request} {method : Method} {address : String} {a : α}

-- If a token of this kind is kept, the program keeps one of this kind as well, and what it gives is
-- like this. It gives nothing only if the deadline comes first.
structure Ensures (w : Surroundings) (own : Option KeptToken → Prop) (p : Program α)
    (Q : α → Prop) : Prop where
  ending : ∀ {k t z k'}, own k → (p.run.run k).Reaches t (.done (z, k')) → (∀ e ∈ t, w.Gave e) →
    own k' ∧ ((∃ a, z = some a ∧ Q a) ∨ z = none ∧ ∃ e ∈ t, Late e)

-- In these surroundings the program goes through these turns to this end, before the deadline.
structure Hosts (w : Surroundings) (p : Exchange α) (t : List (Turn Answer)) (a : α) : Prop where
  reaches : p.Reaches t (.done a)
  gave    : ∀ e ∈ t, w.Gave e
  inTime  : ∀ e ∈ t, ¬Late e

theorem gave_world : (q : Question) → w.Gave ⟨q, w.world q⟩
  | .wallClock                                                                 => trivial
  | .send .. | .pause .. | .makeDirectory _ | .storeFile .. | .readBack _ => .inl rfl

theorem not_late_world : (q : Question) → ¬Late ⟨q, w.world q⟩
  | .wallClock | .send .. | .pause .. | .makeDirectory _ | .storeFile .. | .readBack _ => id

theorem hosts_answeredBy (w : Surroundings) (p : Exchange α) :
    w.Hosts p (p.turnsIn w.world) (p.answeredBy (m := Id) w.world) := by
  have answered (e : Turn Answer) (he : e ∈ p.turnsIn w.world) : w.Gave e ∧ ¬Late e := by
    have h := Interaction.answer_of_mem_turnsIn he
    have ⟨q, x⟩ := e
    dsimp only at h
    subst h
    exact ⟨gave_world q, not_late_world q⟩
  exact ⟨Interaction.reaches_answeredBy w.world p, fun e he => (answered e he).1,
    fun e he => (answered e he).2⟩

theorem Comes.unique {b : α} (h : w.Comes p a) (h' : w.Comes p b) : a = b :=
  Option.some.inj (h.symm.trans h')

namespace Ensures

-- Programs that ask nothing.
theorem still (h : ∀ k, own k → ∃ a k', p.run.run k = .done (some a, k') ∧ own k' ∧ Q a) :
    w.Ensures own p Q := by
  constructor
  intro k t z k' hk reaches _
  have ⟨a, k₁, hp, hk₁, ha⟩ := h k hk
  rw [hp] at reaches
  have ⟨_, hd⟩ := reaches.done_elim
  cases hd
  exact ⟨hk₁, .inl ⟨a, rfl, ha⟩⟩

theorem pure {a : α} (h : Q a) : w.Ensures own (pure a) Q :=
  still fun k hk => ⟨a, k, rfl, hk, h⟩

theorem bind (h : w.Ensures own p P) (hf : ∀ a, P a → w.Ensures own (f a) R) :
    w.Ensures own (p >>= f) R := by
  constructor
  intro k t z k' hk reaches gave
  have ⟨t₁, t₂, y, ht, r₁, r₂⟩ := Reaches.bind_elim (p := p.run.run k) reaches
  subst ht
  have ⟨gave₁, gave₂⟩ := List.forall_mem_append.1 gave
  match y with
  | (y, k₁) =>
    have ⟨hk₁, ending⟩ := h.ending hk r₁ gave₁
    cases ending with
    | inl given =>
      have ⟨a, hy, ha⟩ := given
      subst hy
      have ⟨hk', ending⟩ := (hf a ha).ending hk₁ r₂ gave₂
      refine ⟨hk', ending.imp_right fun ⟨hz, e, he, late⟩ => ?_⟩
      exact ⟨hz, e, List.mem_append_right _ he, late⟩
    | inr cut   =>
      have ⟨hy, e, he, late⟩ := cut
      subst hy
      have ⟨_, hd⟩ := r₂.done_elim
      cases hd
      exact ⟨hk₁, .inr ⟨rfl, e, List.mem_append_left _ he, late⟩⟩

-- Before the deadline there is nothing but a value.
theorem given {k k' : Option KeptToken} {t : List (Turn Answer)} {z : Option α}
    (h : w.Ensures own p Q) (hk : own k) (hosts : w.Hosts (p.run.run k) t (z, k')) :
    ∃ a, z = some a ∧ Q a := by
  cases (h.ending hk hosts.reaches hosts.gave).2 with
  | inl given => exact given
  | inr cut   =>
    have ⟨_, e, he, late⟩ := cut
    exact absurd late (hosts.inTime e he)

theorem mono (h : w.Ensures own p P) (sub : ∀ a, P a → Q a) : w.Ensures own p Q := by
  constructor
  intro k t z k' hk reaches gave
  have ⟨hk', ending⟩ := h.ending hk reaches gave
  exact ⟨hk', ending.imp_left fun ⟨a, hz, ha⟩ => ⟨a, hz, sub a ha⟩⟩

-- What gives one value gives way to it.
theorem bind_eq {a : α} (h : w.Ensures own p (· = a)) (hf : w.Ensures own (f a) R) :
    w.Ensures own (p >>= f) R :=
  h.bind fun _ ha => ha ▸ hf

-- What it gives is what it comes to.
theorem comes (h : w.Ensures own p (· = a)) (fresh : own none) : w.Comes p a := by
  have ⟨reaches, gave, inTime⟩ := w.hosts_answeredBy (p.run.run none)
  have ⟨_, hz, ha⟩ := h.given fresh ⟨reaches, gave, inTime⟩
  exact ha ▸ hz

end Ensures

-- What the program gives is always the same.
def Settled (w : Surroundings) (own : Option KeptToken → Prop) (p : Program α) : Prop :=
  ∃ a, w.Ensures own p (· = a)

namespace Settled

theorem pure {a : α} : w.Settled own (pure a) :=
  ⟨a, .pure rfl⟩

theorem bind (h : w.Settled own p) (hf : ∀ a, w.Settled own (f a)) : w.Settled own (p >>= f) :=
  have ⟨a, ha⟩ := h
  have ⟨b, hb⟩ := hf a
  ⟨b, ha.bind_eq hb⟩

theorem comes (h : w.Settled own p) (fresh : own none) : w.Ensures own p (w.Comes p) :=
  have ⟨_, ha⟩ := h
  ha.mono fun _ same => same ▸ ha.comes fresh

end Settled

-- What is waited for is there, or else it comes too late.
theorem ensures_askInTime {q : Question} {f : Answer q → InTime α}
    (h : ∀ x, w.Gave ⟨q, x⟩ → f x = some a ∨ f x = none ∧ Late ⟨q, x⟩) :
    w.Ensures own (askInTime (f <$> Interaction.question q)) (· = a) := by
  constructor
  intro k t z k' hk reaches gave
  cases reaches with
  | @step _ _ x _ _ reaches =>
    have ⟨_, hd⟩ := reaches.done_elim
    cases hd
    refine ⟨hk, (h x (gave _ List.mem_cons_self)).imp (fun given => ⟨a, given, rfl⟩) ?_⟩
    exact fun ⟨cut, late⟩ => ⟨cut, _, List.mem_cons_self, late⟩

theorem ensures_sendOnce : w.Ensures own (sendOnce s q) (· = w.reply q) :=
  ensures_askInTime (q := .send q s.deadline) (f := id) fun
    | some _, gave => .inl (gave.resolve_right id)
    | none, _      => .inr ⟨rfl, trivial⟩

theorem ensures_pause {d : Duration} : w.Ensures own (pause s d) (· = ()) :=
  ensures_askInTime (q := .pause d s.deadline) (f := id) fun
    | some _, _ => .inl rfl
    | none, _   => .inr ⟨rfl, trivial⟩

theorem ensures_storeFile {earlier : Nat} {path : Staging.Path} {content : Bytes} :
    w.Ensures own (storeFile s earlier path content) (· = w.course earlier) :=
  ensures_askInTime (q := .storeFile earlier path content s.deadline) (f := id) fun
    | some _, gave => .inl (gave.resolve_right id)
    | none, _      => .inr ⟨rfl, trivial⟩

theorem ensures_readBack : w.Ensures own (readBack s) (· = w.reading) :=
  ensures_askInTime (q := .readBack s.deadline) (f := id) fun
    | some _, gave => .inl (gave.resolve_right id)
    | none, _      => .inr ⟨rfl, trivial⟩

-- Questions that are answered at once.
theorem ensures_ask {q : Question} {Q : Answer q → Prop} (h : ∀ x, w.Gave ⟨q, x⟩ → Q x) :
    w.Ensures own (ask q) Q := by
  constructor
  intro k t z k' hk reaches gave
  cases reaches with
  | @step _ _ x _ _ reaches =>
    have ⟨_, hd⟩ := reaches.done_elim
    cases hd
    exact ⟨hk, .inl ⟨x, rfl, h x (gave _ List.mem_cons_self)⟩⟩

theorem ensures_wallClock : w.Ensures own wallClock fun _ => True :=
  ensures_ask fun _ _ => trivial

theorem ensures_makeDirectory {root : Option String} :
    w.Ensures own (makeDirectory root) (· = w.made root) :=
  ensures_ask fun _ made => made.resolve_right id

theorem ensures_write {area : Staging.Area} {earlier : Nat} {title : String} {content : Bytes} :
    w.Ensures own (area.write (storeFile s earlier) title content)
      (· = area.writeOn (w.course earlier) title content) := by
  unfold Staging.Area.writeOn Staging.Area.write
  cases Staging.Title.path title with
  | error _ => exact .pure rfl
  | ok _    => exact ensures_storeFile.bind_eq (.pure rfl)

theorem ensures_get : w.Ensures own (get : Program (Option KeptToken)) own :=
  .still fun k hk => ⟨k, k, rfl, hk, hk⟩

theorem ensures_set {kept : Option KeptToken} (h : own kept) :
    w.Ensures own (set kept : Program PUnit) fun _ => True :=
  .still fun _ _ => ⟨_, kept, rfl, h, trivial⟩

-- Requests and whole retrievals are settled, wherever they are sent on to.

theorem settled_follow {budget : Nat} : w.Settled own (follow s budget q) := by
  induction budget generalizing q with
  | zero =>
    unfold follow
    refine .bind ⟨_, ensures_sendOnce⟩ fun reply => ?_
    cases reply with
    | nothing           => exact .pure
    | response response =>
      dsimp only
      cases q.redirected? response <;> exact .pure
  | succ budget hi =>
    unfold follow
    refine .bind ⟨_, ensures_sendOnce⟩ fun reply => ?_
    cases reply with
    | nothing           => exact .pure
    | response response =>
      dsimp only
      cases q.redirected? response with
      | none   => exact .pure
      | some _ => exact hi

theorem settled_send {authorization : Option String} :
    w.Settled own (send s method address authorization) := by
  unfold send
  cases Url.ofText? address with
  | none   => exact .pure
  | some _ => exact settled_follow

theorem settled_requestBearer {repository realm : String} {service : Option String} :
    w.Settled own (requestBearer s repository realm service) := by
  unfold requestBearer
  cases Url.ofText? realm with
  | none   => exact .pure
  | some _ =>
    refine settled_follow.bind fun came => ?_
    cases came with
    | error _ => exact .pure
    | ok _    =>
      dsimp only
      split <;> exact .pure

theorem settled_requestToken : w.Settled own (requestToken s r) := by
  unfold requestToken
  refine settled_send.bind fun came => ?_
  cases came with
  | error _ => exact .pure
  | ok a    =>
    dsimp only
    cases a.response.header? "www-authenticate" with
    | none        => exact .pure
    | some header =>
      dsimp only
      cases bearerChallenge? header with
      | none   => exact .pure
      | some _ => exact settled_requestBearer

-- A token that is kept is the one that is handed out.
def Own (w : Surroundings) (s : Source) (r : Reference) (k : Option KeptToken) : Prop :=
  ∀ kept ∈ k, w.Comes (requestToken s r) (some kept.token)

theorem own_none : w.Own s r none :=
  nofun

theorem own_keep? {token : Token} {now : Nat} (h : w.Comes (requestToken s r) (some token)) :
    w.Own s r (KeptToken.keep? token now) := by
  intro kept hk
  unfold KeptToken.keep? at hk
  split at hk <;> cases hk <;> exact h

theorem ensures_keptToken : w.Ensures (w.Own s r) keptToken
    fun token => ∀ t ∈ token, w.Comes (requestToken s r) (some t) := by
  unfold keptToken
  refine ensures_get.bind fun k own => ?_
  cases k with
  | none      => exact .pure nofun
  | some kept =>
    have good : ∀ t ∈ some kept.token, w.Comes (requestToken s r) (some t) := by
      intro t ht
      cases ht
      exact own kept rfl
    dsimp only
    split
    · exact .pure good
    · refine ensures_wallClock.bind fun now _ => .pure ?_
      split
      · exact good
      · exact nofun

-- Whether it is kept or not, it is the token that is handed out.
theorem ensures_token : w.Ensures (w.Own s r) (token s r) (w.Comes (requestToken s r)) := by
  unfold token
  refine ensures_keptToken.bind fun kept good => ?_
  cases kept with
  | some token => exact .pure (good token rfl)
  | none       =>
    refine (settled_requestToken.comes own_none).bind fun found comes => ?_
    cases found with
    | none       => exact .pure comes
    | some token =>
      have keeps {now : Nat} : w.Ensures (w.Own s r)
          (set (KeptToken.keep? token now) : Program PUnit) fun _ => True :=
        ensures_set (own_keep? comes)
      dsimp only
      split
      · exact keeps.bind fun _ _ => .pure comes
      · exact .pure comes
      · exact ensures_wallClock.bind fun _ _ => keeps.bind fun _ _ => .pure comes

theorem settled_token : w.Settled (w.Own s r) (token s r) :=
  have requested : w.Settled (w.Own s r) (requestToken s r) := settled_requestToken
  have ⟨_, given⟩ := requested
  ⟨_, ensures_token.mono fun _ comes => comes.unique (given.comes own_none)⟩

theorem settled_sendWithToken : w.Settled (w.Own s r) (sendWithToken s r method address) :=
  settled_token.bind fun _ => settled_send

theorem settled_manifest : w.Settled (w.Own s r) (s.manifest r) := by
  unfold Source.manifest
  refine settled_sendWithToken.bind fun came => ?_
  cases came <;> exact .pure

theorem settled_elsewhere {came : Arrival} {urls : List String} :
    w.Settled own (s.elsewhere came urls) := by
  induction urls generalizing came with
  | nil => exact .pure
  | cons address rest hi =>
    unfold Source.elsewhere
    split
    · exact .pure
    · cases Url.ofText? address with
      | none     => exact .pure
      | some url =>
        dsimp only
        split
        · refine settled_follow.bind fun next => ?_
          cases next with
          | error _ => exact .pure
          | ok _    => exact hi
        · exact hi

theorem settled_blob {l : Descriptor} : w.Settled (w.Own s r) (s.blob r l) := by
  unfold blob
  refine settled_sendWithToken.bind fun came => ?_
  cases came with
  | error _ => exact .pure
  | ok _    =>
    refine settled_elsewhere.bind fun last => ?_
    cases last <;> exact .pure

-- To try again is of no use where the same comes of it.
theorem ensures_persistently {op : Program (Except Failure α)} {x : Except Failure α}
    (h : w.Ensures own op (· = x)) : w.Ensures own (s.persistently op) (· = x) := by
  have attempts (budget attempt : Nat) : w.Ensures own
      (s.client.options.retry.attemptFrom Failure.isTransient (Program.pause s) op budget attempt)
      (· = x) := by
    induction budget generalizing attempt with
    | zero           => exact h
    | succ budget hi =>
      refine h.bind_eq ?_
      cases x with
      | ok _    => exact .pure rfl
      | error f =>
        dsimp only
        split
        · exact ensures_pause.bind fun _ _ => hi (attempt + 1)
        · exact .pure rfl
  exact attempts _ _

end Surroundings

end ArtifactSync.Registry
