import ArtifactSync.Proofs.Registry.Passing

namespace ArtifactSync.Registry

open Http (Method Request Response)
open Interaction (Reaches Turn)

namespace Program

-- A request and those that it is sent on as, from one response to the next.
inductive Chain (s : Source) : Request → List (Turn Answer) → Prop
  | waiting {req} : Chain s req []
  | sent {req reply} : Chain s req [⟨.send req s.deadline, reply⟩]
  | redirected {req next : Request} {response t} :
    req.redirected? response = some next → Chain s next t →
    Chain s req (⟨.send req s.deadline, some (.response response)⟩ :: t)

-- An address is asked, if it is one.
inductive Calls (s : Source) (method : Method) (address : String) : List (Turn Answer) → Prop
  | none : Calls s method address []
  | made {url authorization t} :
    Url.ofText? address = some url → Chain s { method, url, authorization } t →
    Calls s method address t

-- Where a registry says how it wants to be told who asks.
def entry (s : Source) (r : Reference) : String :=
  s!"{s.client.scheme r}://{r.host}/v2/"

-- The time is asked for, if anything is.
inductive Glances : List (Turn Answer) → Prop
  | none : Glances []
  | once {now} : Glances [⟨.wallClock, now⟩]

-- The place that hands out tokens is asked for one, if its address is one.
inductive Applies (s : Source) (repository realm : String) (service : Option String) :
    List (Turn Answer) → Prop
  | none : Applies s repository realm service []
  | made {url authorization t} :
    Url.ofText? realm = some url →
    Chain s { url := withQuery url (scopeQuery repository service), authorization } t →
    Applies s repository realm service t

-- What is asked to find out what to say who asks: the registry, then the place that its answer
-- names, and before and after it the time.
inductive Authenticates (s : Source) (r : Reference) : List (Turn Answer) → Prop
  | challenge {t} : Calls s .get (entry s r) t → Authenticates s r t
  | realm {t₁ t₂ a header realm service} :
    Calls s .get (entry s r) t₁ → Ends s .get t₁ (.ok a) →
    a.response.header? "www-authenticate" = some header →
    bearerChallenge? header = some (realm, service) → Applies s r.repository realm service t₂ →
    Authenticates s r (t₁ ++ t₂)
  | before {t now} : Authenticates s r t → Authenticates s r (⟨.wallClock, now⟩ :: t)
  | after {t now} : Authenticates s r t → Authenticates s r (t ++ [⟨.wallClock, now⟩])

-- A request for the reference, after the registry has been asked how to make it.
inductive Requests (s : Source) (r : Reference) (method : Method) (address : String) :
    List (Turn Answer) → Prop
  | of {t₁ t₂} : Authenticates s r t₁ → Calls s method address t₂ →
    Requests s r method address (t₁ ++ t₂)

-- The calls have come to a refusal.
def Declined (s : Source) (t : List (Turn Answer)) : Prop :=
  ∃ a, Ends s .get t (.ok a) ∧ a.response.status.isError

-- The addresses are asked in order, each of them only after the call before has been refused.
inductive Elsewhere (s : Source) : List (Turn Answer) → List String → List (Turn Answer) → Prop
  | none {t addresses} : Elsewhere s t addresses []
  | skipped {t address addresses t'} :
    Elsewhere s t addresses t' → Elsewhere s t (address :: addresses) t'
  | asked {t address addresses t₁ t₂} :
    Declined s t → Calls s .get address t₁ → Elsewhere s t₁ addresses t₂ →
    Elsewhere s t (address :: addresses) (t₁ ++ t₂)

variable {α β : Type} {x : Program α} {f : α → Program β} {a : α} {b : β}
  {P Q : List (Turn Answer) → Prop} {k k' : Option KeptToken} {t t₁ t₂ : List (Turn Answer)}
  {s : Source} {r : Reference} {req : Request} {method : Method} {address : String}

-- Whatever the answers are and wherever the program is left off, the calls so far are like this.
def Confined (x : Program α) (P : List (Turn Answer) → Prop) : Prop :=
  ∀ k t p, (x.run.run k).Reaches t p → P t

namespace Confined

theorem of_gives (h : Confined x P) (given : Gives x k t a k') : P t :=
  h k t _ given

theorem nil (h : Confined x P) : P [] :=
  h none [] _ .refl

theorem mono (h : Confined x P) (sub : ∀ t, P t → Q t) : Confined x Q :=
  fun k t p r => sub t (h k t p r)

-- A program that asks nothing.
theorem still (done : ∀ k, ∃ z, x.run.run k = .done z) (h : P []) : Confined x P := by
  intro k t p r
  have ⟨_, done⟩ := done k
  rw [done] at r
  rwa [r.done_elim.1]

theorem pure (h : P []) : Confined (pure a) P :=
  still (fun _ => ⟨_, rfl⟩) h

-- One question, if it comes to that.
theorem question {q : Question}
    (h : ∀ k, ∃ g : Answer q → Option α × Option KeptToken,
      x.run.run k = .ask q fun y => .done (g y))
    (before : P []) (after : ∀ y, P [⟨q, y⟩]) : Confined x P := by
  intro k t p r
  have ⟨g, asks⟩ := h k
  rw [asks] at r
  cases r.ask_cases with
  | inl ht => rwa [ht]
  | inr ht =>
    have ⟨y, ht⟩ := ht
    rw [ht]
    exact after y

theorem bind (h : Confined x P)
    (hf : ∀ {k t a k'}, Gives x k t a k' → Confined (f a) fun t' => P (t ++ t')) :
    Confined (x >>= f) P := by
  intro k t p r
  cases Reaches.bind_cases (p := x.run.run k) r with
  | inl first  =>
    have ⟨_, r₁⟩ := first
    exact h _ _ _ r₁
  | inr second =>
    have ⟨t₁, t₂, y, ht, r₁, r₂⟩ := second
    subst ht
    match y with
    | (some a, k₁) => exact hf r₁ _ _ _ r₂
    | (none, _)    =>
      rw [r₂.done_elim.1, List.append_nil]
      exact h _ _ _ r₁

-- What comes first asks nothing.
theorem silent (done : ∀ k, ∃ z, x.run.run k = .done z) (h : P []) (hf : ∀ a, Confined (f a) P) :
    Confined (x >>= f) P := by
  refine bind (still done h) fun {k t a k'} given => ?_
  have ⟨_, done⟩ := done k
  rw [Gives, done] at given
  rw [given.done_elim.1]
  exact hf a

-- What follows asks nothing.
theorem rest (h : Confined x P) (given : Gives x k t a k') :
    Confined (Pure.pure b) fun t' => P (t ++ t') := by
  refine .pure ?_
  rw [List.append_nil]
  exact h.of_gives given

theorem map {g : α → β} (h : Confined x P) : Confined (g <$> x) P :=
  h.bind (f := fun a => Pure.pure (g a)) fun given => h.rest given

end Confined

theorem confined_sendOnce : Confined (sendOnce s req) (Chain s req) :=
  .question (fun _ => ⟨_, rfl⟩) .waiting fun _ => .sent

theorem confined_follow {budget : Nat} : Confined (follow s budget req) (Chain s req) := by
  induction budget generalizing req with
  | zero =>
    unfold follow
    refine confined_sendOnce.bind fun {_ _ reply _} sent => ?_
    cases reply with
    | nothing           => exact confined_sendOnce.rest sent
    | response response =>
      dsimp only
      cases req.redirected? response <;> exact confined_sendOnce.rest sent
  | succ budget hi =>
    unfold follow
    refine confined_sendOnce.bind fun {_ _ reply _} sent => ?_
    cases reply with
    | nothing           => exact confined_sendOnce.rest sent
    | response response =>
      dsimp only
      cases there : req.redirected? response with
      | none   => exact confined_sendOnce.rest sent
      | some _ =>
        rw [(gives_sendOnce sent).1]
        exact hi.mono fun _ => .redirected there

theorem confined_send {authorization : Option String} :
    Confined (send s method address authorization) (Calls s method address) := by
  unfold send
  cases there : Url.ofText? address with
  | none   => exact .pure .none
  | some _ => exact confined_follow.mono fun _ => .made there

theorem confined_wallClock : Confined wallClock Glances :=
  .question (fun _ => ⟨_, rfl⟩) .none fun _ => .once

theorem confined_keptToken : Confined keptToken Glances := by
  unfold keptToken
  refine Confined.silent (x := (get : Program _)) (fun _ => ⟨_, rfl⟩) .none fun kept => ?_
  cases kept with
  | none      => exact .pure .none
  | some kept =>
    dsimp only
    split
    · exact .pure .none
    · exact confined_wallClock.bind fun read => confined_wallClock.rest read

theorem send_ends {authorization : Option String} {a : Arrival}
    (h : Gives (send s method address authorization) k t (.ok a) k') :
    Ends s method t (.ok a) := by
  cases send_sent h with
  | addressed _ ends => exact ends

theorem confined_requestBearer {repository realm : String} {service : Option String} :
    Confined (requestBearer s repository realm service) (Applies s repository realm service) := by
  unfold requestBearer
  cases there : Url.ofText? realm with
  | none     => exact .pure .none
  | some url =>
    have asked {authorization : Option String} :
        let url := withQuery url (scopeQuery repository service)
        Confined (follow s maxRedirects { url, authorization })
          (Applies s repository realm service) :=
      confined_follow.mono fun _ => .made there
    refine asked.bind fun {_ _ came _} followed => ?_
    cases came with
    | error _ => exact asked.rest followed
    | ok _    =>
      dsimp only
      split <;> exact asked.rest followed

theorem confined_requestToken : Confined (requestToken s r) (Authenticates s r) := by
  have asked : Confined (send s .get (entry s r) none) (Calls s .get (entry s r)) := confined_send
  have challenged := asked.mono fun _ => Authenticates.challenge
  unfold requestToken
  refine challenged.bind fun {_ t came _} sent => ?_
  cases came with
  | error _ => exact challenged.rest sent
  | ok a    =>
    dsimp only
    cases named : a.response.header? "www-authenticate" with
    | none        => exact challenged.rest sent
    | some header =>
      dsimp only
      cases challenge : bearerChallenge? header with
      | none   => exact challenged.rest sent
      | some _ =>
        exact confined_requestBearer.mono fun _ =>
          .realm (asked.of_gives sent) (send_ends sent) named challenge

theorem Authenticates.glances (first : Glances t₁) (rest : Authenticates s r t₂) :
    Authenticates s r (t₁ ++ t₂) := by
  cases first with
  | none => exact rest
  | once => exact .before rest

theorem confined_token : Confined (token s r) (Authenticates s r) := by
  have nothing : Authenticates s r [] := .challenge .none
  have looked : Confined keptToken (Authenticates s r) :=
    confined_keptToken.mono fun t glances => by simpa using nothing.glances glances
  unfold token
  refine looked.bind fun {_ t₁ kept _} given => ?_
  cases kept with
  | some _ => exact looked.rest given
  | none   =>
    have asked : Confined (requestToken s r) fun t₂ => Authenticates s r (t₁ ++ t₂) :=
      confined_requestToken.mono fun _ => .glances (confined_keptToken.of_gives given)
    refine asked.bind fun {_ t₂ found _} given => ?_
    cases found with
    | none       => exact asked.rest given
    | some token =>
      have came : Authenticates s r (t₁ ++ (t₂ ++ [])) := by
        simpa using asked.of_gives given
      have timed : Confined wallClock fun t₃ => Authenticates s r (t₁ ++ (t₂ ++ t₃)) := by
        refine confined_wallClock.mono fun t₃ glances => ?_
        cases glances with
        | none => exact came
        | once => simpa using (asked.of_gives given).after
      dsimp only
      split
      · exact .still (fun _ => ⟨_, rfl⟩) came
      · exact asked.rest given
      · refine timed.bind fun read => .still (fun _ => ⟨_, rfl⟩) ?_
        simpa using timed.of_gives read

theorem confined_sendWithToken :
    Confined (sendWithToken s r method address) (Requests s r method address) := by
  have told : Confined (token s r) (Requests s r method address) :=
    confined_token.mono fun t authenticates => by simpa using Requests.of authenticates .none
  refine told.bind fun {_ t _ _} given => ?_
  exact confined_send.mono fun _ => .of (confined_token.of_gives given)

end Program

open Program
open Source

namespace Task

-- The requests of one attempt: for a digest the headers alone, and then all of the manifest; for a
-- layer its blob, and as long as that is refused the other addresses that the layer has.
def Attempted (s : Source) (t : List (Turn Answer)) : Task → Prop
  | digest r   => ∃ t₁ t₂, t = t₁ ++ t₂ ∧ Requests s r .head (s.manifestAddress r) t₁ ∧
    Requests s r .get (s.manifestAddress r) t₂
  | manifest r => Requests s r .get (s.manifestAddress r) t
  | layer r l  => ∃ t₁ t₂ t₃, t = t₁ ++ (t₂ ++ t₃) ∧ Authenticates s r t₁ ∧
    Calls s .get (s.blobAddress r l.digest) t₂ ∧ Elsewhere s t₂ (l.urls.getD []) t₃

variable {s : Source} {task : Task} {t₀ : List (Turn Answer)} {a : Arrival} {urls : List String}

theorem confined_elsewhere (ends : Ends s .get t₀ (.ok a)) :
    Confined (s.elsewhere a urls) (Elsewhere s t₀ urls) := by
  induction urls generalizing a t₀ with
  | nil => exact .pure .none
  | cons address rest hi =>
    unfold elsewhere
    split
    case isTrue          => exact .pure .none
    case isFalse refused =>
      have declined : Declined s t₀ := ⟨a, ends, by simpa using refused⟩
      cases there : Url.ofText? address with
      | none     => exact .pure .none
      | some url =>
        dsimp only
        split
        case isTrue  =>
          have called : Confined (follow s maxRedirects { url }) (Calls s .get address) :=
            confined_follow.mono fun _ => .made there
          have asked : Confined (follow s maxRedirects { url })
              (Elsewhere s t₀ (address :: rest)) :=
            called.mono fun t calls => by simpa using Elsewhere.asked declined calls .none
          refine asked.bind fun {_ t₁ came _} followed => ?_
          cases came with
          | error _ => exact asked.rest followed
          | ok _    =>
            exact (hi (follow_ends followed)).mono fun _ =>
              .asked declined (called.of_gives followed)
        case isFalse => exact (hi ends).mono fun _ => .skipped

theorem confined_manifestDigest {r : Reference} :
    Confined (s.manifestDigest r) ((digest r).Attempted s ·) := by
  have none : Requests s r .get (s.manifestAddress r) [] := .of (.challenge .none) .none
  have head : Confined (sendWithToken s r .head (s.manifestAddress r)) ((digest r).Attempted s ·) :=
    confined_sendWithToken.mono fun t requests => ⟨t, [], by simp, requests, none⟩
  unfold manifestDigest
  refine head.bind fun {_ t₁ came _} sent => ?_
  cases came with
  | error _ => exact head.rest sent
  | ok _    =>
    dsimp only
    split
    case isTrue  => exact head.rest sent
    case isFalse =>
      have whole : Confined (sendWithToken s r .get (s.manifestAddress r))
          fun t₂ => (digest r).Attempted s (t₁ ++ t₂) :=
        confined_sendWithToken.mono fun t₂ requests =>
          ⟨t₁, t₂, rfl, confined_sendWithToken.of_gives sent, requests⟩
      refine whole.bind fun {_ _ came _} sent => ?_
      cases came <;> exact whole.rest sent

theorem confined_manifest {r : Reference} :
    Confined (s.manifest r) ((manifest r).Attempted s ·) := by
  have asked : Confined (sendWithToken s r .get (s.manifestAddress r))
      ((manifest r).Attempted s ·) := confined_sendWithToken
  unfold Source.manifest
  refine asked.bind fun {_ _ came _} sent => ?_
  cases came <;> exact asked.rest sent

theorem confined_blob {r : Reference} {l : Descriptor} :
    Confined (s.blob r l) ((layer r l).Attempted s ·) := by
  have own : Confined (sendWithToken s r .get (s.blobAddress r l.digest))
      ((layer r l).Attempted s ·) := by
    refine confined_sendWithToken.mono fun t requests => ?_
    cases requests with
    | @of t₁ t₂ authenticates calls => exact ⟨t₁, t₂, [], by simp, authenticates, calls, .none⟩
  unfold blob
  refine own.bind fun {_ t came _} given => ?_
  cases came with
  | error _ => exact own.rest given
  | ok a    =>
    have ⟨t₁, t₂, _, _, ht, told, sent⟩ := gives_bind given
    have authenticates := confined_token.of_gives told
    have calls := confined_send.of_gives sent
    have further : Confined (s.elsewhere a (l.urls.getD []))
        fun t₃ => (layer r l).Attempted s (t ++ t₃) :=
      (confined_elsewhere (send_ends sent)).mono fun t₃ elsewhere =>
        ⟨t₁, t₂, t₃, by simp [ht], authenticates, calls, elsewhere⟩
    refine further.bind fun {_ _ came _} went => ?_
    cases came <;> exact further.rest went

-- However far an attempt comes, it has requested nothing else.
theorem confined_attempt : Confined (task.attempt s) (task.Attempted s ·) := by
  cases task with
  | digest r   => exact confined_manifestDigest
  | manifest r => exact confined_manifest
  | layer r l  => exact confined_blob

end Task

end ArtifactSync.Registry
