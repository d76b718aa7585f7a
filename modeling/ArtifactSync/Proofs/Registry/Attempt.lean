import ArtifactSync.Proofs.Fallible
import ArtifactSync.Proofs.Interaction.Reaches
import ArtifactSync.Registry.Fetch

namespace ArtifactSync.Registry

open Fallible (bind_ok)
open Http (Method Reply Request Response)
open Interaction (Reaches Turn)

namespace Program

variable {α β : Type} {x : Program α} {f : α → Program β} {a a' : α} {b : β}
  {k k' : Option KeptToken} {t t₁ t₂ : List (Turn Answer)} {s : Source} {r : Reference}
  {req : Request} {method : Method} {address : String}

-- With this token to begin with, and with these answers, the program gives this value and leaves
-- that token. The deadline has not come.
def Gives (x : Program α) (k : Option KeptToken) (t : List (Turn Answer)) (a : α)
    (k' : Option KeptToken) : Prop :=
  (x.run.run k).Reaches t (.done (some a, k'))

theorem gives_pure (h : Gives (pure a) k t a' k') : a' = a ∧ t = [] ∧ k' = k := by
  have ⟨ht, hd⟩ := Reaches.done_elim h
  cases hd
  exact ⟨rfl, ht, rfl⟩

theorem gives_bind (h : Gives (x >>= f) k t b k') :
    ∃ t₁ t₂ a k₁, t = t₁ ++ t₂ ∧ Gives x k t₁ a k₁ ∧ Gives (f a) k₁ t₂ b k' := by
  have ⟨t₁, t₂, r, ht, h₁, h₂⟩ := Reaches.bind_elim (p := x.run.run k) h
  match r with
  | (some a, k₁) => exact ⟨t₁, t₂, a, k₁, ht, h₁, h₂⟩
  | (none, _) =>
    have ⟨_, hd⟩ := Reaches.done_elim h₂
    cases hd

theorem Gives.reaches_bind (h : Gives x k t a k') :
    ((x >>= f).run.run k).Reaches t ((f a).run.run k') :=
  Reaches.bind h

theorem gives_map {g : α → β} (h : Gives (g <$> x) k t b k') :
    ∃ a, b = g a ∧ Gives x k t a k' := by
  have ⟨t₁, t₂, a, k₁, ht, h₁, h₂⟩ := gives_bind (f := fun a => pure (g a)) h
  have ⟨hb, ht₂, hk⟩ := gives_pure h₂
  subst ht ht₂ hk
  exact ⟨a, hb, by simpa using h₁⟩

-- What is waited for came in time, and no token was touched.
theorem gives_askInTime {q : Exchange (InTime α)} (h : Gives (askInTime q) k t a k') :
    q.Reaches t (.done (some a)) ∧ k' = k := by
  have ⟨t₁, t₂, x, ht, asked, kept⟩ := Reaches.bind_elim h
  have ⟨ht₂, hd⟩ := kept.done_elim
  cases hd
  rw [ht, ht₂, List.append_nil]
  exact ⟨asked, rfl⟩

theorem gives_sendOnce {reply : Reply} (h : Gives (sendOnce s req) k t reply k') :
    t = [⟨.send req s.deadline, some reply⟩] ∧ k' = k :=
  (gives_askInTime h).imp_left Reaches.question_elim

theorem gives_pause {d : Duration} {u : Unit} (h : Gives (pause s d) k t u k') :
    t = [⟨.pause d s.deadline, some ()⟩] ∧ k' = k :=
  (gives_askInTime h).imp_left Reaches.question_elim

theorem gives_storeFile {earlier : Nat} {p : Staging.Path} {content : Bytes}
    {course : Staging.Course} (h : Gives (storeFile s earlier p content) k t course k') :
    t = [⟨.storeFile earlier p content s.deadline, some course⟩] ∧ k' = k :=
  (gives_askInTime h).imp_left Reaches.question_elim

theorem gives_readBack {reading : Staging.Reading} (h : Gives (readBack s) k t reading k') :
    t = [⟨.readBack s.deadline, some reading⟩] ∧ k' = k :=
  (gives_askInTime h).imp_left Reaches.question_elim

-- The last of the calls was this request, and this came of it.
def EndsWith (s : Source) (t : List (Turn Answer)) (req : Request) (reply : Reply) : Prop :=
  ∃ before, t = before ++ [⟨.send req s.deadline, some reply⟩]

theorem EndsWith.append {reply : Reply} (e : EndsWith s t₂ req reply) :
    EndsWith s (t₁ ++ t₂) req reply := by
  have ⟨before, ht⟩ := e
  exact ⟨t₁ ++ before, by rw [ht, List.append_assoc]⟩

theorem EndsWith.mem {reply : Reply} (e : EndsWith s t req reply) :
    ⟨.send req s.deadline, some reply⟩ ∈ t := by
  have ⟨_, ht⟩ := e
  simp [ht]

theorem EndsWith.unique {req' : Request} {reply reply' : Reply} (e : EndsWith s t req reply)
    (e' : EndsWith s t req' reply') : req = req' ∧ reply = reply' := by
  have ⟨_, ht⟩ := e
  have ⟨_, ht'⟩ := e'
  have ⟨_, hl⟩ := List.append_inj' (ht.symm.trans ht') rfl
  cases hl
  exact ⟨rfl, rfl⟩

-- What the last reply is taken for.
inductive Reports (req : Request) : Reply → Except RequestFailure Arrival → Prop
  | unanswered : Reports req .nothing (.error (.unanswered req.url.text))
  | redirected {response : Response} : (req.redirected? response).isSome →
    Reports req (.response response) (.error (.tooManyRedirects req.url.text))
  | arrived {response : Response} : (req.redirected? response = none) →
    Reports req (.response response) (.ok ⟨response, req.url⟩)

-- How a request ends that may have been sent on from one place to the next.
inductive Ends (s : Source) (method : Method) (t : List (Turn Answer))
    (x : Except RequestFailure Arrival) : Prop
  | with {req : Request} {reply : Reply} :
    EndsWith s t req reply → (req.method = method) → Reports req reply x → Ends s method t x

theorem Ends.append {x : Except RequestFailure Arrival} (e : Ends s method t₂ x) :
    Ends s method (t₁ ++ t₂) x := by
  have ⟨last, hm, reports⟩ := e
  exact ⟨last.append, hm, reports⟩

theorem method_redirected? {next : Request} {response : Response}
    (h : req.redirected? response = some next) : next.method = req.method := by
  simp only [Request.redirected?, Option.bind_eq_bind, Option.pure_def] at h
  split at h
  case isTrue  => cases h
  case isFalse =>
    simp only [Option.bind_eq_some_iff] at h
    have ⟨_, _, _, _, _, _, hn⟩ := h
    cases hn
    rfl

-- One request, and what is left to do if the response names another place.
theorem gives_follow {budget : Nat} {x : Except RequestFailure Arrival}
    (h : Gives (follow s budget req) k t x k') :
    ∃ reply rest, t = [⟨.send req s.deadline, some reply⟩] ++ rest ∧
      ((rest = [] ∧ Reports req reply x) ∨
        ∃ less response next, budget = less + 1 ∧ reply = .response response ∧
          req.redirected? response = some next ∧ Gives (follow s less next) k rest x k') := by
  unfold follow at h
  have ⟨t₁, rest, reply, k₁, ht, sent, go⟩ := gives_bind h
  have ⟨ht₁, hk⟩ := gives_sendOnce sent
  subst hk
  refine ⟨reply, rest, by rw [ht, ht₁], ?_⟩
  match reply with
  | .nothing =>
    have ⟨hx, hr, _⟩ := gives_pure go
    subst hx
    exact .inl ⟨hr, .unanswered⟩
  | .response response =>
    dsimp only at go
    split at go
    case h_1 here =>
      have ⟨hx, hr, _⟩ := gives_pure go
      subst hx
      exact .inl ⟨hr, .arrived here⟩
    case h_2 next there =>
      split at go
      case h_1 =>
        have ⟨hx, hr, _⟩ := gives_pure go
        subst hx
        exact .inl ⟨hr, .redirected (by simp [there])⟩
      case h_2 less => exact .inr ⟨less, response, next, rfl, rfl, there, go⟩

theorem follow_ends {budget : Nat} {x : Except RequestFailure Arrival}
    (h : Gives (follow s budget req) k t x k') : Ends s req.method t x := by
  induction budget using Nat.strongRecOn generalizing req t with
  | ind budget hi =>
    have ⟨reply, rest, ht, ending⟩ := gives_follow h
    cases ending with
    | inl last =>
      have ⟨hr, reports⟩ := last
      exact ⟨⟨[], by rw [ht, hr]; rfl⟩, rfl, reports⟩
    | inr more =>
      have ⟨less, response, next, hb, _, there, go⟩ := more
      rw [ht, ← method_redirected? there]
      exact (hi less (by omega) go).append

-- Without an address there is no request.
inductive Sent (s : Source) (method : Method) (address : String) (t : List (Turn Answer)) :
    Except RequestFailure Arrival → Prop
  | unaddressed : (Url.ofText? address = none) → Sent s method address t (.error .badAddress)
  | addressed {x : Except RequestFailure Arrival} :
    (Url.ofText? address).isSome → Ends s method t x → Sent s method address t x

theorem Sent.append {x : Except RequestFailure Arrival} (sent : Sent s method address t₂ x) :
    Sent s method address (t₁ ++ t₂) x := by
  cases sent with
  | unaddressed none    => exact .unaddressed none
  | addressed some ends => exact .addressed some ends.append

theorem send_sent {authorization : Option String} {x : Except RequestFailure Arrival}
    (h : Gives (send s method address authorization) k t x k') : Sent s method address t x := by
  unfold send at h
  split at h
  case h_1 url there  => exact .addressed (by simp [there]) (follow_ends h)
  case h_2 none =>
    have ⟨hx, _⟩ := gives_pure h
    exact hx ▸ .unaddressed none

theorem sendWithToken_sent {x : Except RequestFailure Arrival}
    (h : Gives (sendWithToken s r method address) k t x k') : Sent s method address t x := by
  have ⟨t₁, t₂, token, k₁, ht, _, sent⟩ := gives_bind h
  exact ht ▸ (send_sent sent).append

-- In the course of these calls the address was asked, and this came of it, wherever it led to.
def Asked (s : Source) (method : Method) (address : String) (t : List (Turn Answer))
    (x : Except RequestFailure Arrival) : Prop :=
  ∃ authorization during k k', during <:+: t ∧
    Gives (send s method address authorization) k during x k'

theorem Asked.mono {x : Except RequestFailure Arrival} (asked : Asked s method address t₁ x)
    (sub : t₁ <:+: t₂) : Asked s method address t₂ x := by
  have ⟨authorization, during, k, k', inner, sent⟩ := asked
  exact ⟨authorization, during, k, k', inner.trans sub, sent⟩

theorem sendWithToken_asked {x : Except RequestFailure Arrival}
    (h : Gives (sendWithToken s r method address) k t x k') : Asked s method address t x := by
  have ⟨t₁, t₂, token, k₁, ht, _, sent⟩ := gives_bind h
  exact ⟨_, t₂, k₁, k', ⟨t₁, [], by simp [ht]⟩, sent⟩

end Program

namespace Source

open Program
open Retrieval

variable {α : Type} {s : Source} {r : Reference} {layer : Descriptor} {a : Arrival}
  {k k' : Option KeptToken} {t t₀ : List (Turn Answer)} {urls : List String}

-- A request that failed is a failed retrieval. Otherwise it depends on what came.
def judged (judge : Arrival → Except Failure α) :
    Except RequestFailure Arrival → Except Failure α
  | .error f => .error (.request f)
  | .ok a    => judge a

theorem judged_sends {judge : Arrival → Except Failure α} {method : Method} {address : String}
    {x : Except Failure α}
    (h : Gives (do
      match ← sendWithToken s r method address with
      | .error f => return .error (.request f)
      | .ok a => return judge a) k t x k') :
    ∃ y, Gives (sendWithToken s r method address) k t y k' ∧ x = judged judge y := by
  have ⟨t₁, t₂, y, k₁, ht, sent, go⟩ := gives_bind h
  have settled : Gives (pure (judged judge y)) k₁ t₂ x k' := by
    cases y <;> exact go
  have ⟨hx, done, hk⟩ := gives_pure settled
  rw [done, List.append_nil] at ht
  exact ⟨y, ht ▸ hk ▸ sent, hx⟩

theorem manifest_sends {x : Except Failure (Manifest × String)}
    (h : Gives (s.manifest r) k t x k') :
    ∃ y, Gives (sendWithToken s r .get (s.manifestAddress r)) k t y k' ∧
      x = judged (manifestOf (s.manifestAddress r) ·.response) y :=
  judged_sends h

theorem manifest_sent {x : Except Failure (Manifest × String)}
    (h : Gives (s.manifest r) k t x k') :
    ∃ y, Sent s .get (s.manifestAddress r) t y ∧
      x = judged (manifestOf (s.manifestAddress r) ·.response) y := by
  have ⟨y, sends, hx⟩ := manifest_sends h
  exact ⟨y, sendWithToken_sent sends, hx⟩

-- The digest is in what came last, be that the headers alone or all of the manifest.
theorem manifestDigest_sends {x : Except Failure String}
    (h : Gives (s.manifestDigest r) k t x k') :
    (∃ y, Gives (sendWithToken s r .head (s.manifestAddress r)) k t y k' ∧
        x = judged (digestOfHead (s.manifestAddress r) ·.response) y ∧
        ∀ a, y = .ok a → (a.response.header? digestHeader).isSome) ∨
      ∃ t₁ t₂ k₁ y, t = t₁ ++ t₂ ∧
        Gives (sendWithToken s r .get (s.manifestAddress r)) k₁ t₂ y k' ∧
        x = judged (digestOfWhole (s.manifestAddress r) ·.response) y := by
  have ⟨t₁, t₂, y, k₁, ht, sent, go⟩ := gives_bind h
  have alone (done : t₂ = []) (hk : k' = k₁) :
      Gives (sendWithToken s r .head (s.manifestAddress r)) k t y k' := by
    rw [ht, done, List.append_nil, hk]
    exact sent
  match y with
  | .error _ =>
    have ⟨hx, done, hk⟩ := gives_pure go
    exact .inl ⟨_, alone done hk, hx, nofun⟩
  | .ok head =>
    dsimp only at go
    split at go
    case isTrue told =>
      have ⟨hx, done, hk⟩ := gives_pure go
      refine .inl ⟨_, alone done hk, hx, fun a ha => ?_⟩
      cases ha
      exact told
    case isFalse     =>
      have ⟨y, sends, hx⟩ := judged_sends go
      exact .inr ⟨t₁, t₂, k₁, y, ht, sends, hx⟩

theorem manifestDigest_sent {x : Except Failure String}
    (h : Gives (s.manifestDigest r) k t x k') :
    (∃ y, Sent s .head (s.manifestAddress r) t y ∧
        x = judged (digestOfHead (s.manifestAddress r) ·.response) y) ∨
      ∃ y, Sent s .get (s.manifestAddress r) t y ∧
        x = judged (digestOfWhole (s.manifestAddress r) ·.response) y := by
  cases manifestDigest_sends h with
  | inl head  =>
    have ⟨y, sends, hx, _⟩ := head
    exact .inl ⟨y, sendWithToken_sent sends, hx⟩
  | inr whole =>
    have ⟨t₁, t₂, k₁, y, ht, sends, hx⟩ := whole
    exact .inr ⟨y, ht ▸ (sendWithToken_sent sends).append, hx⟩

-- Which arrival is taken for the layer, after other addresses have been tried or not.
inductive Settles (s : Source) (urls : List String) (t : List (Turn Answer)) :
    Except Failure Arrival → Prop
  | unaddressed {a : Arrival} {address why : String} :
    Ends s .get t (.ok a) → a.response.status.isError → address ∈ urls →
    (Url.ofText? address = none) → Settles s urls t (.error (.layerAddress why))
  | failed {f : RequestFailure} :
    Ends s .get t (.error f) → Settles s urls t (.error (.request f))
  | arrived {a : Arrival} :
    Ends s .get t (.ok a) →
    (a.response.status.isError → ∀ address ∈ urls, (Url.ofText? address).isSome) →
    Settles s urls t (.ok a)

theorem Settles.cons {address : String} {y : Except Failure Arrival}
    (settles : Settles s urls t y) (there : (Url.ofText? address).isSome) :
    Settles s (address :: urls) t y := by
  cases settles with
  | unaddressed ends refused mem none =>
    exact .unaddressed ends refused (List.mem_cons_of_mem _ mem) none
  | failed ends                       => exact .failed ends
  | arrived ends addressed            =>
    exact .arrived ends fun refused => List.forall_mem_cons.2 ⟨there, addressed refused⟩

-- Nothing was asked any more, so it stays at what has come.
theorem Settles.of_pure {y y' : Except Failure Arrival} (settles : Settles s urls t₀ y')
    (h : Gives (pure y') k t y k') : Settles s urls (t₀ ++ t) y := by
  have ⟨hy, done, _⟩ := gives_pure h
  rwa [hy, done, List.append_nil]

theorem elsewhere_settles {y : Except Failure Arrival} (ends : Ends s .get t₀ (.ok a))
    (h : Gives (s.elsewhere a urls) k t y k') : Settles s urls (t₀ ++ t) y := by
  induction urls generalizing a t₀ t k with
  | nil => exact (Settles.arrived ends (by simp)).of_pure h
  | cons address rest hi =>
    unfold elsewhere at h
    split at h
    case isTrue taken =>
      refine (Settles.arrived ends fun refused => ?_).of_pure h
      simp [refused] at taken
    case isFalse refused =>
      simp only [Bool.not_eq_true, Bool.not_eq_false'] at refused
      split at h
      case h_1 none      =>
        exact (Settles.unaddressed ends refused List.mem_cons_self none).of_pure h
      case h_2 url there =>
        have there : (Url.ofText? address).isSome := by simp [there]
        split at h
        case isTrue  =>
          have ⟨t₁, t₂, y₁, k₁, ht, followed, go⟩ := gives_bind h
          have ends₁ : Ends s .get (t₀ ++ t₁) y₁ := (follow_ends followed).append
          rw [ht, ← List.append_assoc]
          match y₁ with
          | .error _ => exact (Settles.failed ends₁).of_pure go
          | .ok _    => exact (hi ends₁ go).cons there
        case isFalse => exact (hi ends h).cons there

theorem blob_settles {x : Except Failure Bytes} (h : Gives (s.blob r layer) k t x k') :
    (Url.ofText? (s.blobAddress r layer.digest) = none ∧ x = .error (.request .badAddress)) ∨
      (Url.ofText? (s.blobAddress r layer.digest)).isSome ∧
        ∃ y, Settles s (layer.urls.getD []) t y ∧ x = y >>= layerOf := by
  have ⟨t₁, t₂, y, k₁, ht, sent, go⟩ := gives_bind h
  cases sendWithToken_sent sent with
  | unaddressed none     =>
    have ⟨hx, _⟩ := gives_pure go
    exact .inl ⟨none, hx⟩
  | addressed there ends =>
    refine .inr ⟨there, ?_⟩
    match y with
    | .error f =>
      have ⟨hx, done, _⟩ := gives_pure go
      rw [done, List.append_nil] at ht
      exact ⟨.error (.request f), .failed (ht ▸ ends), hx⟩
    | .ok a    =>
      have ⟨t₃, t₄, y, k₂, ht₂, went, go⟩ := gives_bind go
      have settled : Gives (pure (y >>= layerOf)) k₂ t₄ x k' := by
        cases y <;> exact go
      have ⟨hx, done, _⟩ := gives_pure settled
      rw [done, List.append_nil] at ht₂
      rw [ht, ht₂]
      exact ⟨y, elsewhere_settles ends went, hx⟩

end Source

namespace Retrieval

variable {address : String} {response : Response} {a : Program.Arrival} {body bytes : Bytes}

theorem bodyOf_ok (h : bodyOf response = .ok body) :
    response.isCut = false ∧ response.body = body := by
  unfold bodyOf at h
  split at h
  case isTrue      => cases h
  case isFalse cut => exact ⟨by simpa using cut, Except.ok.inj h⟩

theorem bodyOf_error {f : Failure} (h : bodyOf response = .error f) :
    response.isCut ∧ f = .request .cutShort := by
  unfold bodyOf at h
  split at h
  case isTrue cut =>
    cases h
    exact ⟨cut, rfl⟩
  case isFalse    => cases h

theorem layerOf_ok (h : layerOf a = .ok bytes) :
    a.response.status.isError = false ∧ a.response.isCut = false ∧ a.response.body = bytes := by
  unfold layerOf at h
  split at h
  case isTrue          => cases h
  case isFalse refused => exact ⟨by simpa using refused, bodyOf_ok h⟩

theorem layerOf_error {f : Failure} (h : layerOf a = .error f) : ∃ rf, f = .request rf := by
  unfold layerOf at h
  split at h
  case isTrue  =>
    cases h
    exact ⟨_, rfl⟩
  case isFalse => exact ⟨_, (bodyOf_error h).2⟩

theorem check_ok (h : check address response.status body = .ok ()) : response.status = .ok := by
  unfold check at h
  split at h
  case isTrue ok => exact ok
  case isFalse =>
    repeat' split at h
    all_goals cases h

theorem manifestOf_ok {m : Manifest} {digest : String}
    (h : manifestOf address response = .ok (m, digest)) :
    response.status = .ok ∧ response.isCut = false ∧ Manifest.ofText response.body = .ok m := by
  have ⟨body, whole, h⟩ := bind_ok h
  have ⟨_, checked, h⟩ := bind_ok h
  have ⟨_, _, h⟩ := bind_ok h
  have ⟨found, read, h⟩ := bind_ok h
  have ⟨uncut, hb⟩ := bodyOf_ok whole
  cases h
  exact ⟨check_ok checked, uncut, hb ▸ read⟩

theorem manifestOf_digest {m : Manifest} {digest : String}
    (h : manifestOf address response = .ok (m, digest)) :
    digestOf response response.body = .ok digest := by
  have ⟨body, whole, h⟩ := bind_ok h
  have ⟨_, _, h⟩ := bind_ok h
  have ⟨_, told, h⟩ := bind_ok h
  have ⟨_, _, h⟩ := bind_ok h
  have ⟨_, hb⟩ := bodyOf_ok whole
  cases h
  exact hb ▸ told

theorem digestOfWhole_ok {digest : String} (h : digestOfWhole address response = .ok digest) :
    digestOf response response.body = .ok digest := by
  have ⟨body, whole, h⟩ := bind_ok h
  have ⟨_, _, told⟩ := bind_ok h
  have ⟨_, hb⟩ := bodyOf_ok whole
  exact hb ▸ told

theorem digestOfHead_ok {digest : String} (h : digestOfHead address response = .ok digest) :
    digestOf response [] = .ok digest := by
  have ⟨_, _, told⟩ := bind_ok h
  exact told

end Retrieval

end ArtifactSync.Registry
