import ArtifactSync.Proofs.Registry.Integrity

namespace ArtifactSync.Registry

open Http (Method Reply Request Response)
open Interaction (Turn)
open Program
open Retrieval
open Source

-- What is answered at an address, time and again, whoever asks.
abbrev Answers := Method → Url → Reply

-- Where an address leads to, from one place to the next.
inductive Leads (answer : Answers) : Url → Url → Prop
  | here {url} : Leads answer url url
  | on {req next : Request} {response place} :
    answer req.method req.url = .response response → req.redirected? response = some next →
    Leads answer next.url place → Leads answer req.url place

def SameHead (x y : Response) : Prop :=
  x.status = y.status ∧ x.headers = y.headers

-- At this address and wherever it leads to, this is what was answered. The status and the headers
-- are the same whether they are asked for alone or with everything else.
structure Steady (answer : Answers) (url : Url) (t : List (Turn Answer)) : Prop where
  answers : ∀ req deadline reply, ⟨.send req deadline, some reply⟩ ∈ t →
    Leads answer url req.url → reply = answer req.method req.url
  alike   : ∀ place head whole, Leads answer url place → answer .head place = .response head →
    answer .get place = .response whole → SameHead head whole

variable {answer : Answers} {url : Url} {s : Source} {r : Reference} {req req' : Request}
  {method method' : Method} {address : String} {x y : Response} {a a' : Arrival}
  {k k₁ k₂ k' k₁' k₂' : Option KeptToken} {t t₁ t₂ : List (Turn Answer)}

namespace SameHead

theorem symm (same : SameHead x y) : SameHead y x :=
  ⟨same.1.symm, same.2.symm⟩

theorem header? (same : SameHead x y) (name : String) : x.header? name = y.header? name := by
  rw [Response.header?, same.2, ← Response.header?]

-- Requests for one address are sent on to one address.
theorem redirected? (same : SameHead x y) (here : req.url = req'.url) :
    (req.redirected? x).map (·.url) = (req'.redirected? y).map (·.url) := by
  have status : x.status = y.status := same.1
  simp only [Request.redirected?, same.header?, status, here, Option.bind_eq_bind, Option.pure_def]
  split
  · rfl
  · cases y.header? "location" with
    | none => rfl
    | some location =>
      simp only [Option.bind_some]
      cases (Text.Utf8.decode location).toOption with
      | none => rfl
      | some cs =>
        simp only [Option.bind_some]
        cases Url.join? req'.url (String.ofList cs) <;> rfl

theorem digestOf_eq (same : SameHead x y) (told : (x.header? digestHeader).isSome)
    (body body' : Bytes) : digestOf x body = digestOf y body' := by
  have ⟨value, hv⟩ := Option.isSome_iff_exists.1 told
  simp only [digestOf, ← same.header?, hv]

end SameHead

namespace Steady

theorem mono (steady : Steady answer url t₂) (sub : t₁ ⊆ t₂) : Steady answer url t₁ where
  answers _ _ _ mem := steady.answers _ _ _ (sub mem)
  alike := steady.alike

theorem next {next : Request} (steady : Steady answer req.url t)
    (answered : answer req.method req.url = .response x) (there : req.redirected? x = some next) :
    Steady answer next.url t where
  answers _ _ _ mem leads := steady.answers _ _ _ mem (.on answered there leads)
  alike _ _ _ leads := steady.alike _ _ _ (.on answered there leads)

theorem sameHead (steady : Steady answer url t) (hx : answer method url = .response x)
    (hy : answer method' url = .response y) : SameHead x y := by
  cases method <;> cases method'
  case head.get  => exact steady.alike _ _ _ .here hx hy
  case get.head  => exact (steady.alike _ _ _ .here hy hx).symm
  case get.get   =>
    cases hx.symm.trans hy
    exact ⟨rfl, rfl⟩
  case head.head =>
    cases hx.symm.trans hy
    exact ⟨rfl, rfl⟩

-- The response is the steady one, and it either is what came or sends the request on.
theorem follows {budget : Nat} (steady : Steady answer req.url t)
    (h : Gives (follow s budget req) k t (.ok a) k') :
    ∃ response, answer req.method req.url = .response response ∧
      ((req.redirected? response = none ∧ a = ⟨response, req.url⟩) ∨
        ∃ less next rest, budget = less + 1 ∧ req.redirected? response = some next ∧
          Gives (follow s less next) k rest (.ok a) k' ∧ Steady answer next.url rest) := by
  have ⟨reply, rest, ht, ending⟩ := gives_follow h
  have answered : reply = answer req.method req.url :=
    steady.answers req s.deadline reply (by simp [ht]) .here
  cases ending with
  | inl last =>
    have ⟨_, reports⟩ := last
    cases reports with
    | @arrived response stays => exact ⟨response, answered.symm, .inl ⟨stays, rfl⟩⟩
  | inr more =>
    have ⟨less, response, next, hb, hr, there, go⟩ := more
    have answered := answered.symm.trans hr
    have onward : Steady answer next.url rest :=
      (steady.next answered there).mono (by simp [ht])
    exact ⟨response, answered, .inr ⟨less, next, rest, hb, there, go, onward⟩⟩

end Steady

-- What came of two requests for one address has the same status and the same headers, and is the
-- same if they were made in the same manner.
structure Matches (method method' : Method) (a a' : Arrival) : Prop where
  sameHead : SameHead a.response a'.response
  same     : method = method' → a = a'

theorem follow_matches {budget : Nat} (h₁ : Gives (follow s budget req) k₁ t₁ (.ok a) k₁')
    (h₂ : Gives (follow s budget req') k₂ t₂ (.ok a') k₂') (here : req.url = req'.url)
    (steady₁ : Steady answer req.url t₁) (steady₂ : Steady answer req'.url t₂) :
    Matches req.method req'.method a a' := by
  induction budget using Nat.strongRecOn generalizing req req' t₁ t₂ with
  | ind budget hi =>
    have ⟨response, answered, ending⟩ := steady₁.follows h₁
    have ⟨response', answered', ending'⟩ := steady₂.follows h₂
    have same : SameHead response response' := steady₁.sameHead answered (here ▸ answered')
    have moves := same.redirected? here
    cases ending with
    | inl stays =>
      have ⟨stays, ha⟩ := stays
      cases ending' with
      | inl stays' =>
        have ⟨_, ha'⟩ := stays'
        subst ha ha'
        refine ⟨same, fun hm => ?_⟩
        rw [hm, here, answered'] at answered
        cases answered
        rw [here]
      | inr onward' =>
        have ⟨_, _, _, _, there', _⟩ := onward'
        simp [stays, there'] at moves
    | inr onward =>
      have ⟨less, next, rest, hb, there, go, onward⟩ := onward
      cases ending' with
      | inl stays' => simp [stays'.1, there] at moves
      | inr onward' =>
        have ⟨less', next', rest', hb', there', go', onward'⟩ := onward'
        simp only [there, there', Option.map_some, Option.some.injEq] at moves
        cases Nat.succ.inj (hb.symm.trans hb')
        have matching := hi less (by omega) go go' moves onward onward'
        rwa [method_redirected? there, method_redirected? there'] at matching

theorem asked_matches (h₁ : Asked s method address t₁ (.ok a))
    (h₂ : Asked s method' address t₂ (.ok a'))
    (steady : ∀ url, Url.ofText? address = some url → Steady answer url (t₁ ++ t₂)) :
    Matches method method' a a' := by
  have ⟨_, _, _, _, sub₁, sent₁⟩ := h₁
  have ⟨_, _, _, _, sub₂, sent₂⟩ := h₂
  unfold send at sent₁ sent₂
  cases hu : Url.ofText? address with
  | none     =>
    rw [hu] at sent₁
    have ⟨hx, _⟩ := gives_pure sent₁
    cases hx
  | some url =>
    rw [hu] at sent₁ sent₂
    have steady := steady url hu
    have left := steady.mono fun _ he => List.mem_append_left _ (sub₁.subset he)
    have right := steady.mono fun _ he => List.mem_append_right _ (sub₂.subset he)
    exact follow_matches sent₁ sent₂ rfl left right

theorem fetchDigest_gives {artifact : String} {digest : Digest}
    (h : ((s.fetchDigest artifact).run k).Reaches t (.done (.ok digest, k'))) :
    ∃ r, s.client.reference artifact = .ok r ∧ (s.pullDigest r).Gives k t digest k' := by
  unfold fetchDigest at h
  split at h
  case h_1 =>
    have ⟨_, hd⟩ := h.done_elim
    cases hd
  case h_2 r hr => exact ⟨r, hr, Step.withinDeadline_gives h⟩

theorem pullDigest_asked {digest : Digest} (h : (s.pullDigest r).Gives k t digest k') :
    (∃ a, Asked s .head (s.manifestAddress r) t (.ok a) ∧
        (a.response.header? digestHeader).isSome ∧
        digestOf a.response [] = .ok digest.text) ∨
      ∃ a, Asked s .get (s.manifestAddress r) t (.ok a) ∧
        digestOf a.response a.response.body = .ok digest.text := by
  have ⟨t₁, t₂, text, _, ht, pulled, h⟩ := Step.gives_bind h
  have ⟨hd, done, _⟩ := Step.gives_pure h
  have ⟨t₃, t₄, _, ht₁, last⟩ := gives_retrieval pulled
  have sub : t₄ <:+: t := ⟨t₃, [], by simp [ht, ht₁, done]⟩
  subst hd
  cases manifestDigest_sends last with
  | inl head  =>
    have ⟨y, sends, came, told⟩ := head
    cases y with
    | error _ => cases came
    | ok a    =>
      exact .inl ⟨a, (sendWithToken_asked sends).mono sub, told a rfl, digestOfHead_ok came.symm⟩
  | inr whole =>
    have ⟨t₅, t₆, _, y, ht₄, sends, came⟩ := whole
    have inner : t₆ <:+: t₄ := ⟨t₅, [], by simp [ht₄]⟩
    cases y with
    | error _ => cases came
    | ok a    =>
      exact .inr ⟨a, (sendWithToken_asked sends).mono (inner.trans sub), digestOfWhole_ok came.symm⟩

theorem pullContent_asked {content : Content} (h : (s.pullContent r).Gives k t content k') :
    ∃ a, Asked s .get (s.manifestAddress r) t (.ok a) ∧
      digestOf a.response a.response.body = .ok content.digest.text := by
  have ⟨place, t₁, t₂, t₃, _, _, _, _, ht, given, _⟩ := pullContent_gives h
  have ⟨a, asked, read⟩ := pullManifest_asked given
  have sub : t₁ <:+: t :=
    ⟨[⟨.makeDirectory s.client.options.stagingRoot, place⟩], t₂ ++ t₃, by simp [ht]⟩
  exact ⟨a, asked.mono sub, manifestOf_digest read⟩

-- In whatever order the two run, with whatever tokens kept, and whatever else is answered.
theorem fetchDigest_agrees {artifact : String} {digest : Digest} {content : Content}
    (told : ((s.fetchDigest artifact).run k₁).Reaches t₁ (.done (.ok digest, k₁')))
    (came : ((s.fetchContent artifact).run k₂).Reaches t₂ (.done (.ok content, k₂')))
    (steady : ∀ r url, s.client.reference artifact = .ok r →
      Url.ofText? (s.manifestAddress r) = some url → Steady answer url (t₁ ++ t₂)) :
    content.digest = digest := by
  have ⟨r, hr, pulled₁⟩ := fetchDigest_gives told
  have ⟨r', hr', pulled₂⟩ := fetchContent_gives came
  cases hr.symm.trans hr'
  have ⟨b, asked, found⟩ := pullContent_asked pulled₂
  have steady url hu := steady r url hr hu
  have same : Except.ok (ε := Failure) digest.text = .ok content.digest.text := by
    cases pullDigest_asked pulled₁ with
    | inl head  =>
      have ⟨a, asked', named, told⟩ := head
      have matching := asked_matches asked' asked steady
      rw [← told, ← found, matching.sameHead.digestOf_eq named]
    | inr whole =>
      have ⟨a, asked', told⟩ := whole
      have matching := asked_matches asked' asked steady
      rw [← told, ← found, matching.same rfl]
  cases digest
  cases content with
  | mk digest _ =>
    cases same
    rfl

namespace Sample

def replies : Answers := fun _ url => reply url.path

def digestProgram : Exchange (Except Error Digest × Option KeptToken) :=
  (source.fetchDigest "v1").run none

theorem digest_eq : (digestProgram.answeredBy (m := Id) world).1.toOption = some ⟨"sha256:m"⟩ := by
  decide +kernel

theorem steady : Steady replies url (digestProgram.turnsIn world ++ program.turnsIn world) where
  answers req deadline given mem _ := by
    have came : some given = world (.send req deadline) := by
      cases List.mem_append.1 mem with
      | inl mem => exact Interaction.answer_of_mem_turnsIn mem
      | inr mem => exact Interaction.answer_of_mem_turnsIn mem
    exact Option.some.inj came
  alike place head whole _ hx hy := by
    cases hx.symm.trans hy
    exact ⟨rfl, rfl⟩

end Sample

theorem fetchDigest_agrees_sample : ∃ t₁ t₂ k₁ k₂,
    Sample.digestProgram.Reaches t₁ (.done (.ok ⟨"sha256:m"⟩, k₁)) ∧
    Sample.program.Reaches t₂ (.done (.ok Sample.content, k₂)) ∧
    (∀ url, Steady Sample.replies url (t₁ ++ t₂)) ∧ Sample.content.digest = ⟨"sha256:m"⟩ := by
  have ⟨k₁, told⟩ := reaches_ok Sample.digest_eq
  have ⟨k₂, came⟩ := Sample.run
  have agree := fetchDigest_agrees told came fun _ _ _ _ => Sample.steady
  exact ⟨_, _, k₁, k₂, told, came, fun _ => Sample.steady, agree⟩

end ArtifactSync.Registry
