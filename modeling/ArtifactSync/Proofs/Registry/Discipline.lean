import ArtifactSync.Proofs.Registry.Refinement
import ArtifactSync.Proofs.Registry.Requests

namespace ArtifactSync.Registry

open Descriptor (pending pending_cons_of_skipped pending_cons_of_taken)
open Interaction (Reaches Turn)
open Program
open Source

-- So many attempts at most, with a pause between one and the next.
inductive Attempts (s : Source) (P : List (Turn Answer) → Prop) : Nat → List (Turn Answer) → Prop
  | last {n t} : P t → Attempts s P (n + 1) t
  | again {n t₁ t₂ d u} :
    P t₁ → Attempts s P n t₂ → Attempts s P (n + 1) (t₁ ++ ⟨.pause d s.deadline, u⟩ :: t₂)

namespace Task

-- The attempts of one retrieval, as many as the policy allows.
def Operation (s : Source) (task : Task) (t : List (Turn Answer)) : Prop :=
  Attempts s (task.Attempted s ·) (s.client.options.retry.maxRetries + 1) t

-- After these calls the retrieval has come to its end, and what came is good.
def Succeeds (s : Source) (t : List (Turn Answer)) : Task → Prop
  | digest r   => ∃ k digest k', (s.pullDigest r).Gives k t digest k'
  | manifest r => ∃ k found k', (s.pullManifest r).Gives k t found k'
  | layer r l  => ∃ k bytes k', (s.pullLayer r l).Gives k t bytes k'

def child (r : Reference) (entry : IndexEntry) : Task :=
  manifest (r.withDigest entry.digest)

-- All that is retrieved of an artifact, if these are its entries and its images.
def ofArtifact (r : Reference) (entries : List IndexEntry) (images : List Image) : List Task :=
  manifest r ::
    (entries.map (child r) ++ (pending [] (images.flatMap (·.layers))).map (layer r))

end Task

def Manifest.entries : Manifest → List IndexEntry
  | image _ => []
  | index i => i.manifests

-- As far as its manifests have come, these are the entries and the images of the artifact. Of the
-- images nothing is known before all entries are there.
inductive Plan (s : Source) (r : Reference) :
    List (Turn Answer) → List IndexEntry → List Image → Prop
  | nothing {t} : Plan s r t [] []
  | entries {k t₁ m digest k₁ t₂} :
    (s.pullManifest r).Gives k t₁ (m, digest) k₁ → Plan s r (t₁ ++ t₂) m.entries []
  | images {k t₁ m digest k₁ k₂ t₂ images k₃ t₃} :
    (s.pullManifest r).Gives k t₁ (m, digest) k₁ → Covers s r m k₂ t₂ images k₃ →
    Plan s r (t₁ ++ (t₂ ++ t₃)) m.entries images

-- What the host does with the staging area, which the registry is not asked for.
def Aside : Turn Answer → Prop
  | ⟨.storeFile .., _⟩ | ⟨.readBack _, _⟩ => True
  | _                                     => False

-- One retrieval after the other, each of them only after all before it have succeeded.
inductive Performs (s : Source) : List Task → List (Turn Answer) → Prop
  | nothing {tasks} : Performs s tasks []
  | aside {tasks t₁ t₂} : (∀ e ∈ t₁, Aside e) → Performs s tasks t₂ → Performs s tasks (t₁ ++ t₂)
  | underway {task tasks t} : task.Operation s t → Performs s (task :: tasks) t
  | next {task : Task} {tasks t₁ t₂} :
    task.Operation s t₁ → task.Succeeds s t₁ → Performs s tasks t₂ →
    Performs s (task :: tasks) (t₁ ++ t₂)

variable {α β : Type} {s : Source} {r : Reference} {op : Program (Except Failure α)}
  {P : List (Turn Answer) → Prop} {k k' : Option KeptToken} {t t₁ t₂ : List (Turn Answer)}

theorem confined_attemptFrom (h : Confined op P) {policy : RetryPolicy} {budget attempt : Nat} :
    Confined (policy.attemptFrom Failure.isTransient (pause s) op budget attempt)
      (Attempts s P (budget + 1)) := by
  induction budget generalizing attempt with
  | zero => exact h.mono fun _ => .last
  | succ budget hi =>
    have first : Confined op (Attempts s P (budget + 1 + 1)) := h.mono fun _ => .last
    unfold RetryPolicy.attemptFrom
    refine first.bind fun {_ t x _} given => ?_
    cases x with
    | ok _    => exact first.rest given
    | error f =>
      dsimp only
      split
      case isTrue  =>
        have before := h.of_gives given
        have paused : Confined (pause s (policy.backoff attempt)) fun t' =>
            Attempts s P (budget + 1 + 1) (t ++ t') :=
          .question (fun _ => ⟨_, rfl⟩) (by simpa using first.of_gives given)
            fun _ => .again before (.last h.nil)
        refine paused.bind fun waited => hi.mono fun t' more => ?_
        rw [(gives_pause waited).1]
        exact .again before more
      case isFalse => exact first.rest given

namespace Step

variable {x : Step α} {f : α → Step β}

theorem confined_bind (h : Confined x.run P)
    (hf : ∀ {k t a k'}, x.Gives k t a k' → Confined (f a).run fun t' => P (t ++ t')) :
    Confined (x >>= f).run P := by
  refine h.bind fun {_ _ y _} given => ?_
  cases y with
  | ok _    => exact hf given
  | error _ => exact h.rest given

-- What has been had is looked at, and the steps go on only if it is good.
theorem confined_ofExcept_bind {y : Except Error α} (h : P [])
    (hf : ∀ a, y = .ok a → Confined (f a).run P) : Confined (ofExcept y >>= f).run P := by
  cases y with
  | ok a    => exact hf a rfl
  | error _ => exact .pure h

end Step

open Step

theorem confined_failWith {context : String} (task : Task) :
    Confined (failWith context (s.persistently (task.attempt s))).run (task.Operation s) :=
  (confined_attemptFrom Task.confined_attempt).map

theorem confined_pullDigest : Confined (s.pullDigest r).run ((Task.digest r).Operation s) := by
  have asked : Confined (failWith s!"digest of {r.text}" (s.persistently (s.manifestDigest r))).run
      ((Task.digest r).Operation s) := confined_failWith (.digest r)
  exact confined_bind asked fun given => asked.rest given

theorem confined_pullManifest : Confined (s.pullManifest r).run ((Task.manifest r).Operation s) :=
  confined_failWith (.manifest r)

theorem confined_pullLayer {l : Descriptor} :
    Confined (s.pullLayer r l).run ((Task.layer r l).Operation s) := by
  have asked : Confined (failWith s!"layer {l.digest}" (s.persistently (s.blob r l))).run
      ((Task.layer r l).Operation s) := confined_failWith (.layer r l)
  refine confined_bind asked fun {_ t _ _} given => ?_
  have pulled : (Task.layer r l).Operation s (t ++ []) := by
    simpa using asked.of_gives given
  exact confined_ofExcept_bind pulled fun _ _ => .pure pulled

theorem confined_pullIndexImages {entries : List IndexEntry} :
    Confined (s.pullIndexImages r entries).run (Performs s (entries.map (Task.child r))) := by
  induction entries with
  | nil => exact .pure .nothing
  | cons entry rest hi =>
    have first : Confined (s.pullManifest (r.withDigest entry.digest)).run
        (Performs s ((entry :: rest).map (Task.child r))) :=
      confined_pullManifest.mono fun _ => .underway
    unfold pullIndexImages
    refine confined_bind first fun {_ t₁ found _} given => ?_
    have more : Confined (s.pullIndexImages r rest).run
        fun t₂ => Performs s ((entry :: rest).map (Task.child r)) (t₁ ++ t₂) :=
      hi.mono fun _ => .next (confined_pullManifest.of_gives given) ⟨_, _, _, given⟩
    refine confined_bind more fun listed => ?_
    cases found with
    | mk m digest => cases m <;> exact more.rest listed

theorem gives_write_aside {area area' : Staging.Area} {earlier : Nat} {title : String}
    {content : Bytes} {result : Except Error Unit}
    (h : Gives (ExceptT.lift (area.write (storeFile s earlier) title content)) k t
      (result, area') k') : ∀ e ∈ t, Aside e := by
  have ⟨_, _, calls, _⟩ := gives_write h
  cases calls with
  | inl silent =>
    rw [silent]
    exact List.forall_mem_nil _
  | inr once   =>
    have ⟨_, once⟩ := once
    rw [once]
    exact List.forall_mem_singleton.2 trivial

theorem confined_write {area : Staging.Area} {earlier : Nat} {title : String} {content : Bytes} :
    Confined (ExceptT.lift (area.write (storeFile s earlier) title content) : Step _).run
      fun t => ∀ e ∈ t, Aside e := by
  have stored {p : Staging.Path} : Confined (storeFile s earlier p content)
      fun t => ∀ e ∈ t, Aside e :=
    .question (q := .storeFile earlier p content s.deadline) (fun _ => ⟨_, rfl⟩)
      (List.forall_mem_nil _) fun _ => List.forall_mem_singleton.2 trivial
  refine Confined.map ?_
  unfold Staging.Area.write
  split
  · exact .pure (List.forall_mem_nil _)
  · exact stored.bind fun given => stored.rest given

theorem confined_stageLayers {staged : List String} {area : Staging.Area}
    {layers : List Descriptor} : Confined (s.stageLayers r staged area layers).run
      (Performs s ((pending staged layers).map (.layer r))) := by
  induction layers generalizing staged area with
  | nil => exact .pure .nothing
  | cons layer rest hi =>
    cases s.stageLayers_cons r staged area layer rest with
    | inl passed =>
      have ⟨skipped, next⟩ := passed
      rw [next, pending_cons_of_skipped skipped]
      exact hi
    | inr taken  =>
      have ⟨title, _, file, new, next⟩ := taken
      rw [next, pending_cons_of_taken file new, List.map_cons]
      refine confined_bind (confined_pullLayer.mono fun _ => .underway)
        fun {_ _ content _} given => ?_
      have pulled := confined_pullLayer.of_gives given
      refine confined_bind (confined_write.mono fun t₂ asides => ?_)
        fun {_ t₂ wrote _} stored => ?_
      · simpa using Performs.next pulled ⟨_, _, _, given⟩ (.aside asides .nothing)
      · have ⟨result, written⟩ := wrote
        have asides := gives_write_aside stored
        refine confined_ofExcept_bind ?_ fun _ _ => hi.mono fun _ more =>
          .next pulled ⟨_, _, _, given⟩ (.aside asides more)
        exact .next pulled ⟨_, _, _, given⟩ (.aside asides .nothing)

-- The layers are in the area, so what follows is next.
theorem Stages.performs {staged : List String} {area area' : Staging.Area}
    {layers : List Descriptor} {tasks : List Task}
    (stages : Stages s r staged area layers k t₁ area' k') (h : Performs s tasks t₂) :
    Performs s ((pending staged layers).map (.layer r) ++ tasks) (t₁ ++ t₂) := by
  induction stages with
  | nil => exact h
  | passed skipped _ hi =>
    rw [pending_cons_of_skipped skipped]
    exact hi
  | taken _ file new pulled stored _ hi =>
    rw [pending_cons_of_taken file new, List.append_assoc, List.append_assoc]
    exact .next (confined_pullLayer.of_gives pulled) ⟨_, _, _, pulled⟩
      (.aside (gives_write_aside stored) hi)

-- The manifests for the entries of an index have come, so what follows is next.
theorem Pulls.performs {entries : List IndexEntry} {ms : List Manifest} {tasks : List Task}
    (pulls : Pulls s r entries k t₁ ms k') (h : Performs s tasks t₂) :
    Performs s (entries.map (Task.child r) ++ tasks) (t₁ ++ t₂) := by
  induction pulls with
  | nil => exact h
  | cons given _ hi =>
    rw [List.append_assoc]
    exact .next (confined_pullManifest.of_gives given) ⟨_, _, _, given⟩ hi

theorem Covers.performs {m : Manifest} {images : List Image} {tasks : List Task}
    (covers : Covers s r m k t₁ images k') (h : Performs s tasks t₂) :
    Performs s (m.entries.map (Task.child r) ++ tasks) (t₁ ++ t₂) := by
  cases covers with
  | image       => exact h
  | index pulls => exact pulls.performs h

theorem confined_pullImages {m : Manifest} :
    Confined (s.pullImages r m).run (Performs s (m.entries.map (Task.child r))) := by
  cases m with
  | image _ => exact .pure .nothing
  | index _ => exact confined_pullIndexImages

-- The calls so far are those that the artifact asks for, as far as it is known.
def Follows (s : Source) (r : Reference) (t : List (Turn Answer)) : Prop :=
  ∃ entries images, Plan s r t entries images ∧ Performs s (Task.ofArtifact r entries images) t

theorem confined_pulls {area : Staging.Area} : Confined (do
      let (m, digest) ← s.pullManifest r
      let images ← s.pullImages r m
      let area ← s.stageLayers r [] area (images.flatMap (·.layers))
      let reading ← ExceptT.lift (readBack s)
      return ⟨⟨digest⟩, ← ofExcept (area.readFiles reading)⟩ : Step Content).run
    (Follows s r) := by
  have top : Confined (s.pullManifest r).run (Follows s r) :=
    confined_pullManifest.mono fun _ operation => ⟨[], [], .nothing, .underway operation⟩
  refine confined_bind top fun {_ t₁ found _} given => ?_
  have ⟨m, digest⟩ := found
  have first : (Task.manifest r).Operation s t₁ := confined_pullManifest.of_gives given
  have listed : Confined (s.pullImages r m).run fun t₂ => Follows s r (t₁ ++ t₂) := by
    refine confined_pullImages.mono fun t₂ performs => ⟨_, [], .entries given, ?_⟩
    exact .next first ⟨_, _, _, given⟩ (by simpa [pending] using performs)
  refine confined_bind listed fun {_ t₂ images _} given' => ?_
  have covers := pullImages_covers given'
  have gathered : Confined (s.stageLayers r [] area (images.flatMap (·.layers))).run
      fun t₃ => Follows s r (t₁ ++ (t₂ ++ t₃)) := by
    refine confined_stageLayers.mono fun t₃ performs => ⟨_, images, .images given covers, ?_⟩
    exact .next first ⟨_, _, _, given⟩ (covers.performs performs)
  refine confined_bind gathered fun {_ t₃ full _} staged => ?_
  have through {t₄ : List (Turn Answer)} (aside : ∀ e ∈ t₄, Aside e) :
      Follows s r (t₁ ++ (t₂ ++ (t₃ ++ t₄))) := by
    refine ⟨_, images, .images given covers, .next first ⟨_, _, _, given⟩ ?_⟩
    refine covers.performs ?_
    have idle : Performs s [] (t₄ ++ []) := .aside aside .nothing
    simpa using (stageLayers_stages staged).performs idle
  have answered : Confined (readBack s) fun t₄ => Follows s r (t₁ ++ (t₂ ++ (t₃ ++ t₄))) :=
    .question (q := .readBack s.deadline) (fun _ => ⟨_, rfl⟩)
      (through (List.forall_mem_nil _)) fun _ => through (List.forall_mem_singleton.2 trivial)
  have back : Confined (ExceptT.lift (readBack s) : Step _).run
      fun t₄ => Follows s r (t₁ ++ (t₂ ++ (t₃ ++ t₄))) := answered.map
  refine confined_bind back fun read => ?_
  exact confined_ofExcept_bind (by simpa using back.of_gives read) fun _ _ => back.rest read

theorem confined_pullContent : Confined (s.pullContent r).run fun t => t = [] ∨ ∃ place rest,
    t = ⟨.makeDirectory s.client.options.stagingRoot, place⟩ :: rest ∧ Follows s r rest := by
  have unread : Follows s r [] := ⟨[], [], .nothing, .nothing⟩
  have made : Confined (ExceptT.lift (Program.makeDirectory s.client.options.stagingRoot) :
      Step _).run fun t => t = [] ∨ ∃ place rest,
      t = ⟨.makeDirectory s.client.options.stagingRoot, place⟩ :: rest ∧ Follows s r rest :=
    .question (fun _ => ⟨_, rfl⟩) (.inl rfl) fun place => .inr ⟨place, [], rfl, unread⟩
  unfold pullContent
  refine confined_bind made fun {_ _ place _} asked => ?_
  rw [(gives_makeDirectory asked).1]
  refine confined_ofExcept_bind (.inr ⟨place, [], rfl, unread⟩) fun area _ => ?_
  exact confined_pulls.mono fun rest follows => .inr ⟨place, rest, rfl, follows⟩

theorem Plan.received {entries : List IndexEntry} {images : List Image}
    (plan : Plan s r t entries images) : ∀ i ∈ images, Received t (.image i) := by
  cases plan with
  | nothing             => exact nofun
  | entries _           => exact nofun
  | images given covers =>
    exact fun i hi => (covers.received given i hi).mono fun e he => by
      simp [← List.append_assoc, he]

-- The selected layers hold files, stand in their order, and no two of them have one digest.
structure Selects (staged : List String) (layers selected : List Descriptor) : Prop where
  order : selected.Sublist layers
  files : ∀ l ∈ selected, l.IsFile
  fresh : ∀ l ∈ selected, l.digest ∉ staged
  once  : (selected.map (·.digest)).Nodup

theorem selects_pending {staged : List String} {layers : List Descriptor} :
    Selects staged layers (pending staged layers) := by
  induction layers generalizing staged with
  | nil => exact ⟨.slnil, nofun, nofun, .nil⟩
  | cons layer rest hi =>
    by_cases taken : layer.IsFile ∧ layer.digest ∉ staged
    case pos =>
      have ⟨file, new⟩ := taken
      have there : Selects (layer.digest :: staged) rest _ := hi
      have fresh : ∀ l ∈ pending (layer.digest :: staged) rest,
          l.digest ≠ layer.digest ∧ l.digest ∉ staged := by
        simpa using there.fresh
      rw [pending_cons_of_taken file new]
      refine ⟨there.order.cons_cons layer, ?_, ?_, ?_⟩
      · exact List.forall_mem_cons.2 ⟨file, there.files⟩
      · exact List.forall_mem_cons.2 ⟨new, fun l hl => (fresh l hl).2⟩
      · rw [List.map_cons, List.nodup_cons]
        refine ⟨fun again => ?_, there.once⟩
        have ⟨l, hl, same⟩ := List.mem_map.1 again
        exact (fresh l hl).1 same
    case neg =>
      have skipped : layer.IsFile → layer.digest ∈ staged := by simpa using taken
      have there : Selects staged rest _ := hi
      rw [pending_cons_of_skipped skipped]
      exact { there with order := there.order.cons layer }

theorem confined_withinDeadline {context : String} {steps : Step α}
    {p : Exchange (Except Error α × Option KeptToken)} (h : Confined steps.run P)
    (reaches : ((withinDeadline context steps).run k).Reaches t p) : P t := by
  cases Reaches.bind_cases (p := steps.run.run.run k) reaches with
  | inl first =>
    have ⟨_, r₁⟩ := first
    exact h _ _ _ r₁
  | inr second =>
    have ⟨t₁, t₂, y, ht, r₁, r₂⟩ := second
    have rest : t₂ = [] := by
      match y with
      | (some _, _) | (none, _) => exact r₂.done_elim.1
    rw [ht, rest, List.append_nil]
    exact h _ _ _ r₁

-- However far a fetch comes and whatever is answered, each retrieval is of what the artifact asks
-- for, is tried a limited number of times, and follows one that succeeded. No blob is retrieved by
-- two of them.
theorem fetch_disciplined {artifact : String} :
    (∀ p, ((s.fetchDigest artifact).run k).Reaches t p → t = [] ∨
      ∃ r, s.client.reference artifact = .ok r ∧ (Task.digest r).Operation s t) ∧
    ∀ p, ((s.fetchContent artifact).run k).Reaches t p → t = [] ∨
      ∃ r place rest entries images, s.client.reference artifact = .ok r ∧
        t = ⟨.makeDirectory s.client.options.stagingRoot, place⟩ :: rest ∧
        Plan s r rest entries images ∧ Performs s (Task.ofArtifact r entries images) rest ∧
        (∀ image ∈ images, Received rest (.image image)) ∧
        Selects [] (images.flatMap (·.layers)) (pending [] (images.flatMap (·.layers))) := by
  constructor
  case left =>
    intro p h
    unfold fetchDigest at h
    cases hr : s.client.reference artifact with
    | error _ =>
      rw [hr] at h
      exact .inl h.done_elim.1
    | ok r    =>
      rw [hr] at h
      exact .inr ⟨r, rfl, confined_withinDeadline confined_pullDigest h⟩
  case right =>
    intro p h
    unfold fetchContent at h
    cases hr : s.client.reference artifact with
    | error _ =>
      rw [hr] at h
      exact .inl h.done_elim.1
    | ok r    =>
      rw [hr] at h
      cases confined_withinDeadline confined_pullContent h with
      | inl none   => exact .inl none
      | inr follow =>
        have ⟨place, rest, ht, entries, images, plan, performs⟩ := follow
        exact .inr ⟨r, place, rest, entries, images, rfl, ht, plan, performs, plan.received,
          selects_pending⟩

-- An artifact of one file, whose layer is refused and has another address.
namespace Mirrored

def manifestText : List String := [
  "\x7b\"schemaVersion\":2,", "\"config\":\x7b", "\"mediaType\":\"c\",", "\"digest\":\"d\",",
  "\"size\":2\x7d,", "\"layers\":[", "\x7b\"mediaType\":\"l\",", "\"digest\":\"x\",",
  "\"size\":1,", "\"urls\":[", "\"https://o.io/l\"],", "\"annotations\":",
  "\x7b\"org.opencontainers.", "image.title\":", "\"a\"\x7d\x7d]\x7d"]

def reply : Url.Path → Http.Reply
  | .segments ["v2", "o", "c", "manifests", "v1"] => .response {
      status  := ⟨200⟩
      phrase  := "OK"
      headers := [(Retrieval.digestHeader, bytesOf "sha256:m")]
      body    := manifestText.flatMap bytesOf
    }
  | .segments ["v2", "o", "c", "blobs", "x"] => .response {
      status := ⟨404⟩
      phrase := "Not Found"
    }
  | .segments ["l"] => .response {
      status := ⟨200⟩
      phrase := "OK"
      body   := bytesOf "alpha"
    }
  | _ => .nothing

def surroundings : Surroundings where
  reply q := reply q.url.path

def world : (q : Question) → Answer q :=
  surroundings.world

-- What was asked for, and with which status it was answered.
def request? : Turn Answer → Option (String × Option Nat)
  | ⟨.send r _, some (.response response)⟩ => some (r.url.text, some response.status.number)
  | ⟨.send r _, _⟩                         => some (r.url.text, none)
  | _                                      => none

def digestProgram : Exchange (Except Error Digest × Option KeptToken) :=
  (Sample.source.fetchDigest "v1").run none

theorem content_eq :
    (Sample.program.answeredBy (m := Id) world).1.toOption = some Sample.content := by
  decide +kernel

theorem requests_eq : (Sample.program.turnsIn world).filterMap request? = [
    ("https://r.io/v2/", none), ("https://r.io/v2/o/c/manifests/v1", some 200),
    ("https://r.io/v2/", none), ("https://r.io/v2/o/c/blobs/x", some 404),
    ("https://o.io/l", some 200)] := by
  decide +kernel

theorem digestRequests_eq : (digestProgram.turnsIn world).filterMap request? = [
    ("https://r.io/v2/", none), ("https://r.io/v2/o/c/manifests/v1", some 200)] := by
  decide +kernel

end Mirrored

theorem fetch_disciplined_sample : ∃ t p t' p' r place rest entries images,
    Mirrored.digestProgram.Reaches t p ∧ t ≠ [] ∧ (Task.digest r).Operation Sample.source t ∧
    Sample.program.Reaches t' p' ∧
    t' = ⟨.makeDirectory Sample.source.client.options.stagingRoot, place⟩ :: rest ∧
    Plan Sample.source r rest entries images ∧
    Performs Sample.source (Task.ofArtifact r entries images) rest := by
  have lookup := Interaction.reaches_answeredBy Mirrored.world Mirrored.digestProgram
  have fetch := Interaction.reaches_answeredBy Mirrored.world Sample.program
  have asked : Mirrored.digestProgram.turnsIn Mirrored.world ≠ [] := fun none => by
    have requests := Mirrored.digestRequests_eq
    rw [none] at requests
    cases requests
  have asked' : Sample.program.turnsIn Mirrored.world ≠ [] := fun none => by
    have requests := Mirrored.requests_eq
    rw [none] at requests
    cases requests
  have ⟨r, hr, operation⟩ := (fetch_disciplined.1 _ lookup).resolve_left asked
  have ⟨r', place, rest, entries, images, hr', ht, plan, performs, _⟩ :=
    (fetch_disciplined.2 _ fetch).resolve_left asked'
  cases hr.symm.trans hr'
  exact ⟨_, _, _, _, r, place, rest, entries, images, lookup, asked, operation, fetch, ht, plan,
    performs⟩

-- After the layer has been refused its other address is asked for the bytes, which is neither the
-- manifest's nor the layer's own, and which nothing was sent on to.
theorem fetchContent_asks_elsewhere : ∃ k',
    Sample.program.Reaches (Sample.program.turnsIn Mirrored.world)
      (.done (.ok Sample.content, k')) ∧
    Sample.source.manifestAddress Sample.reference = "https://r.io/v2/o/c/manifests/v1" ∧
    Sample.source.blobAddress Sample.reference "x" = "https://r.io/v2/o/c/blobs/x" ∧
    (Sample.program.turnsIn Mirrored.world).filterMap Mirrored.request? = [
      ("https://r.io/v2/", none), ("https://r.io/v2/o/c/manifests/v1", some 200),
      ("https://r.io/v2/", none), ("https://r.io/v2/o/c/blobs/x", some 404),
      ("https://o.io/l", some 200)] := by
  have ⟨k', run⟩ := reaches_ok Mirrored.content_eq
  exact ⟨k', run, by decide +kernel, by decide +kernel, Mirrored.requests_eq⟩

end ArtifactSync.Registry
