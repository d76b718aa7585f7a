import ArtifactSync.Proofs.Registry.Gives
import ArtifactSync.Proofs.Registry.Surroundings

namespace ArtifactSync.Registry

open Interaction (Turn)
open Source (Step)

def Manifest.image? : Manifest → Option Image
  | image i => some i
  | index _ => none

-- The manifests that came for the entries of an index, one after the other.
inductive Pulls (s : Source) (r : Reference) : List IndexEntry → Option KeptToken →
    List (Turn Answer) → List Manifest → Option KeptToken → Prop
  | nil {k} : Pulls s r [] k [] [] k
  | cons {entry rest k t₁ m digest k₁ t₂ ms k₂} :
    ((s.pullManifest (r.withDigest entry.digest)).Gives k t₁ (m, digest) k₁) →
    Pulls s r rest k₁ t₂ ms k₂ → Pulls s r (entry :: rest) k (t₁ ++ t₂) (m :: ms) k₂

-- The images that a manifest covers: itself, or those that it lists.
inductive Covers (s : Source) (r : Reference) : Manifest → Option KeptToken →
    List (Turn Answer) → List Image → Option KeptToken → Prop
  | image {i k} : Covers s r (.image i) k [] [i] k
  | index {i k t ms k'} :
    Pulls s r i.manifests k t ms k' → Covers s r (.index i) k t (ms.filterMap Manifest.image?) k'

def Descriptor.IsFile (l : Descriptor) : Prop :=
  l.title?.isSome ∧ ¬l.isPacked

-- What a staging that succeeds goes through: a layer is passed over, or it is pulled and written,
-- and then the rest is staged.
inductive Stages (s : Source) (r : Reference) : List String → Staging.Area → List Descriptor →
    Option KeptToken → List (Turn Answer) → Staging.Area → Option KeptToken → Prop
  | nil {staged area k} : Stages s r staged area [] k [] area k
  | passed {staged area layer rest k t area' k'} :
    (layer.IsFile → layer.digest ∈ staged) → Stages s r staged area rest k t area' k' →
    Stages s r staged area (layer :: rest) k t area' k'
  | taken {staged area layer rest title content written k t₁ k₁ t₂ k₂ t₃ area' k'} :
    layer.title? = some title → layer.IsFile → layer.digest ∉ staged →
    ((s.pullLayer r layer).Gives k t₁ content k₁) →
    Step.Gives (ExceptT.lift (area.write (Program.storeFile s staged.length) title content)) k₁ t₂
      (.ok (), written) k₂ →
    Stages s r (layer.digest :: staged) written rest k₂ t₃ area' k' →
    Stages s r staged area (layer :: rest) k (t₁ ++ (t₂ ++ t₃)) area' k'

variable {s : Source} {r : Reference} {staged : List String} {area area' : Staging.Area}
  {layers rest : List Descriptor} {layer l : Descriptor} {k k' : Option KeptToken}
  {t : List (Turn Answer)} {p : Staging.Path}

namespace Descriptor

-- The layer is a file, and its title stands for this path.
def Holds (l : Descriptor) (p : Staging.Path) : Prop :=
  ¬l.isPacked ∧ ∃ title, l.title? = some title ∧ Staging.Title.path title = .ok p

-- The layer is the first file of its digest, of those that have not been staged yet.
def FirstOf (staged : List String) (layers : List Descriptor) (l : Descriptor) : Prop :=
  l.digest ∉ staged ∧ ∃ before after, layers = before ++ l :: after ∧
    ∀ l' ∈ before, l'.IsFile → l'.digest ≠ l.digest

theorem firstOf_cons : FirstOf staged (layer :: rest) l ↔
    (l = layer ∧ layer.digest ∉ staged) ∨
      (FirstOf staged rest l ∧ (layer.IsFile → layer.digest ≠ l.digest)) := by
  constructor
  case mp =>
    intro ⟨new, before, after, h, first⟩
    cases before with
    | nil =>
      cases h
      exact .inl ⟨rfl, new⟩
    | cons l' before =>
      cases h
      have ⟨here, there⟩ := List.forall_mem_cons.1 first
      exact .inr ⟨⟨new, before, after, rfl, there⟩, here⟩
  case mpr =>
    intro h
    cases h with
    | inl h =>
      have ⟨hl, new⟩ := h
      subst hl
      exact ⟨new, [], rest, rfl, by simp⟩
    | inr h =>
      have ⟨⟨new, before, after, hr, first⟩, here⟩ := h
      exact ⟨new, layer :: before, after, by simp [hr], List.forall_mem_cons.2 ⟨here, first⟩⟩

theorem firstOf_digest_cons {d : String} :
    FirstOf (d :: staged) layers l ↔ FirstOf staged layers l ∧ d ≠ l.digest := by
  constructor
  case mp =>
    intro ⟨new, first⟩
    simp only [List.mem_cons, not_or] at new
    exact ⟨⟨new.2, first⟩, Ne.symm new.1⟩
  case mpr =>
    intro ⟨⟨new, first⟩, other⟩
    exact ⟨by simp [new, Ne.symm other], first⟩

theorem Holds.isFile (h : l.Holds p) : l.IsFile := by
  have ⟨unpacked, title, ht, _⟩ := h
  exact ⟨by rw [ht]; rfl, unpacked⟩

theorem Holds.path_eq {q : Staging.Path} (h : l.Holds p) (h' : l.Holds q) : p = q := by
  have ⟨_, title, ht, hp⟩ := h
  have ⟨_, title', ht', hq⟩ := h'
  cases ht.symm.trans ht'
  cases hp.symm.trans hq
  rfl

-- The files that are staged, when this has been staged before.
def Staged (staged : List String) (layers : List Descriptor) (p : Staging.Path) : Prop :=
  ∃ l, FirstOf staged layers l ∧ l.Holds p

theorem Staged.held (h : Staged staged layers p) : ∃ l ∈ layers, l.Holds p := by
  have ⟨l, ⟨_, before, after, hl, _⟩, holds⟩ := h
  exact ⟨l, by simp [hl], holds⟩

theorem not_staged_nil : ¬Staged staged [] p := by
  intro h
  have ⟨_, hl, _⟩ := h.held
  cases hl

theorem staged_cons_of_skipped (h : layer.IsFile → layer.digest ∈ staged) :
    Staged staged (layer :: rest) p ↔ Staged staged rest p := by
  constructor
  case mp =>
    intro ⟨l, first, holds⟩
    cases firstOf_cons.1 first with
    | inl here =>
      have ⟨hl, new⟩ := here
      exact absurd (h (hl ▸ holds.isFile)) new
    | inr there => exact ⟨l, there.1, holds⟩
  case mpr =>
    intro ⟨l, first, holds⟩
    have other : layer.IsFile → layer.digest ≠ l.digest := fun file same => first.1 (same ▸ h file)
    exact ⟨l, firstOf_cons.2 (.inr ⟨first, other⟩), holds⟩

theorem staged_cons_of_taken {q : Staging.Path} (new : layer.digest ∉ staged) (h : layer.Holds q) :
    Staged staged (layer :: rest) p ↔ p = q ∨ Staged (layer.digest :: staged) rest p := by
  constructor
  case mp =>
    intro ⟨l, first, holds⟩
    cases firstOf_cons.1 first with
    | inl here  => exact .inl (holds.path_eq (here.1 ▸ h))
    | inr there => exact .inr ⟨l, firstOf_digest_cons.2 ⟨there.1, there.2 h.isFile⟩, holds⟩
  case mpr =>
    intro hp
    cases hp with
    | inl hp => exact ⟨layer, firstOf_cons.2 (.inl ⟨rfl, new⟩), hp ▸ h⟩
    | inr hp =>
      have ⟨l, first, holds⟩ := hp
      have ⟨first, other⟩ := firstOf_digest_cons.1 first
      exact ⟨l, firstOf_cons.2 (.inr ⟨first, fun _ => other⟩), holds⟩

end Descriptor

open Descriptor

-- A layer is passed over, or it is pulled and written, and then the rest is staged.
theorem Source.stageLayers_cons (s : Source) (r : Reference) (staged : List String)
    (area : Staging.Area) (layer : Descriptor) (rest : List Descriptor) :
    ((layer.IsFile → layer.digest ∈ staged) ∧
      s.stageLayers r staged area (layer :: rest) = s.stageLayers r staged area rest) ∨
    ∃ title, layer.title? = some title ∧ layer.IsFile ∧ layer.digest ∉ staged ∧
      s.stageLayers r staged area (layer :: rest) = (do
        let content ← s.pullLayer r layer
        let (result, area) ←
          ExceptT.lift (area.write (Program.storeFile s staged.length) title content)
        ofExcept result
        s.stageLayers r (layer.digest :: staged) area rest) := by
  cases ht : layer.title? with
  | none       =>
    refine .inl ⟨fun file => absurd file.1 (by simp [ht]), ?_⟩
    simp only [Source.stageLayers, ht]
  | some title =>
    by_cases passed : layer.isPacked || staged.contains layer.digest
    case pos =>
      refine .inl ⟨fun file => by simpa [file.2] using passed, ?_⟩
      simp only [Source.stageLayers, ht, passed, if_true]
    case neg =>
      have ⟨unpacked, new⟩ : ¬layer.isPacked ∧ layer.digest ∉ staged := by simpa using passed
      refine .inr ⟨title, rfl, ⟨by simp [ht], unpacked⟩, new, ?_⟩
      rw [Source.stageLayers]
      simp only [ht, passed]
      rfl

theorem stageLayers_stages (h : (s.stageLayers r staged area layers).Gives k t area' k') :
    Stages s r staged area layers k t area' k' := by
  induction layers generalizing staged area k t with
  | nil =>
    have ⟨ha, ht, hk⟩ := Step.gives_pure h
    subst ha ht hk
    exact .nil
  | cons layer rest hi =>
    cases s.stageLayers_cons r staged area layer rest with
    | inl passed =>
      have ⟨skipped, next⟩ := passed
      exact .passed skipped (hi (next ▸ h))
    | inr taken  =>
      have ⟨title, titled, file, new, next⟩ := taken
      rw [next] at h
      have ⟨t₁, _, content, k₁, ht₁, pulled, h⟩ := Step.gives_bind h
      have ⟨t₂, _, (result, written), k₂, ht₂, stored, h⟩ := Step.gives_bind h
      have ⟨_, t₃, _, _, ht₃, accepted, later⟩ := Step.gives_bind h
      have ⟨ok, silent, same⟩ := Step.gives_ofExcept accepted
      have ok : result = .ok () := ok
      subst ok same
      rw [ht₁, ht₂, ht₃, silent]
      exact .taken titled file new pulled stored (hi later)

theorem Stages.isFile (h : Stages s r staged area layers k t area' k') :
    area'.isFile p ↔ area.isFile p ∨ Staged staged layers p := by
  induction h with
  | nil => simp [not_staged_nil]
  | passed skipped _ hi =>
    rw [staged_cons_of_skipped skipped]
    exact hi
  | taken titled file new _ stored _ hi =>
    have ⟨_, written, _⟩ := Step.gives_write stored
    have ⟨_, path, added⟩ := Staging.Area.writeOn_ok written
    rw [hi, added, staged_cons_of_taken new ⟨file.2, _, titled, path⟩, or_assoc, or_left_comm]

theorem pullIndexImages_pulls {entries : List IndexEntry} {images : List Image}
    (h : (s.pullIndexImages r entries).Gives k t images k') :
    ∃ ms, Pulls s r entries k t ms k' ∧ images = ms.filterMap Manifest.image? := by
  induction entries generalizing k k' t images with
  | nil =>
    have ⟨hi, ht, hk⟩ := Step.gives_pure h
    subst hi ht hk
    exact ⟨[], .nil, rfl⟩
  | cons entry rest hi =>
    have ⟨t₁, _, (m, digest), k₁, ht, h₁, h⟩ := Step.gives_bind h
    have ⟨t₂, t₃, found, k₂, ht', h₂, h⟩ := Step.gives_bind h
    have ⟨ms, pulls, hf⟩ := hi h₂
    subst ht ht' hf
    have hm : images = (m :: ms).filterMap Manifest.image? ∧ t₃ = [] ∧ k' = k₂ := by
      cases m with
      | image _ => exact Step.gives_pure h
      | index _ => exact Step.gives_pure h
    have ⟨hi, ht, hk⟩ := hm
    subst hi ht hk
    rw [List.append_nil]
    exact ⟨_, .cons h₁ pulls, rfl⟩

theorem pullImages_covers {m : Manifest} {images : List Image}
    (h : (s.pullImages r m).Gives k t images k') : Covers s r m k t images k' := by
  cases m with
  | image i =>
    have ⟨hi, ht, hk⟩ := Step.gives_pure h
    subst hi ht hk
    exact .image
  | index i =>
    have ⟨ms, pulls, hi⟩ := pullIndexImages_pulls h
    exact hi ▸ .index pulls

-- The images of the artifact, as they came in the course of these calls.
structure Covered (s : Source) (r : Reference) (k : Option KeptToken) (t : List (Turn Answer))
    (images : List Image) : Prop where
  came : ∃ place t₁ t₂ t₃ m digest k₁ k₂,
    t = ⟨.makeDirectory s.client.options.stagingRoot, place⟩ :: (t₁ ++ (t₂ ++ t₃)) ∧
    (s.pullManifest r).Gives k t₁ (m, digest) k₁ ∧ Covers s r m k₁ t₂ images k₂

-- The layers of these images were gathered in a new area, and the content was read back from there.
structure Gathered (s : Source) (r : Reference) (t : List (Turn Answer)) (images : List Image)
    (files : FileMap) : Prop where
  staged : ∃ made fresh full reading before during k₁ k₂,
    Staging.Area.create made = .ok fresh ∧
    t = before ++ (during ++ [⟨.readBack s.deadline, some reading⟩]) ∧
    (s.stageLayers r [] fresh (images.flatMap (·.layers))).Gives k₁ during full k₂ ∧
    full.readFiles reading = .ok files

-- The content is what came of these steps, one after the other.
theorem pullContent_gives {content : Content} (h : (s.pullContent r).Gives k t content k') :
    ∃ place t₁ t₂ t₃ m images k₁ k₂,
      t = ⟨.makeDirectory s.client.options.stagingRoot, place⟩ :: (t₁ ++ (t₂ ++ t₃)) ∧
      (s.pullManifest r).Gives k t₁ (m, content.digest.text) k₁ ∧
      Covers s r m k₁ t₂ images k₂ ∧ Gathered s r t images content.files := by
  have ⟨_, _, place, _, ht, asked, h⟩ := Step.gives_bind h
  have ⟨ht₀, hk₀⟩ := Step.gives_makeDirectory asked
  have ⟨_, _, area, _, ht', made, h⟩ := Step.gives_bind h
  have ⟨created, ht₀', hk₀'⟩ := Step.gives_ofExcept made
  have ⟨t₁, _, (m, digest), k₁, ht₁, pulled, h⟩ := Step.gives_bind h
  have ⟨t₂, _, images, k₂, ht₂, listed, h⟩ := Step.gives_bind h
  have ⟨t₃, _, full, k₃, ht₃, staged, h⟩ := Step.gives_bind h
  have ⟨_, _, reading, _, ht₄, back, h⟩ := Step.gives_bind h
  have ⟨ht₄', _⟩ := Step.gives_readBack back
  have ⟨_, _, files, _, ht₅, found, h⟩ := Step.gives_bind h
  have ⟨read, ht₅', _⟩ := Step.gives_ofExcept found
  have ⟨hc, done, _⟩ := Step.gives_pure h
  rw [hk₀', hk₀] at pulled
  have came : t = ⟨.makeDirectory s.client.options.stagingRoot, place⟩ ::
      (t₁ ++ (t₂ ++ (t₃ ++ [⟨.readBack s.deadline, some reading⟩]))) := by
    rw [ht, ht₀, ht', ht₀', ht₁, ht₂, ht₃, ht₄, ht₄', ht₅, ht₅', done]
    rfl
  subst hc
  refine ⟨place, t₁, t₂, _, m, images, k₁, k₂, came, pulled, pullImages_covers listed, ?_⟩
  exact ⟨place, area, full, reading,
    ⟨.makeDirectory s.client.options.stagingRoot, place⟩ :: (t₁ ++ t₂), t₃, k₂, k₃, created,
    by simp [came], staged, read⟩

theorem pullContent_gathered {content : Content} (h : (s.pullContent r).Gives k t content k') :
    ∃ images, Covered s r k t images ∧ Gathered s r t images content.files := by
  have ⟨place, t₁, t₂, t₃, m, images, k₁, k₂, came, pulled, covers, gathered⟩ := pullContent_gives h
  exact ⟨images, ⟨place, t₁, t₂, t₃, m, _, k₁, k₂, came, pulled, covers⟩, gathered⟩

theorem Gathered.names {images : List Image} {files : FileMap} (g : Gathered s r t images files)
    (name : String) : name ∈ files ↔ Staged [] (images.flatMap (·.layers)) [name] := by
  have ⟨_, _, _, _, _, _, _, _, created, _, staged, read⟩ := g.staged
  rw [Staging.Area.readFiles_ok read, Staging.Area.mem_topFiles, (stageLayers_stages staged).isFile]
  exact or_iff_right (Staging.Area.not_isFile_create created)

theorem fetchContent_gives {artifact : String} {content : Content}
    (h : ((s.fetchContent artifact).run k).Reaches t (.done (.ok content, k'))) :
    ∃ r, s.client.reference artifact = .ok r ∧ (s.pullContent r).Gives k t content k' := by
  unfold Source.fetchContent at h
  split at h
  case h_1 =>
    have ⟨_, hd⟩ := h.done_elim
    cases hd
  case h_2 r hr => exact ⟨r, hr, Step.withinDeadline_gives h⟩

theorem fetchContent_gathered {artifact : String} {content : Content}
    (h : ((s.fetchContent artifact).run k).Reaches t (.done (.ok content, k'))) :
    ∃ r images, s.client.reference artifact = .ok r ∧ Covered s r k t images ∧
      Gathered s r t images content.files := by
  have ⟨r, hr, pulled⟩ := fetchContent_gives h
  have ⟨images, covered, gathered⟩ := pullContent_gathered pulled
  exact ⟨r, images, hr, covered, gathered⟩

theorem fetchContent_covered {artifact : String} {content : Content}
    (h : ((s.fetchContent artifact).run k).Reaches t (.done (.ok content, k'))) :
    ∃ r images, s.client.reference artifact = .ok r ∧ Covered s r k t images ∧
      ∀ name, name ∈ content.files ↔ Staged [] (images.flatMap (·.layers)) [name] := by
  have ⟨r, images, hr, covered, gathered⟩ := fetchContent_gathered h
  exact ⟨r, images, hr, covered, gathered.names⟩

-- A file is in the content if a layer that is the first of its digest holds it. So nothing that the
-- layers hold is lost exactly if every name that they hold is held by such a layer.
theorem fetchContent_files {artifact : String} {content : Content}
    (h : ((s.fetchContent artifact).run k).Reaches t (.done (.ok content, k'))) :
    ∃ r images, s.client.reference artifact = .ok r ∧ Covered s r k t images ∧
      let layers := images.flatMap (·.layers)
      (∀ name, name ∈ content.files ↔ Staged [] layers [name]) ∧
      ((∀ name, name ∈ content.files ↔ ∃ l ∈ layers, l.Holds [name]) ↔
        ∀ name, (∃ l ∈ layers, l.Holds [name]) → Staged [] layers [name]) := by
  have ⟨r, images, hr, covered, files⟩ := fetchContent_covered h
  refine ⟨r, images, hr, covered, files, ?_⟩
  simp only [files]
  constructor
  case mp => exact fun same name => (same name).2
  case mpr => exact fun spared name => ⟨Staged.held, spared name⟩

-- A program that succeeds in a world that always answers a question in the same way.
theorem reaches_ok {α : Type} {p : Exchange (Except Error α × Option KeptToken)} {content : α}
    {world : (q : Question) → Answer q}
    (h : (p.answeredBy (m := Id) world).1.toOption = some content) :
    ∃ k, p.Reaches (p.turnsIn world) (.done (.ok content, k)) := by
  have reaches := Interaction.reaches_answeredBy world p
  match hx : p.answeredBy (m := Id) world with
  | (.ok _, k)    =>
    rw [hx] at h reaches
    cases h
    exact ⟨k, reaches⟩
  | (.error _, _) =>
    rw [hx] at h
    cases h

-- An artifact of two files with the same content.
namespace Sample

def source : Source := ⟨⟨⟨"r.io", "o/c"⟩, .anonymous, .ofConfig {}⟩, ⟨0⟩⟩

def reference : Reference := ⟨"r.io", "o/c", some "v1", none⟩

def titled (title : String) : Descriptor where
  mediaType   := "l"
  digest      := "x"
  size        := 1
  annotations := some (.singleton Descriptor.titleAnnotation title)

def image : Image := ⟨⟨"c", "d", 2, none, none⟩, [titled "a", titled "b"]⟩

def content : Content := ⟨⟨"sha256:m"⟩, .singleton "a" (bytesOf "alpha")⟩

def layerText (title : String) : List String := [
  "\x7b\"mediaType\":\"l\",", "\"digest\":\"x\",", "\"size\":1,", "\"annotations\":",
  "\x7b\"org.opencontainers.", "image.title\":", "\"", title, "\"\x7d\x7d"]

-- In short pieces, as these are quicker to take apart.
def manifestText : List String := [
  "\x7b\"schemaVersion\":2,", "\"config\":\x7b", "\"mediaType\":\"c\",", "\"digest\":\"d\",",
  "\"size\":2\x7d,", "\"layers\":["] ++ layerText "a" ++ [","] ++ layerText "b" ++ ["]\x7d"]

def reply : Url.Path → Http.Reply
  | .segments ["v2", "o", "c", "manifests", "v1"] => .response {
      status  := ⟨200⟩
      phrase  := "OK"
      headers := [(Retrieval.digestHeader, bytesOf "sha256:m")]
      body    := manifestText.flatMap bytesOf
    }
  | .segments ["v2", "o", "c", "blobs", "x"] => .response {
      status := ⟨200⟩
      phrase := "OK"
      body   := bytesOf "alpha"
    }
  | _ => .nothing

def surroundings : Surroundings where
  reply q := reply q.url.path

def world : (q : Question) → Answer q :=
  surroundings.world

def program : Exchange (Except Error Content × Option KeptToken) :=
  (source.fetchContent "v1").run none

theorem content_eq : (program.answeredBy (m := Id) world).1.toOption = some content := by
  decide +kernel

theorem manifest_eq :
    (((source.pullManifest reference).run.run.run none).answeredBy (m := Id) world).1.bind
      (·.toOption) = some (.image image, "sha256:m") := by
  decide +kernel

theorem reference_eq : (source.client.reference "v1").toOption = some reference := by
  decide +kernel

theorem run : ∃ k, program.Reaches (program.turnsIn world) (.done (.ok content, k)) :=
  reaches_ok content_eq

-- All that came was the one image, for in this world nothing else can come.
theorem images_eq {images : List Image}
    (c : Covered source reference none (program.turnsIn world) images) : images = [image] := by
  have ⟨_, t₁, t₂, t₃, m, digest, k₁, k₂, ht, pulled, covers⟩ := c.came
  have answers : ∀ e ∈ t₁, e.answer = world e.question := by
    intro e he
    refine Interaction.answer_of_mem_turnsIn (p := program) ?_
    rw [ht]
    simp [he]
  have hm := manifest_eq
  rw [pulled.eq_answeredBy answers] at hm
  cases hm
  cases covers
  rfl

end Sample

theorem fetchContent_files_sample : ∃ k' r images,
    Sample.source.client.reference "v1" = .ok r ∧
    Covered Sample.source r none (Sample.program.turnsIn Sample.world) images ∧
    Sample.program.Reaches (Sample.program.turnsIn Sample.world) (.done (.ok Sample.content, k')) ∧
    ∀ name, name ∈ Sample.content.files ↔ Staged [] (images.flatMap (·.layers)) [name] := by
  have ⟨k', run⟩ := Sample.run
  have ⟨r, images, hr, covered, files, _⟩ := fetchContent_files run
  exact ⟨k', r, images, hr, covered, run, files⟩

-- The second file is lost.
theorem fetchContent_loses_file : ∃ k',
    Sample.program.Reaches (Sample.program.turnsIn Sample.world) (.done (.ok Sample.content, k')) ∧
    Covered Sample.source Sample.reference none (Sample.program.turnsIn Sample.world)
      [Sample.image] ∧
    Sample.titled "b" ∈ Sample.image.layers ∧ (Sample.titled "b").Holds ["b"] ∧
    "b" ∉ Sample.content.files := by
  have ⟨k', run⟩ := Sample.run
  have ⟨r, images, hr, covered, _⟩ := fetchContent_covered run
  have reference := Sample.reference_eq
  rw [hr] at reference
  cases reference
  cases Sample.images_eq covered
  refine ⟨k', run, covered, by simp [Sample.image], ⟨by decide, "b", by decide, rfl⟩, ?_⟩
  rw [Dict.mem_iff]
  decide

end ArtifactSync.Registry
