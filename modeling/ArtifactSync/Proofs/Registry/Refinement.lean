import ArtifactSync.Proofs.Registry.Integrity

namespace ArtifactSync.Registry

open Interaction (Reaches Turn)
open Program
open Source

namespace Descriptor

variable {staged : List String} {layers rest : List Descriptor} {l layer : Descriptor}
  {p : Staging.Path}

-- The layers that are to be staged: the files whose digest has not been staged yet, and of several
-- with one digest the first.
def pending (staged : List String) (layers : List Descriptor) : List Descriptor :=
  (layers.filter fun l =>
    l.title?.isSome && !l.isPacked && !staged.contains l.digest).eraseDupsBy (·.digest == ·.digest)

-- The layer is the last one whose title stands for this path.
def LastOf (layers : List Descriptor) (p : Staging.Path) (l : Descriptor) : Prop :=
  l.Holds p ∧ ∃ before after, layers = before ++ l :: after ∧ ∀ l' ∈ after, ¬l'.Holds p

theorem pending_cons_of_skipped (h : layer.IsFile → layer.digest ∈ staged) :
    pending staged (layer :: rest) = pending staged rest := by
  unfold pending
  rw [List.filter_cons_of_neg]
  simp only [Bool.and_eq_true, Bool.not_eq_true', List.contains_eq_mem, decide_eq_false_iff_not]
  intro ⟨⟨titled, unpacked⟩, new⟩
  exact new (h ⟨titled, by simp [unpacked]⟩)

theorem pending_cons_of_taken (file : layer.IsFile) (new : layer.digest ∉ staged) :
    pending staged (layer :: rest) = layer :: pending (layer.digest :: staged) rest := by
  unfold pending
  rw [List.filter_cons_of_pos, List.eraseDupsBy_cons, List.filter_filter]
  · congr 3
    funext l
    by_cases same : l.digest = layer.digest <;> simp [same]
  · simp [file.1, file.2, new]

theorem isFile_of_mem_pending (h : l ∈ pending staged layers) : l.IsFile := by
  induction layers generalizing staged with
  | nil => cases h
  | cons layer rest hi =>
    by_cases taken : layer.IsFile ∧ layer.digest ∉ staged
    case pos =>
      have ⟨file, new⟩ := taken
      rw [pending_cons_of_taken file new] at h
      cases List.mem_cons.1 h with
      | inl here  => exact here ▸ file
      | inr there => exact hi there
    case neg =>
      have skipped : layer.IsFile → layer.digest ∈ staged := by simpa using taken
      rw [pending_cons_of_skipped skipped] at h
      exact hi h

theorem lastOf_cons : LastOf (layer :: rest) p l ↔
    LastOf rest p l ∨ l = layer ∧ layer.Holds p ∧ ∀ l' ∈ rest, ¬l'.Holds p := by
  constructor
  case mp =>
    intro ⟨holds, before, after, h, last⟩
    cases before with
    | nil =>
      cases h
      exact .inr ⟨rfl, holds, last⟩
    | cons _ before =>
      cases h
      exact .inl ⟨holds, before, after, rfl, last⟩
  case mpr =>
    intro h
    cases h with
    | inl h =>
      have ⟨holds, before, after, hr, last⟩ := h
      exact ⟨holds, layer :: before, after, by simp [hr], last⟩
    | inr h =>
      have ⟨hl, holds, last⟩ := h
      exact ⟨hl ▸ holds, [], rest, by simp [hl], last⟩

theorem not_lastOf_nil : ¬LastOf [] p l := by
  intro ⟨_, _, _, h, _⟩
  simp at h

-- A layer for this path stands back behind the ones that follow, if there are any.
theorem exists_lastOf_cons {P : Descriptor → Prop} (holds : layer.Holds p) :
    (∃ l, LastOf (layer :: rest) p l ∧ P l) ↔
      (∃ l, LastOf rest p l ∧ P l) ∨ (∀ l ∈ rest, ¬l.Holds p) ∧ P layer := by
  constructor
  case mp =>
    intro ⟨l, last, hl⟩
    cases lastOf_cons.1 last with
    | inl later => exact .inl ⟨l, later, hl⟩
    | inr here  =>
      have ⟨same, _, unnamed⟩ := here
      exact .inr ⟨unnamed, same ▸ hl⟩
  case mpr =>
    intro h
    cases h with
    | inl later =>
      have ⟨l, last, hl⟩ := later
      exact ⟨l, lastOf_cons.2 (.inl last), hl⟩
    | inr here  =>
      have ⟨unnamed, hl⟩ := here
      exact ⟨layer, lastOf_cons.2 (.inr ⟨rfl, holds, unnamed⟩), hl⟩

theorem lastOf_cons_of_not_holds (other : ¬layer.Holds p) :
    LastOf (layer :: rest) p l ↔ LastOf rest p l := by
  simp [lastOf_cons, other]

end Descriptor

open Descriptor

namespace Surroundings

-- The manifests that are listed are there. These are the images among them.
inductive Lists (w : Surroundings) (s : Source) (r : Reference) :
    List IndexEntry → List Image → Prop
  | nil : Lists w s r [] []
  | image {entry rest i digest images} :
    w.Comes (s.manifest (r.withDigest entry.digest)) (.ok (.image i, digest)) →
    Lists w s r rest images → Lists w s r (entry :: rest) (i :: images)
  | nested {entry rest i digest images} :
    w.Comes (s.manifest (r.withDigest entry.digest)) (.ok (.index i, digest)) →
    Lists w s r rest images → Lists w s r (entry :: rest) images

-- The images that a manifest stands for: itself, or those that it lists.
inductive Comprises (w : Surroundings) (s : Source) (r : Reference) : Manifest → List Image → Prop
  | image {i} : Comprises w s r (.image i) [i]
  | index {i images} : Lists w s r i.manifests images → Comprises w s r (.index i) images

-- These are the bytes of the layer, and they have the hash that it claims.
structure Serves (w : Surroundings) (s : Source) (r : Reference) (l : Descriptor) (bytes : Bytes) :
    Prop where
  served   : w.Comes (s.blob r l) (.ok bytes)
  matching : ∀ hex, l.digest = "sha256:" ++ hex → SameLetters hex (Sha256.hex bytes)

-- Each layer is there and is written into the area after so many others, and no write fails.
inductive Fills (w : Surroundings) (s : Source) (r : Reference) :
    Nat → Staging.Area → List Descriptor → Staging.Area → Prop
  | nil {n area} : Fills w s r n area [] area
  | cons {n area area₁ area₂ l rest title bytes} :
    l.title? = some title → w.Serves s r l bytes →
    area.writeOn (w.course n) title bytes = (.ok (), area₁) → Fills w s r (n + 1) area₁ rest area₂ →
    Fills w s r n area (l :: rest) area₂

-- All that the content is made of is there: the manifests of these images, and an area that takes
-- their layers and can be read back.
structure Ready (w : Surroundings) (s : Source) (r : Reference) (digest : String)
    (images : List Image) (full : Staging.Area) : Prop where
  listed : ∃ m, w.Comes (s.manifest r) (.ok (m, digest)) ∧ w.Comprises s r m images
  staged : ∃ area, Staging.Area.create (w.made s.client.options.stagingRoot) = .ok area ∧
    w.Fills s r 0 area (pending [] (images.flatMap (·.layers))) full
  read   : full.readFiles w.reading = .ok full.topFiles

-- The steps give a value exactly if it is like this.
def Yields {α : Type} (w : Surroundings) (own : Option KeptToken → Prop) (x : Step α)
    (P : α → Prop) : Prop :=
  w.Ensures own x.run fun y => ∀ a, y = .ok a ↔ P a

variable {α β : Type} {w : Surroundings} {s : Source} {r : Reference}
  {own : Option KeptToken → Prop} {x : Step α} {f : α → Step β} {P P' : α → Prop}
  {Q : α → β → Prop} {l : Descriptor}

namespace Yields

theorem congr (h : w.Yields own x P) (same : ∀ a, P a ↔ P' a) : w.Yields own x P' :=
  Ensures.mono h fun _ given a => (given a).trans (same a)

-- There is one value that is like this, and it is given.
theorem only {a : α} (ha : P a) (unique : ∀ b, P b → b = a) : w.Yields own (Pure.pure a) P := by
  refine Ensures.pure fun b => ?_
  constructor
  case mp =>
    intro h
    cases h
    exact ha
  case mpr => exact fun hb => congrArg Except.ok (unique b hb).symm

theorem pure {a : α} : w.Yields own (pure a) (· = a) :=
  only rfl fun _ => id

theorem ofExcept {y : Except Error α} : w.Yields own (ofExcept y) (y = .ok ·) := by
  cases y with
  | ok _    => exact Ensures.pure fun _ => .rfl
  | error _ => exact Ensures.pure fun _ => .rfl

theorem bind (h : w.Yields own x P) (hf : ∀ a, P a → w.Yields own (f a) (Q a)) :
    w.Yields own (x >>= f) fun b => ∃ a, P a ∧ Q a b := by
  refine Ensures.bind h fun y given => ?_
  cases y with
  | ok a    =>
    have ha : P a := (given a).1 rfl
    refine (hf a ha).mono fun z given' b => ?_
    rw [given' b]
    constructor
    case mp => exact fun hb => ⟨a, ha, hb⟩
    case mpr =>
      intro ⟨a', ha', hb⟩
      cases (given a').2 ha'
      exact hb
  | error _ =>
    refine Ensures.pure fun b => ?_
    constructor
    case mp => exact nofun
    case mpr =>
      intro ⟨a', ha', _⟩
      cases (given a').2 ha'

-- A program that gives one value gives way to it.
theorem lift_bind {p : Program α} {a : α} {P : β → Prop} (h : w.Ensures own p (· = a))
    (hf : w.Yields own (f a) P) : w.Yields own (ExceptT.lift p >>= f) P := by
  rw [Yields, ExceptT.run_bind_lift]
  exact h.bind_eq hf

end Yields

theorem yields_failWith {context : String} {op : Program (Except Failure α)}
    (h : w.Settled own op) (fresh : own none) :
    w.Yields own (failWith context (s.persistently op)) (w.Comes op <| .ok ·) := by
  have ⟨y, given⟩ := h
  have comes : w.Comes op y := given.comes fresh
  have mapped : (failWith context (s.persistently op)).run =
      s.persistently op >>= fun y =>
        Pure.pure (y.mapError fun f => .fetchFailed context f.message) :=
    map_eq_pure_bind ..
  rw [Yields, mapped]
  refine (ensures_persistently given).bind_eq (Ensures.pure fun a => ?_)
  cases y with
  | error _ => exact ⟨nofun, fun other => nomatch comes.unique other⟩
  | ok _    =>
    constructor
    case mp =>
      intro h
      cases h
      exact comes
    case mpr =>
      intro other
      cases comes.unique other
      rfl

-- One token is good for all of a repository.
theorem own_withDigest {digest : String} : w.Own s (r.withDigest digest) = w.Own s r := by
  unfold Own requestToken
  rfl

theorem yields_pullManifest :
    w.Yields (w.Own s r) (s.pullManifest r) (w.Comes (s.manifest r) <| .ok ·) :=
  yields_failWith settled_manifest own_none

theorem yields_pullIndexImages {entries : List IndexEntry} :
    w.Yields (w.Own s r) (s.pullIndexImages r entries) (w.Lists s r entries) := by
  induction entries with
  | nil =>
    refine .only .nil fun images listed => ?_
    cases listed
    rfl
  | cons entry rest hi =>
    have child : w.Yields (w.Own s r) (s.pullManifest (r.withDigest entry.digest))
        (w.Comes (s.manifest (r.withDigest entry.digest)) <| .ok ·) :=
      own_withDigest ▸ yields_pullManifest
    unfold pullIndexImages
    refine (child.bind (Q := fun m images => ∃ found, w.Lists s r rest found ∧
      images = m.1.image?.toList ++ found) fun m _ => ?_).congr fun images => ?_
    · refine hi.bind fun found _ => ?_
      have ⟨m, _⟩ := m
      cases m <;> exact .pure
    · constructor
      case mp =>
        intro ⟨(m, _), served, found, listed, h⟩
        subst h
        cases m with
        | image _ => exact .image served listed
        | index _ => exact .nested served listed
      case mpr =>
        intro h
        cases h with
        | image served listed  => exact ⟨_, served, _, listed, rfl⟩
        | nested served listed => exact ⟨_, served, _, listed, rfl⟩

theorem yields_pullImages {m : Manifest} :
    w.Yields (w.Own s r) (s.pullImages r m) (w.Comprises s r m) := by
  cases m with
  | image i =>
    refine .only .image fun images comprised => ?_
    cases comprised
    rfl
  | index i =>
    refine yields_pullIndexImages.congr fun images => ?_
    constructor
    case mp => exact .index
    case mpr =>
      intro h
      cases h with
      | index listed => exact listed

theorem yields_pullLayer :
    w.Yields (w.Own s r) (s.pullLayer r l) (w.Serves s r l) := by
  refine ((yields_failWith settled_blob own_none).bind fun content _ =>
    Yields.ofExcept.bind fun _ _ => .pure).congr fun bytes => ?_
  constructor
  case mp =>
    intro ⟨_, served, _, passed, h⟩
    subst h
    exact ⟨served, verify_eq_ok_iff.1 passed⟩
  case mpr => exact fun h => ⟨bytes, h.served, (), verify_eq_ok_iff.2 h.matching, rfl⟩

-- The first layer is there and its write succeeds, and so on.
theorem fills_cons_iff {n : Nat} {area full : Staging.Area} {rest : List Descriptor} :
    w.Fills s r n area (l :: rest) full ↔ ∃ title bytes area₁, l.title? = some title ∧
      w.Serves s r l bytes ∧ area.writeOn (w.course n) title bytes = (.ok (), area₁) ∧
      w.Fills s r (n + 1) area₁ rest full := by
  constructor
  case mp =>
    intro h
    cases h with
    | cons titled served written filled => exact ⟨_, _, _, titled, served, written, filled⟩
  case mpr =>
    intro ⟨_, _, _, titled, served, written, filled⟩
    exact .cons titled served written filled

theorem yields_stageLayers {staged : List String} {area : Staging.Area} {layers : List Descriptor} :
    w.Yields (w.Own s r) (s.stageLayers r staged area layers)
      (w.Fills s r staged.length area (pending staged layers)) := by
  induction layers generalizing staged area with
  | nil =>
    refine .only .nil fun full filled => ?_
    cases filled
    rfl
  | cons layer rest hi =>
    cases s.stageLayers_cons r staged area layer rest with
    | inl passed =>
      have ⟨skipped, next⟩ := passed
      rw [next, pending_cons_of_skipped skipped]
      exact hi
    | inr taken  =>
      have ⟨title, ht, file, new, next⟩ := taken
      rw [next]
      refine (yields_pullLayer.bind (Q := fun bytes full => ∃ written,
        area.writeOn (w.course staged.length) title bytes = (.ok (), written) ∧
        w.Fills s r (staged.length + 1) written (pending (layer.digest :: staged) rest) full)
        fun bytes _ => .lift_bind ensures_write ?_).congr fun full => ?_
      · match hw : area.writeOn (w.course staged.length) title bytes with
        | (result, written) =>
          refine (Yields.ofExcept.bind fun _ _ => hi).congr fun full => ?_
          constructor
          case mp =>
            intro ⟨_, hr, filled⟩
            exact ⟨written, congrArg (·, written) hr, filled⟩
          case mpr =>
            intro ⟨_, hr, filled⟩
            cases hr
            exact ⟨(), rfl, filled⟩
      · rw [pending_cons_of_taken file new, fills_cons_iff]
        constructor
        case mp =>
          intro ⟨bytes, served, written, hw, filled⟩
          exact ⟨title, bytes, written, ht, served, hw, filled⟩
        case mpr =>
          intro ⟨title', bytes, written, ht', served, hw, filled⟩
          cases ht.symm.trans ht'
          exact ⟨bytes, served, written, hw, filled⟩

-- What lies at a path in the end is what was written there last.
theorem Fills.lookup {n : Nat} {area full : Staging.Area} {layers : List Descriptor}
    {p : Staging.Path} {bytes : Bytes} (h : w.Fills s r n area layers full)
    (files : ∀ l ∈ layers, l.IsFile) : full.files.lookup p = some bytes ↔
      (∃ l, LastOf layers p l ∧ w.Comes (s.blob r l) (.ok bytes)) ∨
        (∀ l ∈ layers, ¬l.Holds p) ∧ area.files.lookup p = some bytes := by
  induction h with
  | nil => simp [not_lastOf_nil]
  | @cons n area area₁ full l rest title content ht served written filled hi =>
    have ⟨file, files⟩ := List.forall_mem_cons.1 files
    have ⟨q, hq, lookup⟩ := Staging.Area.lookup_writeOn written
    have holds : l.Holds q := ⟨file.2, title, ht, hq⟩
    rw [hi files, lookup, List.forall_mem_cons]
    by_cases here : p = q
    case pos =>
      subst here
      have same : some content = some bytes ↔ w.Comes (s.blob r l) (.ok bytes) := by
        constructor
        case mp =>
          intro h
          cases h
          exact served.served
        case mpr =>
          intro comes
          cases served.served.unique comes
          rfl
      rw [if_pos rfl, exists_lastOf_cons holds, same]
      simp [holds]
    case neg =>
      have other : ¬l.Holds p := fun h => here (h.path_eq holds)
      rw [if_neg here]
      simp [lastOf_cons_of_not_holds other, other]

theorem Ready.find?_topFiles {digest name : String} {images : List Image} {full : Staging.Area}
    {bytes : Bytes} (ready : w.Ready s r digest images full) :
    full.topFiles.find? name = some bytes ↔
      ∃ l, LastOf (pending [] (images.flatMap (·.layers))) [name] l ∧
        w.Comes (s.blob r l) (.ok bytes) := by
  have ⟨area, created, filled⟩ := ready.staged
  rw [Staging.Area.find?_topFiles, filled.lookup fun _ => isFile_of_mem_pending,
    Staging.Area.files_create created]
  simp

theorem yields_filled {area : Staging.Area} {m : Manifest} {digest : String} :
    w.Yields (w.Own s r)
      (do
        let images ← s.pullImages r m
        let full ← s.stageLayers r [] area (images.flatMap (·.layers))
        let reading ← ExceptT.lift (readBack s)
        return (⟨⟨digest⟩, ← ofExcept (full.readFiles reading)⟩ : Content))
      fun content => ∃ images, w.Comprises s r m images ∧ ∃ full,
        w.Fills s r 0 area (pending [] (images.flatMap (·.layers))) full ∧
          full.readFiles w.reading = .ok full.topFiles ∧ content = ⟨⟨digest⟩, full.topFiles⟩ := by
  refine (yields_pullImages.bind fun _ _ => yields_stageLayers.bind fun _ _ =>
    .lift_bind ensures_readBack (Yields.ofExcept.bind fun _ _ => .pure)).congr fun content => ?_
  constructor
  case mp =>
    intro ⟨images, listed, full, filled, files, read, hc⟩
    cases Staging.Area.readFiles_ok read
    exact ⟨images, listed, full, filled, read, hc⟩
  case mpr =>
    intro ⟨images, listed, full, filled, read, hc⟩
    exact ⟨images, listed, full, filled, _, read, hc⟩

theorem yields_pullContent : w.Yields (w.Own s r) (s.pullContent r) fun content =>
    ∃ digest images full, w.Ready s r digest images full ∧
      content = ⟨⟨digest⟩, full.topFiles⟩ := by
  unfold pullContent
  refine (Yields.lift_bind ensures_makeDirectory (Yields.ofExcept.bind fun area _ =>
    yields_pullManifest.bind fun m _ => yields_filled)).congr fun content => ?_
  constructor
  case mp =>
    intro ⟨area, created, (m, digest), served, images, listed, full, filled, read, hc⟩
    exact ⟨digest, images, full, ⟨⟨m, served, listed⟩, ⟨area, created, filled⟩, read⟩, hc⟩
  case mpr =>
    intro ⟨digest, images, full, ⟨⟨m, served, listed⟩, ⟨area, created, filled⟩, read⟩, hc⟩
    exact ⟨area, created, (m, digest), served, images, listed, full, filled, read, hc⟩

-- The content is there exactly if everything that it is made of is there, whatever the staging area
-- is like in between. It holds, by name, the layers that were selected last.
theorem fetchContent_refines {artifact : String} {k : Option KeptToken}
    (hr : s.client.reference artifact = .ok r) (own : w.Own s r k) :
    (∃ t z, w.Hosts ((s.fetchContent artifact).run k) t z) ∧
    ∀ t result k', w.Hosts ((s.fetchContent artifact).run k) t (result, k') →
      ((∃ content, result = .ok content) ↔ ∃ digest images full, w.Ready s r digest images full) ∧
      ∀ content digest images full, result = .ok content → w.Ready s r digest images full →
        content.digest.text = digest ∧
          ∀ name bytes, content.files.find? name = some bytes ↔
            ∃ l, LastOf (pending [] (images.flatMap (·.layers))) [name] l ∧
              w.Comes (s.blob r l) (.ok bytes) := by
  refine ⟨⟨_, _, w.hosts_answeredBy _⟩, fun t result k' hosts => ?_⟩
  have reaches := hosts.reaches
  rw [fetchContent, hr] at reaches
  have ⟨z, pulled, hz⟩ := Step.withinDeadline_reaches reaches
  have ⟨y, hy, given⟩ := Ensures.given yields_pullContent own ⟨pulled, hosts.gave, hosts.inTime⟩
  rw [hy] at hz
  subst hz
  have succeeds : (∃ content, result = .ok content) ↔
      ∃ digest images full, w.Ready s r digest images full := by
    constructor
    case mp =>
      intro ⟨content, hc⟩
      have ⟨digest, images, full, ready, _⟩ := (given content).1 hc
      exact ⟨digest, images, full, ready⟩
    case mpr =>
      intro ⟨digest, images, full, ready⟩
      exact ⟨_, (given _).2 ⟨digest, images, full, ready, rfl⟩⟩
  refine ⟨succeeds, fun content digest images full hc ready => ?_⟩
  have same := (given _).2 ⟨digest, images, full, ready, rfl⟩
  cases hc.symm.trans same
  exact ⟨rfl, fun _ _ => ready.find?_topFiles⟩

-- Whether a program without a token comes to this can be looked up.
theorem comes_ok {p : Program (Except Failure α)} {a : α}
    (h : ((p.run.run none).answeredBy (m := Id) w.world).1.bind (·.toOption) = some a) :
    w.Comes p (.ok a) := by
  unfold Comes
  match hx : ((p.run.run none).answeredBy (m := Id) w.world).1 with
  | some (.ok _)           =>
    rw [hx] at h
    cases h
    rfl
  | some (.error _) | none =>
    rw [hx] at h
    cases h

end Surroundings

namespace Sample

theorem reference_ok : source.client.reference "v1" = .ok reference := by
  have eq := reference_eq
  cases hr : source.client.reference "v1" with
  | ok _    =>
    rw [hr] at eq
    cases eq
    rfl
  | error _ =>
    rw [hr] at eq
    cases eq

theorem hosts : ∃ t k', surroundings.Hosts program t (.ok content, k') := by
  have ⟨k', reaches⟩ := run
  have ⟨_, gave, inTime⟩ := surroundings.hosts_answeredBy program
  exact ⟨_, k', reaches, gave, inTime⟩

end Sample

theorem Surroundings.fetchContent_refines_sample : ∃ t k' images full,
    Sample.surroundings.Hosts Sample.program t (.ok Sample.content, k') ∧
    Sample.surroundings.Ready Sample.source Sample.reference "sha256:m" images full ∧
    ∃ l, LastOf (pending [] (images.flatMap (·.layers))) ["a"] l ∧ Sample.surroundings.Comes
      (Sample.source.blob Sample.reference l) (.ok (bytesOf "alpha")) := by
  have ⟨t, k', hosts⟩ := Sample.hosts
  have ⟨_, refines⟩ := fetchContent_refines (w := Sample.surroundings) Sample.reference_ok own_none
  have ⟨succeeds, holds⟩ := refines t _ k' hosts
  have ⟨told, images, full, ready⟩ := succeeds.1 ⟨_, rfl⟩
  have ⟨same, files⟩ := holds _ _ _ _ rfl ready
  cases same
  exact ⟨t, k', images, full, hosts, ready, (files "a" (bytesOf "alpha")).1 rfl⟩

-- An artifact without files, and a host that makes no directories.
namespace Unstaged

def reply : Url.Path → Http.Reply
  | .segments ["v2", "o", "c", "manifests", "v1"] => .response {
      status  := ⟨200⟩
      phrase  := "OK"
      headers := [(Retrieval.digestHeader, bytesOf "sha256:m")]
      body    := bytesOf "\x7b\"schemaVersion\":2,\"manifests\":[]\x7d"
    }
  | _ => .nothing

def unmade : Staging.Area.Unmade := ⟨"/tmp/s", .noEntry⟩

def surroundings : Surroundings where
  reply q := reply q.url.path
  made _  := .error unmade

def refusal? : Except Error Content → Option Error
  | .error e => some e
  | .ok _    => none

theorem refusal_eq : refusal? (Sample.program.answeredBy (m := Id) surroundings.world).1 =
    some (.fetchFailed "staging directory" unmade.message) := by
  decide +kernel

theorem manifest_comes : surroundings.Comes (Sample.source.manifest Sample.reference)
    (.ok (.index ⟨[]⟩, "sha256:m")) := by
  refine Surroundings.comes_ok ?_
  decide +kernel

end Unstaged

-- All manifests are there, and no layer is selected, so that nothing is written. There is no
-- content all the same.
theorem fetchContent_unstaged : ∃ t result k',
    Sample.source.client.reference "v1" = .ok Sample.reference ∧
    Unstaged.surroundings.Hosts Sample.program t (result, k') ∧
    Unstaged.refusal? result = some (.fetchFailed "staging directory" Unstaged.unmade.message) ∧
    Unstaged.surroundings.Comes (Sample.source.manifest Sample.reference)
      (.ok (.index ⟨[]⟩, "sha256:m")) ∧
    Unstaged.surroundings.Comprises Sample.source Sample.reference (.index ⟨[]⟩) [] ∧
    pending [] (([] : List Image).flatMap (·.layers)) = [] := by
  have hosts := Unstaged.surroundings.hosts_answeredBy Sample.program
  exact ⟨_, _, _, Sample.reference_ok, hosts, Unstaged.refusal_eq, Unstaged.manifest_comes,
    .index .nil, rfl⟩

end ArtifactSync.Registry
