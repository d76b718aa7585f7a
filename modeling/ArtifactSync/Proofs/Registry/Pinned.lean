import ArtifactSync.Proofs.Registry.Integrity
import ArtifactSync.Proofs.Registry.Reference

namespace ArtifactSync.Registry

open Http (Response)
open Interaction (Turn)
open Program
open Retrieval
open Source

-- The bytes have this hash.
def Hashes (pinned : String) (body : Bytes) : Prop :=
  ∃ hex, pinned = "sha256:" ++ hex ∧ SameLetters hex (Sha256.hex body)

-- The manifest was read from what came for the reference.
structure Came (s : Source) (r : Reference) (t : List (Turn Answer)) (m : Manifest) (a : Arrival) :
    Prop where
  asked : Asked s .get (s.manifestAddress r) t (.ok a)
  read  : Manifest.ofText a.response.body = .ok m

-- What came for the entries of an index, as far as it is an image.
inductive Listed (s : Source) (r : Reference) (t : List (Turn Answer)) :
    List IndexEntry → List (IndexEntry × Arrival) → List Image → Prop
  | nil : Listed s r t [] [] []
  | image {entry rest a came i images} :
    Came s (r.withDigest entry.digest) t (.image i) a → Listed s r t rest came images →
    Listed s r t (entry :: rest) ((entry, a) :: came) (i :: images)
  | nested {entry rest a came i images} :
    Came s (r.withDigest entry.digest) t (.index i) a → Listed s r t rest came images →
    Listed s r t (entry :: rest) came images

-- The images of a manifest, with what came for each of them that it lists.
inductive Consists (s : Source) (r : Reference) (t : List (Turn Answer)) :
    Manifest → List (IndexEntry × Arrival) → List Image → Prop
  | image {i} : Consists s r t (.image i) [] [i]
  | index {i came images} :
    Listed s r t i.manifests came images → Consists s r t (.index i) came images

-- The registry keeps to what it was asked for: it tells this digest, and the bytes have this hash.
structure Keeps (response : Response) (pinned : String) : Prop where
  told : digestOf response response.body = .ok pinned
  sent : Hashes pinned response.body

variable {s : Source} {r : Reference} {m : Manifest} {a : Arrival} {k k' : Option KeptToken}
  {t t' : List (Turn Answer)} {images : List Image}

theorem Came.mono (came : Came s r t m a) (sub : t <:+: t') : Came s r t' m a :=
  ⟨came.asked.mono sub, came.read⟩

theorem pullManifest_came {digest : String} (h : (s.pullManifest r).Gives k t (m, digest) k') :
    ∃ a, Came s r t m a ∧ digestOf a.response a.response.body = .ok digest := by
  have ⟨a, asked, read⟩ := pullManifest_asked h
  have ⟨_, _, text⟩ := manifestOf_ok read
  exact ⟨a, ⟨asked, text⟩, manifestOf_digest read⟩

theorem Pulls.listed {entries : List IndexEntry} {ms : List Manifest}
    (pulls : Pulls s r entries k t ms k') (sub : t <:+: t') :
    ∃ came, Listed s r t' entries came (ms.filterMap Manifest.image?) := by
  induction pulls with
  | nil => exact ⟨[], .nil⟩
  | @cons _ _ _ t₁ m _ _ t₂ _ _ pulled _ hi =>
    have first : t₁ <:+: t' := (List.prefix_append t₁ t₂).isInfix.trans sub
    have later : t₂ <:+: t' := (List.suffix_append t₁ t₂).isInfix.trans sub
    have ⟨a, here, _⟩ := pullManifest_came pulled
    have here := here.mono first
    have ⟨came, there⟩ := hi later
    cases m with
    | image _ => exact ⟨_, .image here there⟩
    | index _ => exact ⟨_, .nested here there⟩

theorem Covers.consists (covers : Covers s r m k t images k') (sub : t <:+: t') :
    ∃ came, Consists s r t' m came images := by
  cases covers with
  | image       => exact ⟨[], .image⟩
  | index pulls =>
    have ⟨came, listed⟩ := pulls.listed sub
    exact ⟨came, .index listed⟩

-- The digest that was asked for has no part in what is told, nor in what is taken. So the pins hold
-- exactly if the registry keeps them all.
theorem fetchContent_pinned {artifact : String} {content : Content} (pin : IsPin artifact)
    (h : ((s.fetchContent artifact).run k).Reaches t (.done (.ok content, k'))) :
    ∃ r m a came images, s.client.reference artifact = .ok r ∧ r.selector = artifact ∧
      Came s r t m a ∧ Consists s r t m came images ∧ Gathered s r t images content.files ∧
      digestOf a.response a.response.body = .ok content.digest.text ∧
      ((content.digest.text = artifact ∧ Hashes artifact a.response.body ∧
          ∀ e ∈ came, Hashes e.1.digest e.2.response.body) ↔
        Keeps a.response artifact ∧ ∀ e ∈ came, Hashes e.1.digest e.2.response.body) := by
  have ⟨r, hr, pulled⟩ := fetchContent_gives h
  have ⟨place, t₁, t₂, t₃, m, images, k₁, k₂, ht, given, covers, gathered⟩ :=
    pullContent_gives pulled
  have first : t₁ <:+: t :=
    ⟨[⟨.makeDirectory s.client.options.stagingRoot, place⟩], t₂ ++ t₃, by simp [ht]⟩
  have second : t₂ <:+: t :=
    ⟨⟨.makeDirectory s.client.options.stagingRoot, place⟩ :: t₁, t₃, by simp [ht]⟩
  have ⟨a, here, told⟩ := pullManifest_came given
  have ⟨came, consists⟩ := covers.consists second
  have selects := Reference.selector_of_pin pin hr
  refine ⟨r, m, a, came, images, hr, selects, here.mono first, consists, gathered, told, ?_⟩
  constructor
  case mp =>
    intro ⟨same, sent, children⟩
    exact ⟨⟨same ▸ told, sent⟩, children⟩
  case mpr =>
    intro ⟨keeps, children⟩
    exact ⟨Except.ok.inj (told.symm.trans keeps.told), keeps.sent, children⟩

-- A registry that answers for the hashes of other manifests than those it sends.
namespace Swapped

def pin : String := "sha256:aaaaaaaaaaaaaaaaaaaaaaaaaaaaaaaaaaaaaaaaaaaaaaaaaaaaaaaaaaaaaaaa"

def childPin : String := "sha256:bbbbbbbbbbbbbbbbbbbbbbbbbbbbbbbbbbbbbbbbbbbbbbbbbbbbbbbbbbbbbbbb"

def indexText : List String := [
  "\x7b\"schemaVersion\":2,", "\"manifests\":[", "\x7b\"mediaType\":\"m\",", "\"digest\":\"",
  childPin, "\",", "\"size\":3\x7d]\x7d"]

def index : Bytes := indexText.flatMap bytesOf

def image : Bytes := Sample.manifestText.flatMap bytesOf

def reply : Url.Path → Http.Reply
  | .segments ["v2", "o", "c", "manifests", selector] =>
    if selector = pin then .response {
      status  := ⟨200⟩
      phrase  := "OK"
      headers := [(Retrieval.digestHeader, bytesOf "sha256:m")]
      body    := index
    }
    else if selector = childPin then .response {
      status  := ⟨200⟩
      phrase  := "OK"
      headers := [(Retrieval.digestHeader, bytesOf childPin)]
      body    := image
    }
    else .nothing
  | path => Sample.reply path

def surroundings : Surroundings where
  reply q := reply q.url.path

def world : (q : Question) → Answer q :=
  surroundings.world

def program : Exchange (Except Error Content × Option KeptToken) :=
  (Sample.source.fetchContent pin).run none

theorem isPin : IsPin pin := by
  refine ⟨List.replicate 64 'a', by decide +kernel, List.length_replicate, fun c hc => ?_⟩
  rw [List.eq_of_mem_replicate hc]
  decide

theorem content_eq : (program.answeredBy (m := Id) world).1.toOption = some Sample.content := by
  decide +kernel

theorem index_eq : (Manifest.ofText index).toOption = some (.index ⟨[⟨"m", childPin, 3⟩]⟩) := by
  decide +kernel

theorem image_eq : (Manifest.ofText image).toOption = some (.image Sample.image) := by
  decide +kernel

theorem index_hash : "sha256:" ++ Sha256.hex index ≠ pin := by
  decide +kernel

theorem image_hash : "sha256:" ++ Sha256.hex image ≠ childPin := by
  decide +kernel

end Swapped

theorem fetchContent_pinned_sample : ∃ t k' r m a came images,
    Swapped.program.Reaches t (.done (.ok Sample.content, k')) ∧ r.selector = Swapped.pin ∧
    Came Sample.source r t m a ∧ Consists Sample.source r t m came images ∧
    digestOf a.response a.response.body = .ok "sha256:m" := by
  have ⟨k', run⟩ := reaches_ok Swapped.content_eq
  have ⟨r, m, a, came, images, _, selects, here, consists, _, told, _⟩ :=
    fetchContent_pinned Swapped.isPin run
  exact ⟨_, k', r, m, a, came, images, run, selects, here, consists, told⟩

-- The digest that is told is not the one that was asked for, and neither the index nor the image
-- that it lists has the hash that it was asked for by.
theorem fetchContent_ignores_pin : ∃ k',
    IsPin Swapped.pin ∧
    Swapped.program.Reaches (Swapped.program.turnsIn Swapped.world)
      (.done (.ok Sample.content, k')) ∧
    Sample.content.digest.text ≠ Swapped.pin ∧
    "sha256:" ++ Sha256.hex Swapped.index ≠ Swapped.pin ∧
    (Manifest.ofText Swapped.index).toOption = some (.index ⟨[⟨"m", Swapped.childPin, 3⟩]⟩) ∧
    "sha256:" ++ Sha256.hex Swapped.image ≠ Swapped.childPin ∧
    (Manifest.ofText Swapped.image).toOption = some (.image Sample.image) := by
  have ⟨k', run⟩ := reaches_ok Swapped.content_eq
  exact ⟨k', Swapped.isPin, run, by decide, Swapped.index_hash, Swapped.index_eq,
    Swapped.image_hash, Swapped.image_eq⟩

end ArtifactSync.Registry
