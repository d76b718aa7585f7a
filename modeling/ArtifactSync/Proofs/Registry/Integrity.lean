import ArtifactSync.Proofs.Registry.Files
import ArtifactSync.Proofs.Registry.Retry
import ArtifactSync.Proofs.Text.Ascii

namespace ArtifactSync

namespace Sha256

theorem asciiLower_hex (message : Bytes) :
    (hex message).toList.map Text.asciiLower = (hex message).toList := by
  have digit (n : Nat) (h : n < 16) : Text.asciiLower (Nat.digitChar n) = Nat.digitChar n := by
    have all : ∀ m : Fin 16, Text.asciiLower (Nat.digitChar m) = Nat.digitChar m := by decide
    exact all ⟨n, h⟩
  rw [hex, String.toList_ofList, List.map_flatMap]
  congr 1
  funext b
  have high : b.toNat / 16 < 16 := Nat.div_lt_of_lt_mul b.toNat_lt
  simp [Text.Hexadecimal.lowerPair, digit _ high, digit _ (Nat.mod_lt b.toNat (by decide))]

end Sha256

namespace Registry

open Fallible (bind_ok)
open Http (Request Response)
open Interaction (Turn)
open Program
open Retrieval
open Source

variable {α : Type} {s : Source} {r : Reference} {l layer : Descriptor} {m : Manifest}
  {bytes : Bytes} {k k' : Option KeptToken} {t t' : List (Turn Answer)}

-- The manifest came whole, in an answer that is no refusal.
def Received (t : List (Turn Answer)) (m : Manifest) : Prop :=
  ∃ req deadline response, ⟨.send req deadline, some (.response response)⟩ ∈ t ∧
    response.status = .ok ∧ response.isCut = false ∧ Manifest.ofText response.body = .ok m

-- Of the attempts to get the layer one has succeeded. The bytes are those of the answer that ended
-- it, and they have passed for the layer's.
structure Delivered (s : Source) (r : Reference) (l : Descriptor) (t : List (Turn Answer))
    (bytes : Bytes) : Prop where
  attempt  : ∃ during k k' req response, during <:+: t ∧
    Gives (s.blob r l) k during (.ok bytes) k' ∧ EndsWith s during req (.response response) ∧
    response.status.isError = false ∧ response.isCut = false ∧ response.body = bytes
  verified : verify l.digest bytes = .ok ()

theorem Received.mono (received : Received t m) (sub : t ⊆ t') : Received t' m := by
  have ⟨req, deadline, response, mem, came⟩ := received
  exact ⟨req, deadline, response, sub mem, came⟩

theorem Delivered.mono (d : Delivered s r l t bytes) (sub : t <:+: t') :
    Delivered s r l t' bytes where
  attempt  := by
    have ⟨during, k, k', req, response, inner, came⟩ := d.attempt
    exact ⟨during, k, k', req, response, inner.trans sub, came⟩
  verified := d.verified

theorem gives_failWith {context : String} {x : Program (Except Failure α)} {a : α}
    (h : (Source.failWith context x).Gives k t a k') : Gives x k t (.ok a) k' := by
  have ⟨y, hy, given⟩ := gives_map h
  cases y with
  | ok _    =>
    cases hy
    exact given
  | error _ => cases hy

-- The attempt that succeeded was the last one.
theorem gives_retrieval {context : String} {op : Program (Except Failure α)} {a : α}
    (h : (Source.failWith context (s.persistently op)).Gives k t a k') :
    ∃ t₁ t₂ k₁, t = t₁ ++ t₂ ∧ Gives op k₁ t₂ (.ok a) k' := by
  have ⟨_, t₁, t₂, k₁, _, ht, _, last, _⟩ := gives_persistently (gives_failWith h)
  exact ⟨t₁, t₂, k₁, ht, last⟩

theorem pullManifest_asked {digest : String}
    (h : (s.pullManifest r).Gives k t (m, digest) k') :
    ∃ a, Asked s .get (s.manifestAddress r) t (.ok a) ∧
      manifestOf (s.manifestAddress r) a.response = .ok (m, digest) := by
  have ⟨t₁, t₂, _, ht, last⟩ := gives_retrieval h
  have ⟨y, sends, came⟩ := manifest_sends last
  cases y with
  | error _ => cases came
  | ok a    => exact ⟨a, (sendWithToken_asked sends).mono ⟨t₁, [], by simp [ht]⟩, came.symm⟩

theorem pullManifest_received {digest : String}
    (h : (s.pullManifest r).Gives k t (m, digest) k') : Received t m := by
  have ⟨_, t₂, _, ht, last⟩ := gives_retrieval h
  have ⟨y, sent, came⟩ := manifest_sent last
  cases sent with
  | unaddressed _  => cases came
  | addressed _ ends =>
    have ⟨ending, _, reports⟩ := ends
    cases reports with
    | unanswered   => cases came
    | redirected _ => cases came
    | arrived _    =>
      have ⟨status, uncut, read⟩ := manifestOf_ok came.symm
      exact ⟨_, _, _, ht ▸ List.mem_append_right _ ending.mem, status, uncut, read⟩

theorem blob_ok {during : List (Turn Answer)} (h : Gives (s.blob r l) k during (.ok bytes) k') :
    ∃ req response, EndsWith s during req (.response response) ∧
      response.status.isError = false ∧ response.isCut = false ∧ response.body = bytes := by
  cases blob_settles h with
  | inl unaddressed => cases unaddressed.2
  | inr addressed   =>
    have ⟨_, y, settles, came⟩ := addressed
    have ⟨a, hy, layer⟩ := bind_ok came.symm
    subst hy
    cases settles with
    | arrived ends _ =>
      have ⟨last, _, reports⟩ := ends
      cases reports with
      | arrived _ => exact ⟨_, _, last, layerOf_ok layer⟩

theorem pullLayer_delivered (h : (s.pullLayer r l).Gives k t bytes k') :
    Delivered s r l t bytes := by
  have ⟨t₁, t₂, content, _, ht, pulled, h⟩ := Step.gives_bind h
  have ⟨_, _, _, _, _, checked, h⟩ := Step.gives_bind h
  have ⟨verified, _⟩ := Step.gives_ofExcept checked
  have ⟨hb, _⟩ := Step.gives_pure h
  subst hb
  have ⟨t₃, t₄, _, ht₁, last⟩ := gives_retrieval pulled
  have ⟨req, response, came⟩ := blob_ok last
  exact ⟨⟨t₄, _, _, req, response, ⟨t₃, t₂, by rw [ht, ht₁]⟩, last, came⟩, verified⟩

theorem Pulls.received {entries : List IndexEntry} {ms : List Manifest}
    (pulls : Pulls s r entries k t ms k') : ∀ m ∈ ms, Received t m := by
  induction pulls with
  | nil => simp
  | cons pulled _ hi =>
    refine List.forall_mem_cons.2 ⟨?_, fun m hm => ?_⟩
    · exact (pullManifest_received pulled).mono (List.subset_append_left _ _)
    · exact (hi m hm).mono (List.subset_append_right _ _)

theorem Covers.received {digest : String} {images : List Image} {k₁ k₂ : Option KeptToken}
    {t₁ t₂ : List (Turn Answer)} (pulled : (s.pullManifest r).Gives k t₁ (m, digest) k₁)
    (covers : Covers s r m k₂ t₂ images k') : ∀ i ∈ images, Received (t₁ ++ t₂) (.image i) := by
  intro i hi
  cases covers with
  | image       =>
    cases List.mem_singleton.1 hi
    exact (pullManifest_received pulled).mono (List.subset_append_left _ _)
  | index pulls =>
    have ⟨m, hm, same⟩ := List.mem_filterMap.1 hi
    have received : Received (t₁ ++ t₂) m :=
      (pulls.received m hm).mono (List.subset_append_right _ _)
    cases m with
    | image _ =>
      cases same
      exact received
    | index _ => cases same

theorem Covered.received {images : List Image} (c : Covered s r k t images) :
    ∀ i ∈ images, Received t (.image i) := by
  have ⟨_, t₁, t₂, t₃, m, _, _, _, ht, pulled, covers⟩ := c.came
  intro i hi
  exact (covers.received pulled i hi).mono fun e he => by simp [ht, ← List.append_assoc, he]

-- Whatever is in the area after the layers have been gathered was there before, or was delivered
-- for a layer whose title stands for its path.
theorem Stages.delivered {staged : List String} {area area' : Staging.Area}
    {layers : List Descriptor} (h : Stages s r staged area layers k t area' k') :
    ∀ e ∈ area'.files, e ∈ area.files ∨ ∃ l ∈ layers, l.Holds e.1 ∧ Delivered s r l t e.2 := by
  induction h with
  | nil => exact fun _ he => .inl he
  | passed _ _ hi =>
    exact fun e he => (hi e he).imp_right fun ⟨l, hl, delivered⟩ => ⟨l, .tail _ hl, delivered⟩
  | @taken _ _ layer _ _ _ _ _ t₁ _ t₂ _ t₃ _ _ titled file _ pulled stored _ hi =>
    have ⟨_, written, _⟩ := Step.gives_write stored
    have ⟨_, path, files⟩ := Staging.Area.files_writeOn written
    intro e he
    cases hi e he with
    | inl there     =>
      rw [files] at there
      refine (Staging.Area.mem_files_store there).symm.imp_right fun here => ?_
      subst here
      have first : t₁ <:+: t₁ ++ (t₂ ++ t₃) := (List.prefix_append ..).isInfix
      exact ⟨layer, .head _, ⟨file.2, _, titled, path⟩, (pullLayer_delivered pulled).mono first⟩
    | inr delivered =>
      have ⟨l, hl, holds, delivered⟩ := delivered
      have later : t₃ <:+: t₁ ++ (t₂ ++ t₃) := ⟨t₁ ++ t₂, [], by simp⟩
      exact .inr ⟨l, .tail _ hl, holds, delivered.mono later⟩

-- The two texts differ at most in the case of their letters.
def SameLetters (a b : String) : Prop :=
  a.toList.map Text.asciiLower = b.toList.map Text.asciiLower

theorem verify_ok {hex : String} (h : verify ("sha256:" ++ hex) bytes = .ok ()) :
    SameLetters hex (Sha256.hex bytes) := by
  unfold verify at h
  simp only [String.toList_append, List.prefix_append, if_true, List.drop_left] at h
  split at h
  case isTrue same =>
    rw [SameLetters, ← same, List.map_map]
    congr 1
    funext c
    exact Text.asciiLower_asciiLower.symm
  case isFalse => cases h

theorem verify_eq_ok_iff {claimed : String} : verify claimed bytes = .ok () ↔
    ∀ hex, claimed = "sha256:" ++ hex → SameLetters hex (Sha256.hex bytes) := by
  constructor
  case mp => exact fun passed hex claims => verify_ok (claims ▸ passed)
  case mpr =>
    intro matching
    unfold verify
    dsimp only
    split
    case isTrue claims =>
      have ⟨rest, hr⟩ := claims
      have same : claimed = "sha256:" ++ String.ofList rest := by
        refine String.toList_inj.1 ?_
        rw [String.toList_append, ← hr]
        exact congrArg _ String.toList_ofList.symm
      have letters := matching _ same
      rw [SameLetters, String.toList_ofList, Sha256.asciiLower_hex] at letters
      rw [← hr, List.drop_left, if_pos letters]
    case isFalse => rfl

theorem fetchContent_delivered {artifact : String} {content : Content}
    (h : ((s.fetchContent artifact).run k).Reaches t (.done (.ok content, k'))) {name : String}
    (hf : content.files.find? name = some bytes) :
    ∃ r images image layer, s.client.reference artifact = .ok r ∧ Covered s r k t images ∧
      image ∈ images ∧ Received t (.image image) ∧ layer ∈ image.layers ∧ layer.Holds [name] ∧
      Delivered s r layer t bytes ∧
      ∀ hex, layer.digest = "sha256:" ++ hex → SameLetters hex (Sha256.hex bytes) := by
  have ⟨r, images, hr, covered, gathered⟩ := fetchContent_gathered h
  have ⟨_, fresh, full, reading, before, during, _, _, created, ht, staged, read⟩ := gathered.staged
  have there := Staging.Area.mem_files_of_topFiles (Staging.Area.readFiles_ok read ▸ hf)
  cases (stageLayers_stages staged).delivered _ there with
  | inl old       =>
    have file := Staging.Area.isFile_iff.2 ⟨_, old, rfl⟩
    exact absurd file (Staging.Area.not_isFile_create created)
  | inr delivered =>
    have ⟨layer, hl, holds, delivered⟩ := delivered
    have ⟨image, hi, hl⟩ := List.mem_flatMap.1 hl
    have sub : during <:+: t := ⟨before, _, by rw [ht, List.append_assoc]⟩
    exact ⟨r, images, image, layer, hr, covered, hi, covered.received image hi, hl, holds,
      delivered.mono sub, fun hex claimed => verify_ok (claimed ▸ delivered.verified)⟩

-- An artifact of one file, whose layer claims a hash in capital letters.
namespace Claimed

def digest : String :=
  "sha256:8ED3F6AD685B959EAD7022518E1AF76CD816F8E8EC7CCDDA1ED4018E8F2223F8"

def manifestText : List String := [
  "\x7b\"schemaVersion\":2,", "\"config\":\x7b", "\"mediaType\":\"c\",", "\"digest\":\"d\",",
  "\"size\":2\x7d,", "\"layers\":[", "\x7b\"mediaType\":\"l\",", "\"digest\":\"", digest, "\",",
  "\"size\":5,", "\"annotations\":", "\x7b\"org.opencontainers.", "image.title\":", "\"a\"",
  "\x7d\x7d]\x7d"]

def reply : Url.Path → Http.Reply
  | .segments ["v2", "o", "c", "manifests", "v1"] => .response {
      status  := ⟨200⟩
      phrase  := "OK"
      headers := [(Retrieval.digestHeader, bytesOf "sha256:m")]
      body    := manifestText.flatMap bytesOf
    }
  | .segments ["v2", "o", "c", "blobs", _] => .response {
      status := ⟨200⟩
      phrase := "OK"
      body   := bytesOf "alpha"
    }
  | _ => .nothing

def surroundings : Surroundings where
  reply q := reply q.url.path

theorem content_eq :
    (Sample.program.answeredBy (m := Id) surroundings.world).1.toOption = some Sample.content := by
  decide +kernel

end Claimed

theorem fetchContent_delivered_sample : ∃ t k' r image layer,
    Sample.program.Reaches t (.done (.ok Sample.content, k')) ∧ Received t (.image image) ∧
    layer ∈ image.layers ∧ layer.Holds ["a"] ∧
    Delivered Sample.source r layer t (bytesOf "alpha") ∧
    ∀ hex, layer.digest = "sha256:" ++ hex → SameLetters hex (Sha256.hex (bytesOf "alpha")) := by
  have ⟨k', run⟩ := reaches_ok Claimed.content_eq
  have file : Sample.content.files.find? "a" = some (bytesOf "alpha") := rfl
  have ⟨r, _, image, layer, _, _, _, received, mem, holds, delivered, claim⟩ :=
    fetchContent_delivered run file
  exact ⟨_, k', r, image, layer, run, received, mem, holds, delivered, claim⟩

end Registry

end ArtifactSync
