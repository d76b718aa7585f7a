import ArtifactSync.Proofs.Kubernetes.Client
import Mathlib.Data.List.Forall2

namespace ArtifactSync.Kubernetes

open Json
open Json.Reader

-- What is asked of a store.
inductive Step
  | getSpec (name : String)
  | get (r : SecretRef)
  | create (s : Secret)
  | replace (s : Secret)

-- What comes of it, for whom the texts of failures make no difference.
inductive Outcome
  | spec (o : Option OciSecret)
  | secret (s : Option Secret)
  | done
  | failed (kind : ErrorKind)

namespace Outcome

-- The object that was found, as it is written.
def found? : Outcome → Option String
  | spec o          => o.map (·.toJson.write)
  | secret s        => s.map (·.toJson.write)
  | done | failed _ => none

def ofResult {α : Type} (f : α → Outcome) : Except Error α → Outcome
  | .ok a    => f a
  | .error e => .failed e.kind

end Outcome

namespace Step

open SecretAccess Outcome

-- In a cluster, a step is an exchange with the API.
def exchange : Step → Exchange Outcome
  | getSpec name => ofResult spec <$> SecretAccess.getSpec name
  | get r        => ofResult secret <$> SecretAccess.get r
  | create s     => ofResult (fun _ => done) <$> SecretAccess.create s
  | replace s    => ofResult (fun _ => done) <$> SecretAccess.replace s

-- A write that is refused has no effect.
def written (st : Store) : Except Error Store → Outcome × Store
  | .ok st'  => (.done, st')
  | .error e => (.failed e.kind, st)

def inMemory (st : Store) : Step → Outcome × Store
  | getSpec name => (.spec (st.spec? name), st)
  | get r        => (.secret (st.secret? r), st)
  | create s     => written st (st.create s)
  | replace s    => written st (st.replace s)

-- As what a step fails if the API does.
def failure : Step → ErrorKind
  | getSpec _ | get _    => .api
  | create _ | replace _ => .persistFailed

end Step

-- The reference that a secret is found by.
def Secret.ref (s : Secret) : SecretRef :=
  ⟨s.metadata.name, s.metadata.namespace⟩

-- Steps on names that are parts of a path, with secrets that are told by their JSON form. Those
-- that are to replace another one say which version it has, and new ones have none yet.
def Step.IsSound : Step → Prop
  | getSpec name => IsSegment name ∧ Client.FitsAddress (specPath name)
  | get r        => Addressable r
  | create s     => Addressable s.ref ∧ s.metadata.IsSound ∧ s.metadata.resourceVersion = none
  | replace s    => Addressable s.ref ∧ s.metadata.IsSound ∧ s.metadata.resourceVersion.isSome

-- A reply that does not hold what was asked for.
def Reply.Withholds {α : Type} (reader : Reader α) (q : Reply) : Prop :=
  q.status.isError = false → ∀ a, Json.read reader q.body ≠ .ok a

-- Nor does it say that there is nothing.
def Reply.ClaimsNoAbsence (q : Reply) : Prop :=
  q.status.isError = true →
    ∀ f, Json.read ApiFailure.record.reader q.body = .ok f → f.reason ≠ ApiFailure.notFound

-- The answers by which the API fails to do what it is asked for in a step. There may be none at
-- all, for a request that did not get through.
def Step.FailsBy : Answer → Step → Prop
  | .error _, _      => True
  | .ok q, getSpec _ => q.Withholds OciSecret.reader ∧ q.ClaimsNoAbsence
  | .ok q, get _     => q.Withholds Secret.reader ∧ q.ClaimsNoAbsence
  | .ok q, create _  => q.Withholds Secret.reader
  | .ok q, replace _ => q.Withholds Secret.reader

-- A step, in which the API may fail to do what it is asked for.
structure Turn where
  step   : Step
  fault? : Option Answer := none

namespace Turn

structure IsSound (t : Turn) : Prop where
  step  : t.step.IsSound
  fault : ∀ q ∈ t.fault?, t.step.FailsBy q

-- Answers a request, and stores nothing if it fails.
def answer (fault? : Option Answer) (q : Request) (server : Server) : Answer × Server :=
  match fault? with
  | none       =>
    let (reply, server) := server.handle q
    (.ok reply, server)
  | some fault => (fault, server)

def inCluster (t : Turn) (server : Server) : Outcome × Server :=
  t.step.exchange.answeredBy (m := StateM Server) (answer t.fault?) server

def inMemory (t : Turn) (st : Store) : Outcome × Store :=
  match t.fault? with
  | none   => t.step.inMemory st
  | some _ => (.failed t.step.failure, st)

-- One turn after the other: the outcome of each, and what there is after it.
def trace {σ : Type} (f : Turn → σ → Outcome × σ) : List Turn → σ → List (Outcome × σ)
  | [], _      => []
  | t :: ts, s => f t s :: trace f ts (f t s).2

end Turn

-- An object of the API is the form of this secret.
structure IsFormOf (v : Value) (s : Secret) : Prop where
  read    : Json.read Secret.reader (bytesOf v.write) = .ok s
  version : Server.versionOf? v = s.metadata.resourceVersion.map .string

-- The API holds what the store does.
structure Mirrors (server : Server) (st : Store) : Prop where
  writes  : server.writes = st.writes
  specs   : ∀ name, Option.Rel
    (fun v o => Json.read OciSecret.reader (bytesOf v.write) = .ok o)
    (server.objects.find? (specPath name)) (st.spec? name)
  secrets : ∀ r, Addressable r →
    Option.Rel IsFormOf (server.objects.find? (secretPath r)) (st.secret? r)

variable {name : String} {r : SecretRef} {s : Secret} {server : Server} {st : Store} {q : Reply}
  {n : Nat} {step : Step} {t : Turn} {turns : List Turn} {α : Type} {reader : Reader α}

-- The same outcome, and the same content behind.
structure Agree (x : Outcome × Server) (y : Outcome × Store) : Prop where
  outcome : x.1 = y.1
  content : Mirrors x.2 y.2

theorem mirrors_empty : Mirrors {} {} where
  writes      := rfl
  specs _     := .none
  secrets _ _ := .none

-- Whoever can be asked for has a name of its own.
theorem Addressable.named (h : Addressable s.ref) : s.metadata.name = some s.ref.name := by
  have name := h.name.1
  unfold Secret.ref SecretRef.name at name ⊢
  cases hs : s.metadata.name with
  | none   => exact absurd (by rw [hs]; rfl) name
  | some _ => rfl

theorem anyName_eq (h : Addressable s.ref) : s.anyName = s.ref.name := by
  rw [Secret.anyName, ObjectMeta.anyName, h.named]
  rfl

theorem key_eq (h : Addressable s.ref) : Store.key s = s.ref.text := by
  rw [Store.key, Secret.label, anyName_eq h]
  rfl

-- What is stored is a form of what was sent, at its new version.
theorem isFormOf_store (sound : s.metadata.IsSound) :
    IsFormOf (Server.withVersion s.toJson n).canonical (Store.withVersion s n) := by
  have sound' : (Store.withVersion s n).metadata.IsSound :=
    ⟨sound.created, sound.deleted, sound.grace, sound.generation, sound.managed⟩
  rw [Server.canonical_withVersion]
  refine ⟨Secret.read_canonical sound', ?_⟩
  rw [Server.versionOf?_canonical, Server.versionOf?_toJson]
  rfl

theorem Mirrors.put (h : Mirrors server st) (place : Addressable s.ref)
    (sound : s.metadata.IsSound) :
    Mirrors (server.store (secretPath s.ref) s.toJson).2 (st.put s) where
  writes       := congrArg (· + 1) h.writes
  specs name   := by
    show Option.Rel _ ((server.objects.insert _ _).find? _) _
    rw [Dict.find?_insert, if_neg specPath_ne_secretPath]
    exact h.specs name
  secrets r hr := by
    show Option.Rel _ ((server.objects.insert _ _).find? _) ((st.secrets.insert _ _).find? _)
    rw [Dict.find?_insert, Dict.find?_insert, key_eq place, h.writes]
    by_cases same : secretPath r = secretPath s.ref
    case pos =>
      rw [if_pos same, if_pos ((secretPath_inj hr place).1 same)]
      exact .some (isFormOf_store sound)
    case neg =>
      rw [if_neg same, if_neg fun texts => same ((secretPath_inj hr place).2 texts)]
      exact h.secrets r hr

namespace Client

theorem absentAsNone_api {f : ApiFailure} (other : f.reason ≠ ApiFailure.notFound) :
    absentAsNone (.error (.api f) : Except Fault α) = .error (.api f) :=
  if_neg other

-- What is withheld is an error, and no absence unless that is claimed.
theorem understand_withheld (withheld : q.Withholds reader) :
    ∃ f, understand reader q = .error f ∧
      (q.ClaimsNoAbsence → absentAsNone (understand reader q) = .error f) := by
  unfold understand bodyText
  cases Text.Utf8.decode q.body with
  | error f => exact ⟨.notText f, rfl, fun _ => rfl⟩
  | ok cs   =>
    cases refused : q.status.isError with
    | true  =>
      simp only [bind, Except.bind, if_true]
      cases told : Json.read ApiFailure.record.reader q.body with
      | ok f    =>
        exact ⟨.api f, rfl, fun claims => absentAsNone_api (claims refused f told)⟩
      | error _ =>
        have other : ("Failed to parse error data" : String) ≠ ApiFailure.notFound := by decide
        exact ⟨.api (.ofBody q.status (String.ofList cs)), rfl, fun _ => absentAsNone_api other⟩
    | false =>
      simp only [bind, Except.bind, Bool.false_eq_true, if_false]
      cases read : Json.read reader q.body with
      | ok a    => exact absurd read (withheld refused a)
      | error e => exact ⟨.unreadable e, rfl, fun _ => rfl⟩

end Client

-- A refusal of another kind is a failure.
theorem failsBy_refusal {code : Nat} {reason message : String}
    (refused : (Http.StatusCode.mk code).isError = true) (other : reason ≠ ApiFailure.notFound) :
    step.FailsBy (.ok (Server.refusal code reason message)) := by
  have withheld {α : Type} {reader : Reader α} :
      (Server.refusal code reason message).Withholds reader := fun granted =>
    absurd refused (Bool.eq_false_iff.1 granted)
  have claims : (Server.refusal code reason message).ClaimsNoAbsence := by
    intro _ f hf
    rw [Server.refusal_eq, Server.body_json, Server.read_status reason message refused] at hf
    exact Except.ok.inj hf ▸ other
  cases step with
  | getSpec _            => exact ⟨withheld, claims⟩
  | get _                => exact ⟨withheld, claims⟩
  | create _ | replace _ => exact withheld

namespace Step

open SecretAccess Outcome
open Interaction (ask)

theorem exchange_getSpec (sound : (getSpec name).IsSound) : (getSpec name).exchange =
    ask { method := .get, path := specPath name } fun q => .done (ofResult spec
      (readResult (Client.absentAsNone (Client.receive OciSecret.reader q)))) := by
  have plain : specCollection.toList.all Client.isPathCharacter = true := by decide
  have request : Client.objectRequest .get specCollection name none =
      .ok { method := .get, path := specPath name } :=
    Client.objectRequest_ok sound.1 (List.all_eq_true.1 plain) sound.2
  rw [exchange, SecretAccess.getSpec, Client.get, request]
  rfl

theorem objectRequest_secret (method : Method) (body : Option Value) (place : Addressable r) :
    Client.objectRequest method (collection r.namespace) r.name body =
      .ok { method, path := secretPath r, body } :=
  Client.objectRequest_ok place.name (isPathCharacter_collection place.space) place.short

theorem exchange_get (place : Addressable r) : (get r).exchange =
    ask { method := .get, path := secretPath r } fun q => .done
      (ofResult secret (readResult (Client.absentAsNone (Client.receive Secret.reader q)))) := by
  have request := objectRequest_secret .get none place
  rw [exchange, SecretAccess.get, Client.get, request]
  rfl

theorem exchange_create (place : Addressable s.ref) : (create s).exchange =
    ask { method := .post, path := collection s.namespace, body := some s.toJson } fun q => .done
      (ofResult (fun _ => done) (writeResult s (Client.receive Secret.reader q))) := by
  have short : Client.FitsAddress (collection s.namespace) := by
    refine Nat.lt_of_le_of_lt ?_ place.short
    unfold secretPath
    rw [String.utf8ByteSize_append, String.utf8ByteSize_append, Nat.add_assoc]
    exact Nat.le_add_right ..
  have path : Client.path (collection s.namespace ++ "?") = .ok (collection s.namespace) :=
    Client.path_ok (isPathCharacter_collection place.space) short
  rw [exchange, SecretAccess.create, Client.create, Client.request, path]
  rfl

theorem exchange_replace (place : Addressable s.ref) : (replace s).exchange =
    ask { method := .put, path := secretPath s.ref, body := some s.toJson } fun q => .done
      (ofResult (fun _ => done) (writeResult s (Client.receive Secret.reader q))) := by
  have request : Client.objectRequest .put (collection s.namespace) s.anyName (some s.toJson) =
      .ok { method := .put, path := secretPath s.ref, body := some s.toJson } :=
    anyName_eq place ▸ objectRequest_secret .put (some s.toJson) place
  rw [exchange, SecretAccess.replace, Client.replace, request]
  rfl

-- Where the API fails, a read fails as a failure of the API, and a write as one of the secret.
theorem exchange_fault {fault : Answer} (sound : step.IsSound) (fails : step.FailsBy fault) :
    step.exchange.answeredBy (m := StateM Server) (Turn.answer (some fault)) server =
      (.failed step.failure, server) := by
  cases step with
  | getSpec name =>
    rw [exchange_getSpec sound]
    cases fault with
    | error _ => rfl
    | ok q    =>
      have ⟨f, _, refused⟩ := Client.understand_withheld fails.1
      show (ofResult spec (readResult (Client.absentAsNone (Client.understand _ q))), server) = _
      rw [refused fails.2]
      rfl
  | get r        =>
    rw [exchange_get sound]
    cases fault with
    | error _ => rfl
    | ok q    =>
      have ⟨f, _, refused⟩ := Client.understand_withheld fails.1
      show (ofResult secret (readResult (Client.absentAsNone (Client.understand _ q))), server) = _
      rw [refused fails.2]
      rfl
  | create s     =>
    rw [exchange_create sound.1]
    cases fault with
    | error _ => rfl
    | ok q    =>
      have ⟨f, refused, _⟩ := Client.understand_withheld fails
      show (ofResult _ (writeResult s (Client.understand Secret.reader q)), server) = _
      rw [refused]
      rfl
  | replace s    =>
    rw [exchange_replace sound.1]
    cases fault with
    | error _ => rfl
    | ok q    =>
      have ⟨f, refused, _⟩ := Client.understand_withheld fails
      show (ofResult _ (writeResult s (Client.understand Secret.reader q)), server) = _
      rw [refused]
      rfl

theorem reads_spec (h : Mirrors server st) :
    Client.absentAsNone (Client.understand OciSecret.reader (server.get (specPath name))) =
      .ok (st.spec? name) := by
  have held := h.specs name
  unfold Server.get
  generalize server.objects.find? (specPath name) = kept, st.spec? name = known at held ⊢
  cases held with
  | none      =>
    rw [Server.notFound, Client.understand_refusal rfl]
    rfl
  | some read =>
    rw [Client.understand_ok rfl read]
    rfl

theorem reads_secret (h : Mirrors server st) (place : Addressable r) :
    Client.absentAsNone (Client.understand Secret.reader (server.get (secretPath r))) =
      .ok (st.secret? r) := by
  have held := h.secrets r place
  unfold Server.get
  generalize server.objects.find? (secretPath r) = kept, st.secret? r = known at held ⊢
  cases held with
  | none      =>
    rw [Server.notFound, Client.understand_refusal rfl]
    rfl
  | some form =>
    rw [Client.understand_ok rfl form.read]
    rfl

-- The version that a secret names is compared as it is written.
theorem isOutdated_iff {v : Value} {old : Secret} (form : IsFormOf v old)
    (versioned : s.metadata.resourceVersion.isSome) :
    Server.isOutdated v s.toJson = true ↔
      old.metadata.resourceVersion ≠ s.metadata.resourceVersion := by
  have ⟨version, named⟩ := Option.isSome_iff_exists.1 versioned
  unfold Server.isOutdated
  rw [Server.versionOf?_toJson, form.version, named]
  cases old.metadata.resourceVersion with
  | none       => simp
  | some older =>
    have same : (Value.string older).write = (Value.string version).write ↔ older = version :=
      ⟨Value.write_string_inj, congrArg fun s => (Value.string s).write⟩
    simp [same]

-- A write that is answered in this way.
def told (s : Secret) (x : Reply × Server) : Outcome × Server :=
  (ofResult (fun _ => done) (writeResult s (Client.understand Secret.reader x.1)), x.2)

theorem told_refusal {code : Nat} {reason message : String}
    (refused : (Http.StatusCode.mk code).isError = true) :
    told s (Server.refusal code reason message, server) = (.failed .persistFailed, server) := by
  rw [told, Client.understand_refusal refused]
  rfl

theorem told_stored {code : Nat} (success : (Http.StatusCode.mk code).isError = false)
    (sound : s.metadata.IsSound) :
    told s (Server.json code (server.store (secretPath s.ref) s.toJson).1,
        (server.store (secretPath s.ref) s.toJson).2) =
      (.done, (server.store (secretPath s.ref) s.toJson).2) := by
  have read := (isFormOf_store (n := server.writes + 1) sound).read
  rw [told, Server.store, Client.understand_ok success read]
  rfl

theorem agree_create (h : Mirrors server st) (place : Addressable s.ref)
    (sound : s.metadata.IsSound) :
    Agree (told s (server.create (collection s.namespace) s.toJson))
      (written st (st.create s)) := by
  have path : collection s.namespace ++ "/" ++ Server.nameOf s.toJson = secretPath s.ref := by
    rw [Server.nameOf_toJson place.named]
    rfl
  have held := h.secrets s.ref place
  generalize hk : server.objects.find? (secretPath s.ref) = kept,
    hn : st.secret? s.ref = known at held
  rw [← path] at hk
  rw [Store.secret?, ← key_eq place] at hn
  cases held with
  | none   =>
    have created : st.create s = .ok (st.put s) := by rw [Store.create, hn]
    rw [Server.create_free hk, path, told_stored rfl sound, created]
    exact ⟨rfl, h.put place sound⟩
  | some _ =>
    have refused : st.create s = .error (.persistFailed (Store.key s) "already exists") := by
      rw [Store.create, hn]
    have ⟨_, answered⟩ := Server.create_taken hk
    rw [answered, told_refusal rfl, refused]
    exact ⟨rfl, h⟩

theorem agree_replace (h : Mirrors server st) (place : Addressable s.ref)
    (sound : s.metadata.IsSound) (versioned : s.metadata.resourceVersion.isSome) :
    Agree (told s (server.replace (secretPath s.ref) s.toJson)) (written st (st.replace s)) := by
  have held := h.secrets s.ref place
  generalize hk : server.objects.find? (secretPath s.ref) = kept,
    hn : st.secret? s.ref = known at held
  rw [Store.secret?, ← key_eq place] at hn
  cases held with
  | none      =>
    have refused : st.replace s = .error (.persistFailed (Store.key s) "conflict") := by
      rw [Store.replace, Store.isCurrent, hn]
      rfl
    rw [Server.replace_absent hk, Server.notFound, told_refusal rfl, refused]
    exact ⟨rfl, h⟩
  | some form =>
    cases outdated : Server.isOutdated _ s.toJson with
    | true  =>
      have other := (isOutdated_iff form versioned).1 outdated
      have refused : st.replace s = .error (.persistFailed (Store.key s) "conflict") := by
        rw [Store.replace, Store.isCurrent, hn]
        exact if_neg (by simpa using other)
      have ⟨_, answered⟩ := Server.replace_outdated hk outdated
      rw [answered, told_refusal rfl, refused]
      exact ⟨rfl, h⟩
    | false =>
      have current : ¬Server.isOutdated _ s.toJson = true := Bool.eq_false_iff.1 outdated
      rw [isOutdated_iff form versioned, Classical.not_not] at current
      have replaced : st.replace s = .ok (st.put s) := by
        rw [Store.replace, Store.isCurrent, hn]
        exact if_pos (by simpa using current)
      rw [Server.replace_current hk outdated, told_stored rfl sound, replaced]
      exact ⟨rfl, h.put place sound⟩

-- A step that the API answers as it should.
theorem agree_step (h : Mirrors server st) (sound : step.IsSound) :
    Agree (step.exchange.answeredBy (m := StateM Server) (Turn.answer none) server)
      (step.inMemory st) := by
  cases step with
  | getSpec name =>
    rw [exchange_getSpec sound]
    show Agree (ofResult spec (readResult (Client.absentAsNone
      (Client.understand OciSecret.reader (server.get (specPath name))))), server) _
    rw [reads_spec h]
    exact ⟨rfl, h⟩
  | get r        =>
    rw [exchange_get sound]
    show Agree (ofResult secret (readResult (Client.absentAsNone
      (Client.understand Secret.reader (server.get (secretPath r))))), server) _
    rw [reads_secret h sound]
    exact ⟨rfl, h⟩
  | create s     =>
    rw [exchange_create sound.1]
    exact agree_create h sound.1 sound.2.1
  | replace s    =>
    rw [exchange_replace sound.1]
    exact agree_replace h sound.1 sound.2.1 sound.2.2

end Step

namespace Turn

theorem agree (h : Mirrors server st) (sound : t.IsSound) :
    Agree (t.inCluster server) (t.inMemory st) := by
  have ⟨step, fault?⟩ := t
  cases fault? with
  | none   => exact Step.agree_step h sound.step
  | some q =>
    unfold inCluster
    rw [Step.exchange_fault sound.step (sound.fault q rfl)]
    exact ⟨rfl, h⟩

-- Whatever is asked, the cluster and the store in memory agree after each turn.
theorem trace_agree (h : Mirrors server st) (sound : ∀ t ∈ turns, t.IsSound) :
    List.Forall₂ Agree (trace inCluster turns server) (trace inMemory turns st) := by
  induction turns generalizing server st with
  | nil          => exact .nil
  | cons t ts hi =>
    have ⟨here, there⟩ := List.forall_mem_cons.1 sound
    have next := agree h here
    exact .cons next (hi next.content there)

section

-- A secret of two bytes, made in the last second of 2016, and the same to replace it.
def site : Secret where
  metadata := {
    name := some "site", «namespace» := some "apps"
    creationTimestamp := some ⟨1483228799, true⟩ }
  data     := some (.singleton "a.txt" [0xFF, 0x00])

def siteAgain : Secret :=
  { site with metadata := { site.metadata with resourceVersion := some "1" } }

def down : Answer :=
  .ok (Server.refusal 500 "InternalError" "etcd unavailable")

def cutOff : Answer :=
  .error "ServiceError: client error (Connect)"

def visits : List Turn := [
  ⟨.get site.ref, none⟩, ⟨.create site, none⟩, ⟨.create site, none⟩, ⟨.get site.ref, none⟩,
  ⟨.replace siteAgain, none⟩, ⟨.replace siteAgain, none⟩, ⟨.get site.ref, some down⟩,
  ⟨.get site.ref, some cutOff⟩]

theorem addressable_site : Addressable site.ref where
  space := by decide
  name  := by decide
  short := by
    unfold Client.FitsAddress
    decide +kernel

theorem isSound_created : ∀ t ∈ site.metadata.creationTimestamp, t.IsSound := by
  rintro _ ⟨⟩
  exact ⟨by decide, fun _ => by decide⟩

theorem visits_sound : ∀ t ∈ visits, t.IsSound := by
  have calm (step : Step) (h : step.IsSound) : Turn.IsSound ⟨step, none⟩ := ⟨h, nofun⟩
  have once : site.metadata.IsSound := ⟨isSound_created, nofun, nofun, nofun, nofun⟩
  have again : siteAgain.metadata.IsSound := ⟨isSound_created, nofun, nofun, nofun, nofun⟩
  have failing (q : Answer) (h : q ∈ some down) : (Step.get site.ref).FailsBy q := by
    cases h
    exact failsBy_refusal rfl (by decide)
  unfold visits
  refine List.forall_mem_cons.2 ⟨calm _ addressable_site, ?_⟩
  refine List.forall_mem_cons.2 ⟨calm _ ⟨addressable_site, once, rfl⟩, ?_⟩
  refine List.forall_mem_cons.2 ⟨calm _ ⟨addressable_site, once, rfl⟩, ?_⟩
  refine List.forall_mem_cons.2 ⟨calm _ addressable_site, ?_⟩
  refine List.forall_mem_cons.2 ⟨calm _ ⟨addressable_site, again, rfl⟩, ?_⟩
  refine List.forall_mem_cons.2 ⟨calm _ ⟨addressable_site, again, rfl⟩, ?_⟩
  refine List.forall_mem_cons.2 ⟨⟨addressable_site, failing⟩, ?_⟩
  refine List.forall_mem_singleton.2 ⟨addressable_site, fun q h => ?_⟩
  cases h
  trivial

theorem outcomes_eq {xs : List (Outcome × Server)} {ys : List (Outcome × Store)}
    (h : List.Forall₂ Agree xs ys) : xs.map (·.1) = ys.map (·.1) := by
  induction h with
  | nil            => rfl
  | cons here _ hi => rw [List.map_cons, List.map_cons, here.outcome, hi]

-- The second creation comes too late, the second replacement is outdated, and the last reads fail.
theorem trace_agree_sample : Mirrors {} {} ∧ (∀ t ∈ visits, t.IsSound) ∧
    (trace inCluster visits {}).map (·.1) =
      [.secret none, .done, .failed .persistFailed, .secret (some siteAgain), .done,
        .failed .persistFailed, .failed .api, .failed .api] :=
  ⟨mirrors_empty, visits_sound, outcomes_eq (trace_agree mirrors_empty visits_sound)⟩

-- A question mark ends the path of an address, so that another secret is asked for.
def astray : SecretRef :=
  ⟨some "site?x", some "apps"⟩

def strays : List Turn :=
  [⟨.create site, none⟩, ⟨.get astray, none⟩]

-- A secret with the fraction 7.827003757293754e-10, which is not read as what is written.
def blurred : Secret where
  metadata := {
    name := some "site", «namespace» := some "apps"
    managedFields := some [{ fieldsV1 := some (.number (.float 4470637044270092043)) }] }

def blurs : List Turn :=
  [⟨.create blurred, none⟩, ⟨.get blurred.ref, none⟩]

theorem trace_disagrees :
    (site.ref.isComplete ∧ astray.isComplete ∧
      (trace inCluster strays {}).map (·.1.found?) ≠
        (trace inMemory strays {}).map (·.1.found?)) ∧
    (blurred.ref.isComplete ∧
      (trace inCluster blurs {}).map (·.1.found?) ≠
        (trace inMemory blurs {}).map (·.1.found?)) := by
  decide +kernel

end

end Turn

end ArtifactSync.Kubernetes
