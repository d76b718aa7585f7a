import ArtifactSync.Proofs.Registry.Retry
import ArtifactSync.Proofs.Registry.Surroundings

namespace ArtifactSync.Registry

open Fallible (bind_error)
open Http (Reply Request Response StatusCode)
open Interaction (Turn)
open Program

namespace Retrieval

variable {α : Type} {address : String} {response : Response} {body : Bytes} {f : Failure}

def IsText (body : Bytes) : Prop :=
  ∃ cs, Text.Utf8.decode body = .ok cs

theorem check_transient_iff {status : StatusCode} (h : check address status body = .error f) :
    f.isTransient ↔ 500 ≤ status.number ∧ IsText body := by
  unfold check at h
  split at h
  case isTrue => cases h
  case isFalse other =>
    split at h
    case isTrue unauthorized =>
      cases h
      simp [Failure.isTransient, unauthorized, StatusCode.unauthorized]
    case isFalse =>
      split at h
      case isTrue success =>
        cases h
        simp only [StatusCode.isSuccess, Bool.and_eq_true, decide_eq_true_eq] at success
        simp only [Failure.isTransient, Bool.false_eq_true, false_iff, not_and]
        omega
      case isFalse =>
        unfold failureText at h
        cases hd : Text.Utf8.decode body with
        | error _ =>
          rw [hd] at h
          cases h
          simp [Failure.isTransient, IsText, hd]
        | ok cs   =>
          rw [hd] at h
          dsimp only at h
          split at h
          case isTrue refused =>
            simp only [StatusCode.isClientError, Bool.and_eq_true, decide_eq_true_eq] at refused
            split at h <;> cases h <;>
            · simp only [Failure.isTransient, Bool.false_eq_true, false_iff, not_and]
              omega
          case isFalse refused =>
            cases h
            simp only [StatusCode.isClientError, Bool.and_eq_true, decide_eq_true_eq] at refused
            have text : IsText body := ⟨cs, hd⟩
            simp only [Failure.isTransient, Bool.or_eq_true, decide_eq_true_eq, and_iff_left text]
            omega

theorem digestOf_not_transient (h : digestOf response body = .error f) : f.isTransient = false := by
  unfold digestOf at h
  split at h
  · cases h
  · split at h
    · cases h
    · cases h
      rfl

theorem checkHead_not_transient (h : Manifest.checkHead body = .error f) :
    f.isTransient = false := by
  unfold Manifest.checkHead at h
  repeat' split at h
  all_goals cases h <;> rfl

theorem ofMembers_not_transient (h : Manifest.ofMembers body = .error f) :
    f.isTransient = false := by
  unfold Manifest.ofMembers at h
  repeat' split at h
  all_goals cases h <;> rfl

theorem ofText_not_transient (h : Manifest.ofText body = .error f) : f.isTransient = false := by
  unfold Manifest.ofText at h
  split at h
  case isTrue =>
    cases h
    rfl
  case isFalse =>
    cases hc : Manifest.checkHead body with
    | error _ =>
      rw [hc] at h
      cases h
      exact checkHead_not_transient hc
    | ok _    =>
      rw [hc] at h
      exact ofMembers_not_transient h

-- All of the answer is read, then its status is looked at.
theorem whole_transient_iff {rest : Bytes → Except Failure α}
    (h : (do
      let body ← bodyOf response
      check address response.status body
      rest body) = .error f)
    (final : ∀ body, rest body = .error f → f.isTransient = false) :
    f.isTransient ↔ response.isCut ∨ 500 ≤ response.status.number ∧ IsText response.body := by
  cases bind_error h with
  | inl cut  =>
    have ⟨cut, hf⟩ := bodyOf_error cut
    simp [hf, Failure.isTransient, cut]
  | inr read =>
    have ⟨body, whole, h⟩ := read
    have ⟨uncut, hb⟩ := bodyOf_ok whole
    subst hb
    simp only [uncut, Bool.false_eq_true, false_or]
    cases bind_error h with
    | inl refused => exact check_transient_iff refused
    | inr passed  =>
      have ⟨_, checked, failed⟩ := passed
      simp [final _ failed, check_ok checked, StatusCode.ok]

end Retrieval

-- What is retrieved again where it fails in passing.
inductive Task
  | digest (r : Reference)
  | manifest (r : Reference)
  | layer (r : Reference) (l : Descriptor)

namespace Task

open Retrieval
open Source

abbrev Result : Task → Type
  | digest _   => String
  | manifest _ => Manifest × String
  | layer ..   => Bytes

variable (s : Source) (task : Task)

def attempt : (task : Task) → Program (Except Failure task.Result)
  | digest r   => s.manifestDigest r
  | manifest r => s.manifest r
  | layer r l  => s.blob r l

def address : Task → String
  | digest r | manifest r => s.manifestAddress r
  | layer r l             => s.blobAddress r l.digest

-- Of responses that are of no use, these are waited for to change. Of a layer these are all; but
-- where there are other addresses to look at, none of them may be without a meaning.
def Waits (req : Request) (response : Response) : Task → Prop
  | digest _ | manifest _ =>
    (req.method = .get ∧ response.isCut) ∨
      500 ≤ response.status.number ∧ (req.method = .get → IsText response.body)
  | layer _ l             =>
    response.status.isError → ∀ address ∈ l.urls.getD [], (Url.ofText? address).isSome

-- After these calls a failure is taken to be one that passes.
inductive Passing (t : List (Turn Answer)) : Prop
  | unaddressed : Url.ofText? (task.address s) = none → Passing t
  | unanswered {req : Request} : EndsWith s t req .nothing → Passing t
  | redirected {req : Request} {response : Response} :
    EndsWith s t req (.response response) → (req.redirected? response).isSome → Passing t
  | answered {req : Request} {response : Response} :
    EndsWith s t req (.response response) → task.Waits req response → Passing t

variable {s : Source} {task : Task} {t : List (Turn Answer)} {req : Request} {response : Response}
  {k k' : Option KeptToken} {f : Failure}

theorem passing_iff_waits (there : (Url.ofText? (task.address s)).isSome)
    (last : EndsWith s t req (.response response)) (here : req.redirected? response = none) :
    task.Passing s t ↔ task.Waits req response := by
  constructor
  case mp =>
    intro passing
    cases passing with
    | unaddressed none         => simp [none] at there
    | unanswered last'         => cases (last.unique last').2
    | redirected last' elsewhere =>
      have ⟨hq, hr⟩ := last.unique last'
      cases hq
      cases hr
      simp [here] at elsewhere
    | answered last' waits     =>
      have ⟨hq, hr⟩ := last.unique last'
      cases hq
      cases hr
      exact waits
  case mpr => exact .answered last

-- A request that was not answered is always made again, and one that was, as the answer is judged.
theorem transient_iff_of_judged {α : Type} {method : Http.Method}
    {judge : Program.Arrival → Except Failure α} {y : Except RequestFailure Program.Arrival}
    (sent : Sent s method (task.address s) t y) (h : .error f = judged judge y)
    (each : ∀ {req : Request} {response : Response}, req.method = method →
      judge ⟨response, req.url⟩ = .error f → (f.isTransient ↔ task.Waits req response)) :
    f.isTransient ↔ task.Passing s t := by
  cases sent with
  | unaddressed none =>
    cases h
    simp only [Failure.isTransient, true_iff]
    exact .unaddressed none
  | addressed there ends =>
    have ⟨last, hm, reports⟩ := ends
    cases reports with
    | unanswered   =>
      cases h
      simp only [Failure.isTransient, true_iff]
      exact .unanswered last
    | redirected elsewhere =>
      cases h
      simp only [Failure.isTransient, true_iff]
      exact .redirected last elsewhere
    | arrived here => rw [passing_iff_waits there last here, each hm h.symm]

theorem digest_isTransient_iff {r : Reference}
    (fails : Gives ((digest r).attempt s) k t (.error f) k') :
    f.isTransient ↔ (digest r).Passing s t := by
  cases manifestDigest_sent fails with
  | inl head  =>
    have ⟨y, sent, h⟩ := head
    refine transient_iff_of_judged sent h fun {req response} hm h => ?_
    have text : IsText [] := ⟨[], rfl⟩
    simp only [Waits, hm, reduceCtorEq, false_and, false_or, false_imp_iff, and_true]
    cases bind_error h with
    | inl refused => rw [check_transient_iff refused, and_iff_left text]
    | inr passed  =>
      have ⟨_, checked, failed⟩ := passed
      have status : response.status = .ok := check_ok checked
      simp [digestOf_not_transient failed, status, StatusCode.ok]
  | inr whole =>
    have ⟨y, sent, h⟩ := whole
    refine transient_iff_of_judged sent h fun {req response} hm h => ?_
    simp only [Waits, hm, true_and, true_imp_iff]
    exact whole_transient_iff h fun _ failed => digestOf_not_transient failed

theorem manifest_isTransient_iff {r : Reference}
    (fails : Gives ((manifest r).attempt s) k t (.error f) k') :
    f.isTransient ↔ (manifest r).Passing s t := by
  have ⟨y, sent, h⟩ := manifest_sent fails
  refine transient_iff_of_judged sent h fun {req response} hm h => ?_
  simp only [Waits, hm, true_and, true_imp_iff]
  refine whole_transient_iff h fun body failed => ?_
  cases bind_error failed with
  | inl failed => exact digestOf_not_transient failed
  | inr given  =>
    have ⟨_, _, failed⟩ := given
    cases bind_error failed with
    | inl failed => exact ofText_not_transient failed
    | inr given  =>
      have ⟨_, _, failed⟩ := given
      cases failed

theorem layer_isTransient_iff {r : Reference} {l : Descriptor}
    (fails : Gives ((layer r l).attempt s) k t (.error f) k') :
    f.isTransient ↔ (layer r l).Passing s t := by
  cases blob_settles fails with
  | inl unaddressed =>
    have ⟨nowhere, hf⟩ := unaddressed
    cases hf
    simp only [Failure.isTransient, true_iff]
    exact .unaddressed nowhere
  | inr addressed   =>
    have ⟨there, y, settles, h⟩ := addressed
    have there : (Url.ofText? ((layer r l).address s)).isSome := there
    cases settles with
    | @unaddressed a address why ends refused mem nowhere =>
      have hf : Except.error f = .error (.layerAddress why) := h
      cases hf
      have ⟨last, _, reports⟩ := ends
      cases reports with
      | arrived here =>
        rw [passing_iff_waits there last here]
        simp only [Failure.isTransient, Bool.false_eq_true, false_iff, Waits]
        intro waits
        have := waits refused _ mem
        simp [nowhere] at this
    | @failed rf ends           =>
      have hf : Except.error f = .error (.request rf) := h
      cases hf
      have ⟨last, _, reports⟩ := ends
      simp only [Failure.isTransient, true_iff]
      cases reports with
      | unanswered           => exact .unanswered last
      | redirected elsewhere => exact .redirected last elsewhere
    | @arrived a ends places    =>
      have judged : .error f = layerOf a := h
      have ⟨rf, hf⟩ := layerOf_error judged.symm
      have ⟨last, _, reports⟩ := ends
      cases reports with
      | arrived here =>
        rw [passing_iff_waits there last here]
        simp only [hf, Failure.isTransient, true_iff, Waits]
        exact places

theorem isTransient_iff (fails : Gives (task.attempt s) k t (.error f) k') :
    f.isTransient ↔ task.Passing s t := by
  cases task with
  | digest r   => exact digest_isTransient_iff fails
  | manifest r => exact manifest_isTransient_iff fails
  | layer r l  => exact layer_isTransient_iff fails

-- After an attempt that failed there is another one exactly if not all of them have been made and
-- what the last one failed on may pass. Otherwise its failure is the end.
theorem repeated_iff {n : Nat} {t₁ t₂ : List (Turn Answer)} {k₁ k₂ : Option KeptToken}
    (tried : Tried s (task.attempt s) n k t₁ k₁) (within : n ≤ s.client.options.retry.maxRetries)
    (fails : Gives (task.attempt s) k₁ t₂ (.error f) k₂) :
    ∃ p, ((s.persistently (task.attempt s)).run.run k).Reaches (t₁ ++ t₂) p ∧
      (n < s.client.options.retry.maxRetries ∧ task.Passing s t₂ →
        Repeats s (task.attempt s) k₂ p) ∧
      (¬(n < s.client.options.retry.maxRetries ∧ task.Passing s t₂) →
        p = .done (some (.error f), k₂)) := by
  refine ⟨_, (tried.reaches within).trans (attempts_reaches fails), ?_⟩
  rw [← isTransient_iff fails]
  constructor
  case left =>
    intro more
    rw [afterAttempt, if_pos more, attempts_eq]
    exact ⟨_, _, _, rfl, rfl⟩
  case right =>
    intro spent
    rw [afterAttempt, if_neg spent]
    rfl

namespace OneAnswer

def source : Source := ⟨⟨⟨"r.io", "o/c"⟩, .anonymous, .ofConfig {}⟩, ⟨0⟩⟩

def reference : Reference := ⟨"r.io", "o/c", some "v1", none⟩

def missing : Task :=
  .layer reference ⟨"l", "x", 1, none, none⟩

-- A registry that has one answer to everything.
def answering (response : Response) : Surroundings where
  reply _ := .response response

def notFound : Response := { status := ⟨404⟩, phrase := "Not Found" }

def throttled : Response where
  status := ⟨429⟩
  phrase := "Too Many Requests"
  body   := bytesOf "\x7b\"errors\":[\x7b\"code\":\"TOOMANYREQUESTS\"\x7d]\x7d"

def garbled : Response := { status := ⟨503⟩, phrase := "Service Unavailable", body := [0xFF] }

def isPause : Turn Answer → Bool
  | ⟨.pause .., _⟩ => true
  | _              => false

-- How often a task is taken up again.
def retries (task : Task) (response : Response) : Nat :=
  (((source.persistently (task.attempt source)).run.run none).turnsIn
    (answering response).world).countP isPause

def program : Exchange (Option (Except Failure Bytes) × Option KeptToken) :=
  (missing.attempt source).run.run none

def passing? : Except Failure Bytes → Option Bool
  | .ok _    => none
  | .error f => some f.isTransient

theorem passing_eq :
    (program.answeredBy (m := Id) (answering notFound).world).1.bind passing? = some true := by
  decide +kernel

theorem fails :
    ∃ t f k', Gives (missing.attempt source) none t (.error f) k' ∧ f.isTransient := by
  have r := Interaction.reaches_answeredBy (answering notFound).world program
  have passing := passing_eq
  match hx : program.answeredBy (m := Id) (answering notFound).world with
  | (some (.error f), k') =>
    rw [hx] at passing r
    exact ⟨_, f, k', r, Option.some.inj passing⟩
  | (some (.ok _), _) | (none, _) =>
    rw [hx] at passing
    cases passing

end OneAnswer

open OneAnswer in
theorem repeated_iff_sample : ∃ t f p k',
    Gives (missing.attempt source) none t (.error f) k' ∧
    ((source.persistently (missing.attempt source)).run.run none).Reaches t p ∧
    Repeats source (missing.attempt source) k' p := by
  have ⟨t, f, k', fails, transient⟩ := OneAnswer.fails
  have ⟨p, reaches, more, _⟩ := repeated_iff .none (Nat.zero_le _) fails
  exact ⟨t, f, p, k', fails, reaches, more ⟨by decide, (isTransient_iff fails).1 transient⟩⟩

-- A layer that is not there is asked for time and again, while a registry that asks for patience is
-- not asked again for a manifest, nor one that fails without words.
open OneAnswer in
theorem repeated_beside_the_point :
    retries missing notFound = 5 ∧ retries (.manifest reference) throttled = 0 ∧
      retries (.digest reference) throttled = 0 ∧ retries (.manifest reference) garbled = 0 := by
  decide +kernel

end Task

end ArtifactSync.Registry
