import ArtifactSync.Config
import ArtifactSync.Proofs.Fallible
import ArtifactSync.Proofs.Text.Blank
import ArtifactSync.Proofs.Text.Decimal
import ArtifactSync.Proofs.Text.Utf8
import Mathlib.Control.Monad.Basic

namespace ArtifactSync.Config

open Text (IsTrimmed IsTrimOf isBlank)

variable {env : Environment} {name text item root : String} {items : List String}
  {piece : List Char} {pieces : List (List Char)} {standard n n' : Nat} {d : Duration} {c : Config}

-- The variable is set, to this text.
def Holds (env : Environment) (name text : String) : Prop :=
  env name = some (bytesOf text)

-- The variable is not set, or what it is set to is no text.
inductive IsUnset (env : Environment) (name : String) : Prop
  | absent (h : env name = none)
  | garbled {bytes : Bytes} (h : env name = some bytes) (no_text : ∀ text, bytes ≠ bytesOf text)

theorem setting?_of_holds (h : Holds env name text) : setting? env name = some text := by
  have told : Text.Utf8.decode (bytesOf text) = .ok text.toList := Text.Utf8.decode_encode
  simp [setting?, show env name = _ from h, told]

theorem setting?_of_isUnset (h : IsUnset env name) : setting? env name = none := by
  cases h with
  | absent h                 => simp [setting?, h]
  | @garbled bytes h no_text =>
    cases told : Text.Utf8.decode bytes with
    | error _ => simp [setting?, h, told]
    | ok cs   =>
      have whole : bytes = bytesOf (.ofList cs) := by
        simpa [bytesOf] using Text.Utf8.decode_eq_ok_iff.1 told
      exact absurd whole (no_text _)

theorem holds_or_isUnset (env : Environment) (name : String) :
    (∃ text, Holds env name text) ∨ IsUnset env name := by
  cases h : env name with
  | none       => exact .inr (.absent h)
  | some bytes =>
    by_cases no_text : ∀ text, bytes ≠ bytesOf text
    case pos => exact .inr (.garbled h no_text)
    case neg =>
      have ⟨text, same⟩ := Classical.not_forall.1 no_text
      exact .inl ⟨text, h.trans (congrArg some (Classical.not_not.1 same))⟩

theorem Holds.not_isUnset (set : Holds env name text) : ¬IsUnset env name := by
  intro unset
  cases (setting?_of_holds set).symm.trans (setting?_of_isUnset unset)

theorem Holds.unique {text' : String} (set : Holds env name text)
    (set' : Holds env name text') : text' = text :=
  Option.some.inj ((setting?_of_holds set').symm.trans (setting?_of_holds set))

theorem setting?_eq_some_iff : setting? env name = some text ↔ Holds env name text := by
  refine ⟨fun h => ?_, setting?_of_holds⟩
  cases holds_or_isUnset env name with
  | inr unset => cases h.symm.trans (setting?_of_isUnset unset)
  | inl set   =>
    have ⟨_, set⟩ := set
    cases h.symm.trans (setting?_of_holds set)
    exact set

-- The number of seconds that a variable stands for.
inductive Tells (env : Environment) (name : String) (standard : Nat) : Nat → Prop
  | unset (h : IsUnset env name) : Tells env name standard standard
  | given {text : String} {inner : List Char} {n : Nat} (set : Holds env name text)
    (trim : IsTrimOf inner text.toList) (numeral : Text.Decimal.IsNumeral inner n)
    (small : n < 2 ^ 64) : Tells env name standard n

theorem seconds_of_tells (tells : Tells env name standard n) :
    seconds env name (.ofSeconds standard) = .ok (.ofSeconds n) := by
  cases tells with
  | unset unset                  => rw [seconds, setting?_of_isUnset unset]
  | given set trim numeral small =>
    have read := (Text.Decimal.natural_ok_iff (by decide)).2 ⟨numeral, small⟩
    rw [seconds, setting?_of_holds set]
    dsimp only
    rw [Text.trimChars_eq_iff.2 trim, read]

theorem tells_of_seconds (h : seconds env name (.ofSeconds standard) = .ok d) :
    ∃ n, Tells env name standard n ∧ d = .ofSeconds n := by
  cases holds_or_isUnset env name with
  | inr unset =>
    rw [seconds, setting?_of_isUnset unset] at h
    exact ⟨standard, .unset unset, (Except.ok.inj h).symm⟩
  | inl set   =>
    have ⟨text, set⟩ := set
    rw [seconds, setting?_of_holds set] at h
    dsimp only at h
    split at h
    case h_1 n read =>
      have ⟨numeral, small⟩ := (Text.Decimal.natural_ok_iff (by decide)).1 read
      exact ⟨n, .given set (Text.trimChars_eq_iff.1 rfl) numeral small, (Except.ok.inj h).symm⟩
    case h_2        => cases h

theorem Tells.lt (tells : Tells env name standard n) (hs : standard < 2 ^ 64) : n < 2 ^ 64 := by
  cases tells with
  | unset _           => exact hs
  | given _ _ _ small => exact small

-- The pieces that are not blank, each without the white space around it.
inductive Keeps : List (List Char) → List String → Prop
  | nil : Keeps [] []
  | blank {piece : List Char} {pieces : List (List Char)} {items : List String}
    (all : ∀ l ∈ piece, isBlank l) (others : Keeps pieces items) : Keeps (piece :: pieces) items
  | item {piece : List Char} {pieces : List (List Char)} {item : String} {items : List String}
    (nonempty : item ≠ "") (trim : IsTrimOf item.toList piece) (others : Keeps pieces items) :
    Keeps (piece :: pieces) (item :: items)

-- What is kept of some pieces.
def kept (pieces : List (List Char)) : List String :=
  (pieces.map Text.trimChars).filterMap fun piece =>
    if piece.isEmpty then none else some (String.ofList piece)

theorem kept_blank (all : ∀ l ∈ piece, isBlank l) : kept (piece :: pieces) = kept pieces := by
  simp [kept, Text.trimChars_eq_nil_iff.2 all]

theorem kept_item (nonempty : item ≠ "") (trim : IsTrimOf item.toList piece) :
    kept (piece :: pieces) = item :: kept pieces := by
  simp [kept, Text.trimChars_eq_iff.2 trim, nonempty]

theorem keeps_kept : Keeps pieces (kept pieces) := by
  induction pieces with
  | nil                  => exact .nil
  | cons piece pieces hi =>
    cases h : Text.trimChars piece with
    | nil       =>
      have all := Text.trimChars_eq_nil_iff.1 h
      rw [kept_blank all]
      exact .blank all hi
    | cons l ls =>
      have trim : IsTrimOf (String.ofList (l :: ls)).toList piece := by
        rw [String.toList_ofList]
        exact Text.trimChars_eq_iff.1 h
      have nonempty : String.ofList (l :: ls) ≠ "" := by simp
      exact kept_item nonempty trim ▸ .item nonempty trim hi

theorem Keeps.eq_kept (keeps : Keeps pieces items) : items = kept pieces := by
  induction keeps with
  | nil                     => rfl
  | blank all _ hi          => rw [kept_blank all, hi]
  | item nonempty trim _ hi => rw [kept_item nonempty trim, hi]

-- A text in which these items stand between commas.
def Lists (text : String) (items : List String) : Prop :=
  ∃ pieces, pieces ≠ [] ∧ (∀ piece ∈ pieces, ',' ∉ piece) ∧
    text.toList = [','].intercalate pieces ∧ Keeps pieces items

theorem lists_registryList : Lists text (registryList text) :=
  ⟨Text.splitOn ',' text.toList, Text.splitOn_ne_nil _ _, fun _ => Text.not_mem_of_mem_splitOn,
    (Text.intercalate_splitOn ..).symm, keeps_kept⟩

theorem Lists.eq_registryList (lists : Lists text items) : items = registryList text := by
  have ⟨pieces, nonempty, free, whole, keeps⟩ := lists
  have cut : Text.splitOn ',' text.toList = pieces :=
    whole ▸ Text.splitOn_intercalate nonempty free
  exact keeps.eq_kept.trans (cut ▸ rfl)

-- What can stand in a list of registries.
structure IsItem (item : String) : Prop where
  nonempty : item ≠ ""
  trimmed  : IsTrimmed item.toList
  no_comma : ',' ∉ item.toList

theorem Keeps.isItem (keeps : Keeps pieces items) (free : ∀ piece ∈ pieces, ',' ∉ piece) :
    ∀ item ∈ items, IsItem item := by
  induction keeps with
  | nil                     => nofun
  | blank _ _ hi            => exact hi (List.forall_mem_cons.1 free).2
  | item nonempty trim _ hi =>
    have ⟨here, others⟩ := List.forall_mem_cons.1 free
    have ⟨before, after, _, _, whole⟩ := trim.padded
    refine List.forall_mem_cons.2 ⟨⟨nonempty, trim.trimmed, ?_⟩, hi others⟩
    intro comma
    exact here (by simp [whole, comma])

theorem Lists.isItem (lists : Lists text items) : ∀ item ∈ items, IsItem item :=
  have ⟨_, _, free, _, keeps⟩ := lists
  keeps.isItem free

theorem keeps_items (all : ∀ item ∈ items, IsItem item) : Keeps (items.map String.toList) items := by
  induction items with
  | nil                => exact .nil
  | cons item items hi =>
    have ⟨here, others⟩ := List.forall_mem_cons.1 all
    exact .item here.nonempty here.trimmed.isTrimOf (hi others)

-- Joined again, the items are cut where they were.
theorem registryList_intercalate (all : ∀ item ∈ items, IsItem item) :
    registryList (",".intercalate items) = items := by
  cases items with
  | nil             => rfl
  | cons item items =>
    refine (Lists.eq_registryList ⟨_, ?_, ?_, String.toList_intercalate, keeps_items all⟩).symm
    case refine_1 => simp
    case refine_2 => simpa using fun item hi => (all item hi).no_comma

-- The registries that are named, none where the variable is not set.
inductive Names (env : Environment) (name : String) : List String → Prop
  | unset (h : IsUnset env name) : Names env name []
  | given {text : String} {items : List String} (set : Holds env name text)
    (lists : Lists text items) : Names env name items

theorem names_iff :
    Names env name items ↔ ((setting? env name).map registryList).getD [] = items := by
  cases holds_or_isUnset env name with
  | inr unset =>
    rw [setting?_of_isUnset unset]
    constructor
    case mp  =>
      intro names
      cases names with
      | unset _     => rfl
      | given set _ => exact absurd unset set.not_isUnset
    case mpr => exact fun none => none ▸ .unset unset
  | inl set   =>
    have ⟨text, set⟩ := set
    rw [setting?_of_holds set]
    constructor
    case mp  =>
      intro names
      cases names with
      | unset unset      => exact absurd unset set.not_isUnset
      | given set' lists => exact (set.unique set' ▸ lists.eq_registryList).symm
    case mpr => exact fun same => same ▸ .given set lists_registryList

theorem Names.isItem (names : Names env name items) : ∀ item ∈ items, IsItem item := by
  cases names with
  | unset _       => nofun
  | given _ lists => exact lists.isItem

-- The directory that is named, by a text that is not blank.
def NamesRoot (env : Environment) (name root : String) : Prop :=
  Holds env name root ∧ ¬∀ l ∈ root.toList, isBlank l

theorem isBlankText_iff : Text.isBlankText text ↔ ∀ l ∈ text.toList, isBlank l :=
  List.all_eq_true

theorem namesRoot_iff :
    NamesRoot env name root ↔ (setting? env name).filter (!Text.isBlankText ·) = some root := by
  simp only [NamesRoot, Option.filter_eq_some_iff, setting?_eq_some_iff, Bool.not_eq_true',
    ← isBlankText_iff, Bool.not_eq_true]

theorem no_root_iff : (∀ root, ¬NamesRoot env name root) ↔
    IsUnset env name ∨ ∃ text, Holds env name text ∧ ∀ l ∈ text.toList, isBlank l := by
  constructor
  case mp  =>
    intro none
    cases holds_or_isUnset env name with
    | inr unset => exact .inl unset
    | inl set   =>
      have ⟨text, set⟩ := set
      exact .inr ⟨text, set, Classical.not_not.1 fun visible => none text ⟨set, visible⟩⟩
  case mpr =>
    intro empty root ⟨set, visible⟩
    cases empty with
    | inl unset => exact set.not_isUnset unset
    | inr blank =>
      have ⟨_, set', blank⟩ := blank
      exact visible (set'.unique set ▸ blank)

-- The settings that the environment stands for.
structure IsSetBy (c : Config) (env : Environment) : Prop where
  requeue    : ∃ n, Tells env "REQUEUE_INTERVAL_SECS" 60 n ∧
    c.requeueInterval.nanos = n * nanosPerSecond
  timeout    : ∃ n, Tells env "REGISTRY_TIMEOUT_SECS" 120 n ∧
    c.registryTimeout.nanos = n * nanosPerSecond
  registries : Names env "INSECURE_REGISTRIES" c.insecureRegistries
  staging    : ∀ root, c.stagingRoot = some root ↔ NamesRoot env "STAGING_DIR" root

-- The settings with these numbers of seconds.
def assembled (env : Environment) (requeue timeout : Nat) : Config where
  requeueInterval    := .ofSeconds requeue
  registryTimeout    := .ofSeconds timeout
  insecureRegistries := ((setting? env "INSECURE_REGISTRIES").map registryList).getD []
  stagingRoot        := (setting? env "STAGING_DIR").filter (!Text.isBlankText ·)

theorem ofEnvironment_ok_iff_assembled : ofEnvironment env = .ok c ↔
    ∃ n n', Tells env "REQUEUE_INTERVAL_SECS" 60 n ∧ Tells env "REGISTRY_TIMEOUT_SECS" 120 n' ∧
      c = assembled env n n' := by
  constructor
  case mp  =>
    intro h
    have ⟨_, requeue, h⟩ := Fallible.bind_ok h
    have ⟨_, timeout, h⟩ := Fallible.bind_ok h
    have ⟨n, tells, same⟩ : ∃ n, Tells env _ 60 n ∧ _ := tells_of_seconds requeue
    have ⟨n', tells', same'⟩ : ∃ n, Tells env _ 120 n ∧ _ := tells_of_seconds timeout
    subst same same'
    exact ⟨n, n', tells, tells', (Except.ok.inj h).symm⟩
  case mpr =>
    intro ⟨n, n', tells, tells', same⟩
    have requeue := seconds_of_tells tells
    have timeout := seconds_of_tells tells'
    subst same
    rw [ofEnvironment, requeue, timeout]
    rfl

theorem isSetBy_assembled (tells : Tells env "REQUEUE_INTERVAL_SECS" 60 n)
    (tells' : Tells env "REGISTRY_TIMEOUT_SECS" 120 n') : (assembled env n n').IsSetBy env where
  requeue    := ⟨n, tells, Duration.nanos_ofSeconds (tells.lt (by decide))⟩
  timeout    := ⟨n', tells', Duration.nanos_ofSeconds (tells'.lt (by decide))⟩
  registries := names_iff.2 rfl
  staging    := fun _ => namesRoot_iff.symm

theorem IsSetBy.eq_assembled (set : c.IsSetBy env) :
    ∃ n n', Tells env "REQUEUE_INTERVAL_SECS" 60 n ∧ Tells env "REGISTRY_TIMEOUT_SECS" 120 n' ∧
      c = assembled env n n' := by
  have ⟨n, tells, requeue⟩ := set.requeue
  have ⟨n', tells', timeout⟩ := set.timeout
  have requeue' : c.requeueInterval = .ofSeconds n :=
    Duration.ext (requeue.trans (Duration.nanos_ofSeconds (tells.lt (by decide))).symm)
  have timeout' : c.registryTimeout = .ofSeconds n' :=
    Duration.ext (timeout.trans (Duration.nanos_ofSeconds (tells'.lt (by decide))).symm)
  have root : c.stagingRoot = (setting? env "STAGING_DIR").filter (!Text.isBlankText ·) :=
    Option.ext fun root => (set.staging root).trans namesRoot_iff
  refine ⟨n, n', tells, tells', ?_⟩
  rw [assembled, ← requeue', ← timeout', names_iff.1 set.registries, ← root]

theorem ofEnvironment_ok_iff : ofEnvironment env = .ok c ↔ c.IsSetBy env := by
  rw [ofEnvironment_ok_iff_assembled]
  constructor
  case mp  =>
    intro ⟨_, _, tells, tells', same⟩
    exact same ▸ isSetBy_assembled tells tells'
  case mpr => exact IsSetBy.eq_assembled

-- Only the two spans can keep an environment from being read.
theorem ofEnvironment_exact (env : Environment) :
    ((∃ c, ofEnvironment env = .ok c) ↔ (∃ n, Tells env "REQUEUE_INTERVAL_SECS" 60 n) ∧
      ∃ n, Tells env "REGISTRY_TIMEOUT_SECS" 120 n) ∧
    ∀ c, (ofEnvironment env = .ok c ↔ c.IsSetBy env) ∧
      (ofEnvironment env = .ok c →
        (∀ item ∈ c.insecureRegistries, IsItem item) ∧
        registryList (",".intercalate c.insecureRegistries) = c.insecureRegistries ∧
        (c.stagingRoot = none ↔ IsUnset env "STAGING_DIR" ∨
          ∃ text, Holds env "STAGING_DIR" text ∧ ∀ l ∈ text.toList, isBlank l)) := by
  refine ⟨⟨?_, ?_⟩, fun c => ⟨ofEnvironment_ok_iff, fun h => ?_⟩⟩
  case refine_1 =>
    intro ⟨c, h⟩
    have ⟨n, n', tells, tells', _⟩ := ofEnvironment_ok_iff_assembled.1 h
    exact ⟨⟨n, tells⟩, n', tells'⟩
  case refine_2 =>
    intro ⟨⟨n, tells⟩, n', tells'⟩
    exact ⟨_, ofEnvironment_ok_iff_assembled.2 ⟨n, n', tells, tells', rfl⟩⟩
  case refine_3 =>
    have set := ofEnvironment_ok_iff.1 h
    have items := set.registries.isItem
    refine ⟨items, registryList_intercalate items, ?_⟩
    rw [← no_root_iff, Option.eq_none_iff_forall_ne_some]
    simp only [ne_eq, set.staging]

-- Two settings with white space in them, one that is no text, and a blank one.
namespace Padded

def environment : Environment
  | "REQUEUE_INTERVAL_SECS" => some (bytesOf "\t+0090\u2003")
  | "REGISTRY_TIMEOUT_SECS" => some [0xFF]
  | "INSECURE_REGISTRIES"   => some (bytesOf " localhost:5000, ,registry.local,localhost:5000")
  | "STAGING_DIR"           => some (bytesOf " ")
  | _                       => none

def config : Config where
  requeueInterval    := .ofSeconds 90
  insecureRegistries := ["localhost:5000", "registry.local", "localhost:5000"]

theorem read : ofEnvironment environment = .ok config := by
  decide +kernel

end Padded

open Padded in
theorem ofEnvironment_exact_sample :
    config.IsSetBy environment ∧
    registryList "localhost:5000,registry.local,localhost:5000" = config.insecureRegistries := by
  have ⟨_, exact⟩ := ofEnvironment_exact environment
  have ⟨read_iff, told⟩ := exact config
  exact ⟨read_iff.1 read, (told read).2.1⟩

end ArtifactSync.Config
