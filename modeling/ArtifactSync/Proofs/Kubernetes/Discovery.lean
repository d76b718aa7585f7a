import ArtifactSync.Proofs.Kubernetes.Client
import ArtifactSync.Proofs.Kubernetes.Version

namespace ArtifactSync.Kubernetes.Discovery

open Json

variable {α β : Type} {host : Request → Answer} {reader : Reader α} {address name : String} {a : α}
  {g : Group} {l : ResourceList} {s : Served}

-- What a program comes to where every request has one answer.
def given (host : Request → Answer) (p : Program α) : Except Fault α :=
  p.run.answeredBy (m := Id) host

@[simp]
theorem given_pure : given host (pure a : Program α) = .ok a :=
  rfl

@[simp]
theorem given_throw {f : Fault} : given host (throw f : Program α) = .error f :=
  rfl

theorem given_bind_ok_iff {p : Program α} {f : α → Program β} {b : β} :
    given host (p >>= f) = .ok b ↔ ∃ a, given host p = .ok a ∧ given host (f a) = .ok b := by
  unfold given
  rw [ExceptT.run_bind, Interaction.answeredBy_bind]
  cases p.run.answeredBy (m := Id) host with
  | ok a    => exact ⟨fun h => ⟨a, rfl, h⟩, fun ⟨_, ha, h⟩ => Except.ok.inj ha ▸ h⟩
  | error _ => exact ⟨nofun, nofun⟩

-- A series succeeds if all of it does.
theorem given_mapM_ok_iff {xs : List α} {p : α → Program β} {ys : List β} {able : α → Prop}
    {f : α → β} (each : ∀ x ∈ xs, ∀ y, given host (p x) = .ok y ↔ able x ∧ f x = y) :
    given host (xs.mapM p) = .ok ys ↔ (∀ x ∈ xs, able x) ∧ xs.map f = ys := by
  induction xs generalizing ys with
  | nil          => simp
  | cons x xs hi =>
    have ⟨first, others⟩ := List.forall_mem_cons.1 each
    simp only [List.mapM_cons, given_bind_ok_iff, given_pure, first, hi others, and_assoc,
      List.forall_mem_cons, List.map_cons, Except.ok.injEq, exists_and_left, exists_eq_left']

-- A request that succeeds, and what its answer says.
def Answers (host : Request → Answer) (reader : Reader α) (address : String) (a : α) : Prop :=
  ∃ path reply, Client.path address = .ok path ∧ host ⟨.get, path, none⟩ = .ok reply ∧
    Client.understand reader reply = .ok a

theorem given_ask (h : Answers host reader address a) :
    given host (ask reader address) = .ok a := by
  have ⟨path, reply, addressed, answered, understood⟩ := h
  unfold given ask
  rw [addressed]
  show (Client.receive reader (host ⟨.get, path, none⟩)).mapError Fault.request = _
  rw [answered, Client.receive, understood]
  rfl

-- What an API serves: its groups, and by the name of a group version the resources of that.
structure Catalogue where
  groups : List Group
  list   : String → ResourceList

variable {c : Catalogue}

-- A resource of its own, not a part of another.
def Resource.IsWhole (r : Resource) : Prop :=
  '/' ∉ r.name.toList

instance {r : Resource} : Decidable r.IsWhole :=
  inferInstanceAs (Decidable (¬_))

-- What a group recommends: the version that is preferred, or else the latest.
inductive Group.Recommends (g : Group) (version : String) : Prop
  | preferred {v : GroupVersion} : g.preferred = some v → v.version = version →
    Recommends g version
  | latest : g.preferred = none → IsLatest version (g.versions.map (·.version)) →
    Recommends g version

theorem Group.recommends_iff {version : String} : g.Recommends version ↔
    ((g.preferred.map (·.version)) <|> latest (g.versions.map (·.version))) = some version := by
  constructor
  case mp  =>
    intro h
    cases h with
    | preferred given same => simp [given, same]
    | latest blank latest  => simpa [blank] using latest_eq_some_iff.2 latest
  case mpr =>
    intro h
    cases hp : g.preferred with
    | none   => exact .latest hp (latest_eq_some_iff.1 (by simpa [hp] using h))
    | some v => exact .preferred hp (by simpa [hp] using h)

namespace Catalogue

-- Every list that is asked for on behalf of a group of that name is given.
structure ServedBy (c : Catalogue) (host : Request → Answer) (name : String) : Prop where
  groups : Answers host groupsReader "/apis" c.groups
  lists  : ∀ g ∈ c.groups, g.name = name → ∀ v ∈ g.versions,
    Answers host ResourceList.reader ("/apis/" ++ v.groupVersion) (c.list v.groupVersion)

def served (c : Catalogue) (g : Group) : List (String × List Served) :=
  g.versions.map fun v => (v.version, (c.list v.groupVersion).served)

-- Of several groups of a name the last one counts.
def group? (c : Catalogue) (name : String) : Option Group :=
  (c.groups.filter (·.name = name)).getLast?

theorem given_query_ok_iff {found : List (String × List Served)} (lists : ∀ v ∈ g.versions,
    Answers host ResourceList.reader ("/apis/" ++ v.groupVersion) (c.list v.groupVersion)) :
    given host (query g) = .ok found ↔ g.versions ≠ [] ∧ c.served g = found := by
  let listing (v : GroupVersion) : Program (String × List Served) := do
    return (v.version, (← ask ResourceList.reader ("/apis/" ++ v.groupVersion)).served)
  have each (v) (hv : v ∈ g.versions) (found : String × List Served) :
      given host (listing v) = .ok found ↔
        True ∧ (v.version, (c.list v.groupVersion).served) = found := by
    simp only [listing, given_bind_ok_iff, given_ask (lists v hv), given_pure, Except.ok.injEq,
      exists_eq_left', true_and]
  unfold query
  split
  case isTrue blank   => simp [List.isEmpty_iff.1 blank]
  case isFalse filled =>
    rw [given_mapM_ok_iff each]
    simpa [served] using fun _ => filled

theorem given_recommendedBy_ok_iff {found : List Served} (h : c.ServedBy host name) :
    given host (recommendedBy name) = .ok found ↔
      (∀ g ∈ c.groups, g.name = name → g.versions ≠ []) ∧
        ((c.group? name).map fun g => recommended g (c.served g)).getD [] = found := by
  have each (g) (hg : g ∈ c.groups.filter (·.name = name)) (found : List Served) :
      given host (do return recommended g (← query g)) = .ok found ↔
        g.versions ≠ [] ∧ recommended g (c.served g) = found := by
    have ⟨there, named⟩ := List.mem_filter.1 hg
    have lists := h.lists g there (of_decide_eq_true named)
    simp only [given_bind_ok_iff, given_query_ok_iff lists, given_pure, Except.ok.injEq, and_assoc,
      exists_and_left, exists_eq_left']
  have all : (∀ g ∈ c.groups.filter (·.name = name), g.versions ≠ []) ↔
      ∀ g ∈ c.groups, g.name = name → g.versions ≠ [] := by
    simp [List.mem_filter]
  unfold recommendedBy
  simp only [given_bind_ok_iff, Discovery.groups, given_ask h.groups, Except.ok.injEq, given_pure,
    exists_eq_left', given_mapM_ok_iff each, all, and_assoc, exists_and_left, List.getLast?_map,
    group?]

theorem lookup_served {version : String} : (c.served g).lookup version =
    (g.versions.find? (·.version = version)).map fun v => (c.list v.groupVersion).served := by
  unfold served
  induction g.versions with
  | nil          => rfl
  | cons v vs hi =>
    rw [List.map_cons, Dict.lookup_cons, hi, List.find?_cons]
    by_cases here : v.version = version
    case pos => simp [here]
    case neg => simp [here, Ne.symm here]

end Catalogue

theorem mem_served_iff : s ∈ l.served ↔ ∃ r ∈ l.resources, r.IsWhole ∧
    r.kind = s.kind ∧ r.version.getD (versionIn l.groupVersion) = s.version := by
  have ⟨kind, version⟩ := s
  simp [ResourceList.served, Resource.IsWhole, and_assoc]

namespace Catalogue

-- What the recommended version of a group lists.
theorem mem_recommended_iff : s ∈ recommended g (c.served g) ↔
    ∃ version, g.Recommends version ∧ ∃ v, g.versions.find? (·.version = version) = some v ∧
      s ∈ (c.list v.groupVersion).served := by
  have names : (c.served g).map (·.1) = g.versions.map (·.version) := by
    simp [served]
  unfold recommended
  simp only [Group.recommends_iff, names]
  cases (g.preferred.map (·.version)) <|> latest (g.versions.map (·.version)) with
  | none         => simp
  | some version =>
    simp only [Option.bind_some, lookup_served, Option.some.injEq, exists_eq_left']
    cases g.versions.find? (·.version = version) <;> simp

-- The kind is among those that are found. No group of the name may be without a version, as the
-- others are not asked then.
structure Offers (c : Catalogue) (name : String) (s : Served) : Prop where
  filled : ∀ g ∈ c.groups, g.name = name → g.versions ≠ []
  listed : ∃ g, c.group? name = some g ∧ ∃ version, g.Recommends version ∧
    ∃ v, g.versions.find? (·.version = version) = some v ∧
      ∃ r ∈ (c.list v.groupVersion).resources, r.IsWhole ∧ r.kind = s.kind ∧
        r.version.getD (versionIn (c.list v.groupVersion).groupVersion) = s.version

theorem exists_given_recommendedBy_iff (h : c.ServedBy host name) :
    (∃ found, given host (recommendedBy name) = .ok found ∧ s ∈ found) ↔ c.Offers name s := by
  simp only [given_recommendedBy_ok_iff h, and_assoc, exists_and_left, exists_eq_left']
  constructor
  case mp  =>
    intro ⟨filled, found⟩
    refine ⟨filled, ?_⟩
    cases hg : c.group? name with
    | none   => simp [hg] at found
    | some g =>
      rw [hg] at found
      have ⟨version, recommends, v, hv, listed⟩ := mem_recommended_iff.1 found
      exact ⟨g, rfl, version, recommends, v, hv, mem_served_iff.1 listed⟩
  case mpr =>
    intro ⟨filled, g, hg, version, recommends, v, hv, listed⟩
    rw [hg]
    exact ⟨filled, mem_recommended_iff.2 ⟨version, recommends, v, hv, mem_served_iff.2 listed⟩⟩

-- A group of the name serves the version, with a resource of the kind.
def Serves (c : Catalogue) (name : String) (s : Served) : Prop :=
  ∃ g ∈ c.groups, g.name = name ∧ ∃ v ∈ g.versions, v.version = s.version ∧
    ∃ r ∈ (c.list v.groupVersion).resources, r.IsWhole ∧ r.kind = s.kind

-- How an API server lists the groups of a name: there is one at most, which serves some version and
-- none of them twice, and what is listed for a version is of that version.
structure IsRegular (c : Catalogue) (name : String) : Prop where
  unique   : ∀ g₁ ∈ c.groups, ∀ g₂ ∈ c.groups, g₁.name = name → g₂.name = name → g₁ = g₂
  filled   : ∀ g ∈ c.groups, g.name = name → g.versions ≠ []
  distinct : ∀ g ∈ c.groups, g.name = name → g.versions.Pairwise (·.version ≠ ·.version)
  spelt    : ∀ g ∈ c.groups, g.name = name → ∀ v ∈ g.versions,
    (c.list v.groupVersion).groupVersion = name ++ "/" ++ v.version
  own      : ∀ g ∈ c.groups, g.name = name → ∀ v ∈ g.versions,
    ∀ r ∈ (c.list v.groupVersion).resources, r.IsWhole → ∀ version ∈ r.version, version = v.version

theorem versionIn_spelt {version : String} (plain : '/' ∉ name.toList) :
    versionIn (name ++ "/" ++ version) = version := by
  have cut : Text.cut? '/' (name ++ "/" ++ version).toList = some (name.toList, version.toList) :=
    Text.cut?_eq_some_iff.2 ⟨by simp, plain⟩
  rw [versionIn, cut]
  exact String.ofList_toList

theorem IsRegular.version_eq (regular : c.IsRegular name) (plain : '/' ∉ name.toList)
    (hg : g ∈ c.groups) (named : g.name = name) {v : GroupVersion} (hv : v ∈ g.versions)
    {r : Resource} (hr : r ∈ (c.list v.groupVersion).resources) (whole : r.IsWhole) :
    r.version.getD (versionIn (c.list v.groupVersion).groupVersion) = v.version := by
  rw [regular.spelt g hg named v hv, versionIn_spelt plain]
  cases given : r.version with
  | none   => rfl
  | some _ => exact regular.own g hg named v hv r hr whole _ given

theorem mem_of_group? (h : c.group? name = some g) : g ∈ c.groups ∧ g.name = name := by
  have ⟨there, named⟩ := List.mem_filter.1 (List.mem_of_getLast? h)
  exact ⟨there, of_decide_eq_true named⟩

theorem IsRegular.group?_eq (regular : c.IsRegular name) (hg : g ∈ c.groups)
    (named : g.name = name) : c.group? name = some g := by
  have there : g ∈ c.groups.filter (·.name = name) :=
    List.mem_filter.2 ⟨hg, decide_eq_true named⟩
  cases last : c.group? name with
  | none    => exact absurd (List.getLast?_eq_none_iff.1 last) (List.ne_nil_of_mem there)
  | some g' =>
    have ⟨hg', named'⟩ := mem_of_group? last
    rw [regular.unique g' hg' g hg named' named]

theorem find?_eq_of_distinct {vs : List GroupVersion} {v : GroupVersion}
    (distinct : vs.Pairwise (·.version ≠ ·.version)) (hv : v ∈ vs) :
    vs.find? (·.version = v.version) = some v := by
  have ⟨before, after, split⟩ := List.append_of_mem hv
  rw [split, List.pairwise_append] at distinct
  refine List.find?_eq_some_iff_append.2 ⟨by simp, before, after, split, fun w hw => ?_⟩
  simpa using distinct.2.2 w hw v List.mem_cons_self

theorem IsRegular.offers_iff (regular : c.IsRegular name) (plain : '/' ∉ name.toList) :
    c.Offers name s ↔ c.Serves name s ∧
      ∃ g ∈ c.groups, g.name = name ∧ g.Recommends s.version := by
  constructor
  case mp  =>
    intro ⟨_, g, hg, version, recommends, v, found, r, hr, whole, kind, same⟩
    have ⟨there, named⟩ := mem_of_group? hg
    have hv := List.mem_of_find?_eq_some found
    have spelt : v.version = version := by simpa using List.find?_some found
    rw [regular.version_eq plain there named hv hr whole] at same
    subst spelt
    rw [same] at recommends
    exact ⟨⟨g, there, named, v, hv, same, r, hr, whole, kind⟩, g, there, named, recommends⟩
  case mpr =>
    intro ⟨⟨g, there, named, v, hv, same, r, hr, whole, kind⟩, g', there', named', recommends⟩
    cases regular.unique g there g' there' named named'
    have found := find?_eq_of_distinct (regular.distinct g there named) hv
    rw [same] at found
    refine ⟨regular.filled, g, regular.group?_eq there named, s.version, recommends, v, found,
      r, hr, whole, kind, ?_⟩
    rw [regular.version_eq plain there named hv hr whole, same]

end Catalogue

end ArtifactSync.Kubernetes.Discovery
