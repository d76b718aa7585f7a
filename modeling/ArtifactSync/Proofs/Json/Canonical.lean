import ArtifactSync.Dict
import ArtifactSync.Proofs.Json.Understands

namespace ArtifactSync.Json.Value

variable {k k' : String} {v x y : Value} {vs : List Value} {ms ms' : List (String × Value)}
  {fields : List (String × Option Value)}

theorem canonicalItems_eq : canonicalItems vs = vs.map canonical := by
  induction vs with
  | nil          => rfl
  | cons v vs hi => rw [canonicalItems, hi, List.map_cons]

theorem canonicalMembers_eq : canonicalMembers ms = ms.map fun m => (m.1, m.2.canonical) := by
  induction ms with
  | nil          => rfl
  | cons m ms hi => rw [canonicalMembers, hi, List.map_cons]

theorem canonical_object : (object ms).canonical =
    object (Dict.ofList (ms.map fun m => (m.1, m.2.canonical))).entries := by
  rw [canonical, canonicalMembers_eq]

@[simp]
theorem canonical_string {s : String} : (string s).canonical = string s := by
  rw [canonical] <;> nofun

@[simp]
theorem canonical_boolean {b : Bool} : (boolean b).canonical = boolean b := by
  rw [canonical] <;> nofun

@[simp]
theorem canonical_ofInt {i : Int} : (ofInt i).canonical = ofInt i := by
  unfold ofInt
  rw [canonical] <;> nofun

theorem canonical_list {α : Type} {f : α → Value} {as : List α}
    (each : ∀ a ∈ as, (f a).canonical = f a) :
    (list (as.map f)).canonical = list (as.map f) := by
  rw [canonical, canonicalItems_eq, List.map_map]
  exact congrArg list (List.map_congr_left each)

theorem member?_object : (object ms).member? k = ms.reverse.lookup k := by
  have all (ms : List (String × Value)) : (ms.find? (·.1 == k)).map (·.2) = ms.lookup k := by
    induction ms with
    | nil          => rfl
    | cons m ms hi =>
      rw [List.find?_cons, Dict.lookup_cons]
      by_cases same : k = m.1
      case pos => simp [same]
      case neg =>
        have other : (m.1 == k) = false := beq_false_of_ne (Ne.symm same)
        rw [other, if_neg same]
        exact hi
  exact all ms.reverse

theorem lookup_map (f : Value → Value) :
    (ms.map fun m => (m.1, f m.2)).lookup k = (ms.lookup k).map f := by
  induction ms with
  | nil          => rfl
  | cons m ms hi =>
    rw [List.map_cons, Dict.lookup_cons, Dict.lookup_cons, hi]
    split <;> rfl

theorem find?_named : (Dict.ofList (ms.map fun m => (m.1, m.2.canonical))).find? k =
    ((object ms).member? k).map canonical := by
  rw [Dict.find?_ofList, ← List.map_reverse, lookup_map canonical, member?_object]

-- What the names mean says all about an object.
theorem canonical_congr
    (h : ∀ k, ((object ms).member? k).map canonical = ((object ms').member? k).map canonical) :
    (object ms).canonical = (object ms').canonical := by
  rw [canonical_object, canonical_object]
  exact congrArg (fun d : Dict Value => object d.entries)
    (Dict.ext fun k => by rw [find?_named, find?_named, h])

theorem member?_canonical : v.canonical.member? k = (v.member? k).map canonical := by
  cases v with
  | object ms =>
    rw [canonical_object, member?_object, ← Dict.find?_ofList, Dict.ofList_entries, find?_named]
  | list _    =>
    rw [canonical]
    rfl
  | _         => rfl

theorem member?_withMember : ((object ms).withMember k v).member? k' =
    if k' = k then some v else (object ms).member? k' := by
  rw [withMember, member?_object, member?_object, List.reverse_append, List.reverse_singleton,
    List.singleton_append, Dict.lookup_cons]
  split
  case isTrue        => rfl
  case isFalse other =>
    have kept : (ms.filter (·.1 ≠ k)).reverse = ms.reverse.filter fun e => decide (e.1 ≠ k) :=
      List.filter_reverse.symm
    rw [kept, Dict.lookup_filter (fun k' => decide (k' ≠ k)), if_pos (decide_eq_true other)]

-- No name is listed twice.
def Distinct {α : Type} (es : List (String × α)) : Prop :=
  es.Pairwise (·.1 ≠ ·.1)

theorem lookup_eq_some_iff {α : Type} {es : List (String × α)} {a : α} (distinct : Distinct es) :
    es.lookup k = some a ↔ (k, a) ∈ es := by
  induction es with
  | nil          => simp
  | cons e es hi =>
    have ⟨here, there⟩ := List.pairwise_cons.1 distinct
    rw [Dict.lookup_cons, List.mem_cons]
    split
    case isTrue same   =>
      have absent : (k, a) ∉ es := fun mem => here _ mem same.symm
      rw [or_iff_left absent, Prod.ext_iff, Option.some.injEq]
      exact ⟨fun h => ⟨same, h.symm⟩, fun h => h.2.symm⟩
    case isFalse other =>
      rw [hi there, or_iff_right fun same => other (congrArg Prod.fst same)]

variable {fields fields' : List (String × Option Value)} {o : Option Value}

theorem mem_present {fields : List (String × Option Value)} :
    (k, v) ∈ present fields ↔ (k, some v) ∈ fields := by
  rw [present, List.mem_filterMap]
  constructor
  case mp  =>
    intro ⟨⟨name, o⟩, mem, same⟩
    have ⟨w, given, same⟩ := Option.map_eq_some_iff.1 same
    cases given
    cases same
    exact mem
  case mpr => exact fun mem => ⟨_, mem, rfl⟩

theorem pairwise_present {R : String → String → Prop}
    (h : fields.Pairwise fun e e' => R e.1 e'.1) :
    (present fields).Pairwise fun e e' => R e.1 e'.1 := by
  refine List.pairwise_filterMap.2 (h.imp fun related b hb b' hb' => ?_)
  have ⟨_, _, same⟩ := Option.map_eq_some_iff.1 hb
  have ⟨_, _, same'⟩ := Option.map_eq_some_iff.1 hb'
  rw [← same, ← same']
  exact related

theorem member?_ofFields_iff (distinct : Distinct fields) :
    (ofFields fields).member? k = some v ↔ (k, some v) ∈ fields := by
  have reversed : Distinct (present fields).reverse :=
    List.pairwise_reverse.2 ((pairwise_present distinct).imp Ne.symm)
  rw [← mem_present, ← List.mem_reverse, ← lookup_eq_some_iff reversed, ofFields_eq,
    member?_object]

theorem member?_ofFields (distinct : Distinct fields) (mem : (k, o) ∈ fields) :
    (ofFields fields).member? k = o := by
  cases o with
  | some v => exact (member?_ofFields_iff distinct).2 mem
  | none   =>
    refine Option.eq_none_iff_forall_not_mem.2 fun v hv => ?_
    have given := (member?_ofFields_iff distinct).1 hv
    have unique := (lookup_eq_some_iff distinct).2 mem
    rw [(lookup_eq_some_iff distinct).2 given] at unique
    cases unique

-- The same members in another order.
theorem canonical_ofFields_perm (h : fields.Perm fields') (distinct : Distinct fields) :
    (ofFields fields).canonical = (ofFields fields').canonical := by
  have distinct' : Distinct fields' := h.pairwise distinct Ne.symm
  refine canonical_congr fun k => congrArg (Option.map canonical) (Option.ext fun v => ?_)
  refine (member?_ofFields_iff distinct).trans ?_
  exact h.mem_iff.trans (member?_ofFields_iff distinct').symm

-- The same members but for one that is given now.
def withField (k : String) (v : Value) (fields : List (String × Option Value)) :
    List (String × Option Value) :=
  fields.map fun e => (e.1, if e.1 = k then some v else e.2)

theorem distinct_withField (distinct : Distinct fields) : Distinct (withField k v fields) :=
  List.pairwise_map.2 distinct

-- A value put in the place of another one.
theorem canonical_withMember (distinct : Distinct fields) (listed : (k, o) ∈ fields)
    (same : x.canonical = y.canonical) :
    ((ofFields fields).withMember k x).canonical = (ofFields (withField k y fields)).canonical := by
  refine canonical_congr fun k' => ?_
  show (((ofFields fields).withMember k x).member? k').map canonical =
    ((ofFields (withField k y fields)).member? k').map canonical
  rw [ofFields_eq, member?_withMember, ← ofFields_eq]
  split
  case isTrue h      =>
    have mem : (k, some y) ∈ withField k y fields :=
      List.mem_map.2 ⟨_, listed, by rw [if_pos rfl]⟩
    rw [h, member?_ofFields (distinct_withField distinct) mem, Option.map_some, Option.map_some,
      same]
  case isFalse other =>
    refine congrArg (Option.map canonical) (Option.ext fun v => ?_)
    rw [member?_ofFields_iff distinct, member?_ofFields_iff (distinct_withField distinct)]
    constructor
    case mp  => exact fun mem => List.mem_map.2 ⟨_, mem, by rw [if_neg other]⟩
    case mpr =>
      intro mem
      have ⟨e, he, kept⟩ := List.mem_map.1 mem
      have name : e.1 = k' := congrArg Prod.fst kept
      rw [if_neg (name ▸ other)] at kept
      exact kept ▸ he

-- Members in order, each of which is in order itself.
theorem canonical_ofFields (ordered : (fields.map (·.1)).Pairwise (· < ·))
    (each : ∀ e ∈ fields, ∀ v ∈ e.2, v.canonical = v) :
    (ofFields fields).canonical = ofFields fields := by
  have kept : (present fields).map (fun m => (m.1, m.2.canonical)) = present fields := by
    refine (List.map_congr_left fun m hm => ?_).trans (List.map_id _)
    rw [each _ (mem_present.1 hm) m.2 rfl]
    rfl
  have sorted := pairwise_present (List.pairwise_map.1 ordered)
  rw [ofFields_eq, canonical_object, kept, Dict.entries_ofList sorted]

theorem ofDict_eq {α : Type} {f : α → Value} {d : Dict α} :
    ofDict f d = .object (d.entries.map fun e => (e.1, f e.2)) :=
  rfl

@[simp]
theorem canonical_ofDict {α : Type} {f : α → Value} {d : Dict α}
    (each : ∀ a, (f a).canonical = f a) : (ofDict f d).canonical = ofDict f d := by
  have kept : (d.entries.map fun e => (e.1, f e.2)).map (fun m => (m.1, m.2.canonical)) =
      d.entries.map fun e => (e.1, f e.2) := by
    rw [List.map_map]
    exact List.map_congr_left fun e _ => congrArg (e.1, ·) (each e.2)
  have ordered : (d.entries.map fun e => (e.1, f e.2)).Pairwise (·.1 < ·.1) :=
    List.pairwise_map.2 d.sorted
  rw [ofDict_eq, canonical_object, kept, Dict.entries_ofList ordered]

end ArtifactSync.Json.Value
