namespace ArtifactSync

structure Dict (α : Type) where
  entries : List (String × α)
  sorted : entries.Pairwise (·.1 < ·.1)

namespace Dict

variable {α : Type}

deriving instance DecidableEq, Repr for Dict

def empty : Dict α := ⟨[], .nil⟩

instance : EmptyCollection (Dict α) := ⟨empty⟩

instance : Inhabited (Dict α) := ⟨empty⟩

def size (d : Dict α) : Nat :=
  d.entries.length

def keys (d : Dict α) : List String :=
  d.entries.map (·.1)

def find? (d : Dict α) (k : String) : Option α :=
  d.entries.lookup k

instance : Membership String (Dict α) := ⟨fun d k => k ∈ d.keys⟩

def put (k : String) (v : α) : List (String × α) → List (String × α)
  | [] => [(k, v)]
  | e :: rest =>
    if k < e.1 then (k, v) :: e :: rest
    else if k = e.1 then (k, v) :: rest
    else e :: put k v rest

theorem mem_put {k : String} {v : α} {e : String × α} {es : List (String × α)}
    (h : e ∈ put k v es) : e = (k, v) ∨ e ∈ es := by
  induction es with
  | nil => simpa [put] using h
  | cons x es ih =>
    rw [put] at h
    split at h
    · simpa using h
    · split at h
      · rcases List.mem_cons.1 h with h | h <;> simp [h]
      · rcases List.mem_cons.1 h with h | h
        · simp [h]
        · rcases ih h with h | h <;> simp [h]

theorem sorted_put (k : String) (v : α) {es : List (String × α)}
    (h : es.Pairwise (·.1 < ·.1)) : (put k v es).Pairwise (·.1 < ·.1) := by
  induction es with
  | nil => simp [put]
  | cons x es ih =>
    have ⟨below, rest⟩ := List.pairwise_cons.1 h
    rw [put]
    split
    · next lt =>
      refine List.pairwise_cons.2 ⟨fun e he => ?_, h⟩
      rcases List.mem_cons.1 he with rfl | he
      · exact lt
      · exact String.lt_trans lt (below e he)
    · next nlt =>
      split
      · next eq => exact List.pairwise_cons.2 ⟨fun e he => eq ▸ below e he, rest⟩
      · next ne =>
        refine List.pairwise_cons.2 ⟨fun e he => ?_, ih rest⟩
        rcases mem_put he with rfl | he
        · exact Std.lt_of_le_of_ne (Std.not_lt.1 nlt) (Ne.symm ne)
        · exact below e he

def insert (d : Dict α) (k : String) (v : α) : Dict α :=
  ⟨put k v d.entries, sorted_put k v d.sorted⟩

def filter (p : String → Bool) (d : Dict α) : Dict α :=
  ⟨d.entries.filter fun e => p e.1, d.sorted.filter _⟩

def erase (d : Dict α) (k : String) : Dict α :=
  d.filter (· ≠ k)

-- Of two values for one key the later one stays.
def ofList (es : List (String × α)) : Dict α :=
  es.foldl (fun d e => d.insert e.1 e.2) ∅

def singleton (k : String) (v : α) : Dict α :=
  ⟨[(k, v)], by simp⟩

section

variable {κ : Type} [BEq κ] [LawfulBEq κ] [DecidableEq κ]

theorem lookup_cons (k : κ) (e : κ × α) (es : List (κ × α)) :
    (e :: es).lookup k = if k = e.1 then some e.2 else es.lookup k := by
  have ⟨k', v⟩ := e
  rw [List.lookup_cons]
  by_cases h : k = k'
  · simp [h]
  · have ne : (k == k') = false := by simpa using h
    simp [ne, h]

theorem lookup_filter (p : κ → Bool) (k : κ) (es : List (κ × α)) :
    (es.filter fun e => p e.1).lookup k = if p k then es.lookup k else none := by
  induction es with
  | nil => simp
  | cons x es ih =>
    by_cases hx : p x.1
    · rw [List.filter_cons, if_pos hx, lookup_cons, lookup_cons, ih]
      by_cases h : k = x.1
      · simp [h, hx]
      · simp [h]
    · rw [List.filter_cons, if_neg hx, lookup_cons, ih]
      by_cases h : k = x.1
      · simp [h, hx]
      · simp [h]

end

theorem lookup_eq_none {k : String} {es : List (String × α)} (h : ∀ e ∈ es, k < e.1) :
    es.lookup k = none := by
  induction es with
  | nil => rfl
  | cons x es ih =>
    have lt : k < x.1 := h x (by simp)
    have ne : k ≠ x.1 := fun eq => String.lt_irrefl _ (eq ▸ lt)
    rw [lookup_cons, if_neg ne]
    exact ih fun e he => h e (by simp [he])

theorem lookup_put (k k' : String) (v : α) (es : List (String × α)) :
    (put k v es).lookup k' = if k' = k then some v else es.lookup k' := by
  induction es with
  | nil => rw [put, lookup_cons]
  | cons x es ih =>
    rw [put]
    split
    · rw [lookup_cons]
    · split
      · next eq => simp only [lookup_cons, ← eq]; split <;> rfl
      · next ne =>
        rw [lookup_cons, ih, lookup_cons]
        by_cases h : k' = x.1
        · rw [if_pos h, if_pos h, if_neg fun e => ne (e.symm.trans h)]
        · simp [h]

@[simp]
theorem find?_empty (k : String) : (∅ : Dict α).find? k = none := rfl

theorem find?_insert (d : Dict α) (k k' : String) (v : α) :
    (d.insert k v).find? k' = if k' = k then some v else d.find? k' :=
  lookup_put k k' v d.entries

@[simp]
theorem find?_insert_self (d : Dict α) (k : String) (v : α) : (d.insert k v).find? k = some v := by
  rw [find?_insert, if_pos rfl]

theorem mem_iff {d : Dict α} {k : String} : k ∈ d ↔ (d.find? k).isSome := by
  rw [find?, List.lookup_isSome_iff]
  simp only [beq_iff_eq, eq_comm (a := k)]
  exact List.mem_map

theorem mem_insert {d : Dict α} {k k' : String} {v : α} : k' ∈ d.insert k v ↔ k' = k ∨ k' ∈ d := by
  simp only [mem_iff, find?_insert]
  split <;> simp [*]

theorem length_put {k : String} {v : α} {es : List (String × α)} (h : es.lookup k = none) :
    (put k v es).length = es.length + 1 := by
  induction es with
  | nil => rfl
  | cons x es ih =>
    rw [lookup_cons] at h
    split at h
    · cases h
    · next ne =>
      rw [put, if_neg ne]
      split
      · rfl
      · rw [List.length_cons, ih h, List.length_cons]

theorem size_insert {d : Dict α} {k : String} {v : α} (h : k ∉ d) :
    (d.insert k v).size = d.size + 1 :=
  length_put (Option.not_isSome_iff_eq_none.1 fun there => h (mem_iff.2 there))

theorem find?_filter (p : String → Bool) (d : Dict α) (k : String) :
    (d.filter p).find? k = if p k then d.find? k else none :=
  lookup_filter p k d.entries

theorem lookup_eq_none_of_lt {k : String} {e : String × α} {es : List (String × α)}
    (h : (e :: es).Pairwise (·.1 < ·.1)) (lt : k < e.1) : (e :: es).lookup k = none :=
  lookup_eq_none fun x hx => by
    rcases List.mem_cons.1 hx with rfl | hx
    · exact lt
    · exact String.lt_trans lt ((List.pairwise_cons.1 h).1 x hx)

theorem ext {d e : Dict α} (h : ∀ k, d.find? k = e.find? k) : d = e := by
  obtain ⟨ds, hd⟩ := d
  obtain ⟨es, he⟩ := e
  congr
  simp only [find?] at h
  induction ds generalizing es with
  | nil =>
    cases es with
    | nil => rfl
    | cons y es => simpa [lookup_cons] using h y.1
  | cons x ds ih =>
    cases es with
    | nil => simpa [lookup_cons] using h x.1
    | cons y es =>
      have keys : x.1 = y.1 := by
        rcases Std.lt_trichotomy x.1 y.1 with lt | eq | lt
        · simpa [lookup_cons x.1 x, lookup_eq_none_of_lt he lt] using h x.1
        · exact eq
        · simpa [lookup_cons y.1 y, lookup_eq_none_of_lt hd lt] using h y.1
      have values : x.2 = y.2 := by simpa [lookup_cons, keys] using h x.1
      have tails : ds = es := by
        refine ih (List.pairwise_cons.1 hd).2 es (List.pairwise_cons.1 he).2 fun k => ?_
        by_cases hk : k = x.1
        · rw [hk, lookup_eq_none (List.pairwise_cons.1 hd).1,
            lookup_eq_none (keys ▸ (List.pairwise_cons.1 he).1)]
        · have hy : k ≠ y.1 := fun eq => hk (eq.trans keys.symm)
          simpa [lookup_cons, hk, hy] using h k
      rw [tails, Prod.ext keys values]

theorem insert_insert_self (d : Dict α) (k : String) (v : α) :
    (d.insert k v).insert k v = d.insert k v := by
  refine ext fun k' => ?_
  rw [find?_insert, find?_insert]
  split <;> rfl

theorem put_append {k : String} {v : α} {es : List (String × α)} (h : ∀ e ∈ es, e.1 < k) :
    put k v es = es ++ [(k, v)] := by
  induction es with
  | nil => rfl
  | cons x es ih =>
    have ⟨here, there⟩ := List.forall_mem_cons.1 h
    have ne : k ≠ x.1 := fun eq => String.lt_irrefl _ (eq ▸ here)
    rw [put, if_neg fun lt => String.lt_irrefl _ (String.lt_trans here lt),
      if_neg ne, ih there, List.cons_append]

theorem entries_foldl {d : Dict α} {es : List (String × α)}
    (h : (d.entries ++ es).Pairwise (·.1 < ·.1)) :
    (es.foldl (fun d e => d.insert e.1 e.2) d).entries = d.entries ++ es := by
  induction es generalizing d with
  | nil => rw [List.foldl_nil, List.append_nil]
  | cons e es ih =>
    have ⟨_, _, below⟩ := List.pairwise_append.1 h
    have last : (d.insert e.1 e.2).entries = d.entries ++ [e] :=
      put_append fun x hx => below x hx e (.head es)
    rw [List.foldl_cons, ih, last, List.append_assoc, List.singleton_append]
    rw [last, List.append_assoc, List.singleton_append]
    exact h

-- Entries that are in order are the entries of their map.
theorem entries_ofList {es : List (String × α)} (h : es.Pairwise (·.1 < ·.1)) :
    (ofList es).entries = es :=
  entries_foldl h

theorem ofList_entries (d : Dict α) : ofList d.entries = d := by
  have same := entries_ofList d.sorted
  generalize ofList d.entries = e at same
  cases d
  cases e
  cases same
  rfl

theorem find?_ofList (es : List (String × α)) (k : String) :
    (ofList es).find? k = es.reverse.lookup k := by
  have all (d : Dict α) : (es.foldl (fun d e => d.insert e.1 e.2) d).find? k =
      (es.reverse.lookup k).or (d.find? k) := by
    induction es generalizing d with
    | nil => rfl
    | cons e es ih =>
      rw [List.foldl_cons, ih, find?_insert, List.reverse_cons, List.lookup_append, lookup_cons]
      split <;> simp
  rw [ofList, all, find?_empty, Option.or_none]

end Dict

end ArtifactSync
