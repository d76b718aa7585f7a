import ArtifactSync.Proofs.Json.Canonical

namespace ArtifactSync.Json

open Value (Distinct member?_object)

variable {α σ : Type} {depth : Nat} {r : Reader α} {a : α} {v : Value} {o : Option α}
  {ms done : List (String × Value)} {k : String} {asked : List String} {record : Record σ α}
  {upTo : List String → σ} {Spells : Value → α → Prop}

theorem member?_eq_none_iff : (Value.object ms).member? k = none ↔ k ∉ ms.map (·.1) := by
  simp only [Value.member?, Option.map_eq_none_iff, List.find?_eq_none, List.mem_reverse,
    beq_iff_eq, List.mem_map, not_exists, not_and]

-- Where no two members have a name that is asked for, each is what its name means.
theorem member?_of_mem (once : Distinct (ms.filter (·.1 ∈ asked))) (known : k ∈ asked)
    (mem : (k, v) ∈ ms) : (Value.object ms).member? k = some v := by
  have reversed : Distinct (ms.reverse.filter (·.1 ∈ asked)) := by
    rw [List.filter_reverse]
    exact List.pairwise_reverse.2 (once.imp Ne.symm)
  have listed : (k, v) ∈ ms.reverse.filter (·.1 ∈ asked) := by
    simp [mem, known]
  have found := (Value.lookup_eq_some_iff reversed).2 listed
  rwa [Dict.lookup_filter (fun k => decide (k ∈ asked)), if_pos (decide_eq_true known),
    ← member?_object] at found

theorem isExact_ofFields {fields : List (String × Option Value)}
    (each : ∀ e ∈ fields, ∀ v ∈ e.2, v.IsExact depth) :
    (Value.ofFields fields).IsExact (depth + 1) :=
  .object fun m hm => each _ (Value.mem_present.1 hm) m.2 rfl

theorem once_present {fields : List (String × Option Value)} (distinct : Distinct fields) :
    Distinct ((present fields).filter (·.1 ∈ asked)) :=
  (Value.pairwise_present distinct).filter _

theorem not_met (once : Distinct ((done ++ (k, v) :: ms).filter (·.1 ∈ asked)))
    (known : k ∈ asked) : k ∉ (done.map (·.1)).reverse := by
  intro met
  rw [List.mem_reverse, List.mem_map] at met
  have ⟨m, before, same⟩ := met
  unfold Distinct at once
  rw [List.filter_append, List.pairwise_append] at once
  have first : m ∈ done.filter (·.1 ∈ asked) := by simp [before, same, known]
  have again : (k, v) ∈ ((k, v) :: ms).filter (·.1 ∈ asked) := by simp [known]
  exact once.2.2 m first _ again same

-- What a member says that may be missing or null.
inductive Perhaps (Spells : Value → α → Prop) : Option Value → Option α → Prop
  | absent : Perhaps Spells none none
  | null : Perhaps Spells (some .null) none
  | given {v : Value} {a : α} (spells : Spells v a) : Perhaps Spells (some v) (some a)

theorem Perhaps.map {f : α → Value} (each : ∀ a ∈ o, Spells (f a) a) :
    Perhaps Spells (o.map f) o := by
  cases o with
  | none   => exact .absent
  | some a => exact .given (each a rfl)

-- A member that was left out or written.
theorem Perhaps.present {fields : List (String × Option Value)} {f : α → Value}
    (distinct : Distinct fields) (listed : (k, o.map f) ∈ fields)
    (each : ∀ a ∈ o, Spells (f a) a) :
    Perhaps Spells ((Value.object (present fields)).member? k) o := by
  rw [← ofFields_eq, Value.member?_ofFields distinct listed]
  exact .map each

theorem Perhaps.takes (perhaps : Perhaps Spells (some v) o)
    (each : ∀ a, Spells v a → v ≠ .null ∧ Takes depth r v a) :
    Takes depth (Reader.optional r) v o := by
  cases perhaps with
  | null         => exact takes_null
  | given spells =>
    have ⟨nonnull, taken⟩ := each _ spells
    exact takes_optional nonnull taken

-- What has not been met is left as if it were null.
theorem Perhaps.join (perhaps : Perhaps Spells ((Value.object ms).member? k) o) :
    (if k ∈ (ms.map (·.1)).reverse then some o else none).join = o := by
  split
  case isTrue        => rfl
  case isFalse unmet =>
    rw [List.mem_reverse, ← member?_eq_none_iff] at unmet
    rw [unmet] at perhaps
    cases perhaps
    rfl

theorem met_of_member? (meant : (Value.object ms).member? k = some v) :
    k ∈ (ms.map (·.1)).reverse := by
  by_cases met : k ∈ ms.map (·.1)
  case pos => exact List.mem_reverse.2 met
  case neg =>
    rw [member?_eq_none_iff.2 met] at meant
    cases meant

inductive IsText : Value → String → Prop
  | text {s : String} : IsText (.string s) s

theorem IsText.takes {s : String} (spells : IsText v s) :
    v ≠ .null ∧ Takes depth Reader.string v s := by
  cases spells
  exact ⟨nofun, understands_string.reads⟩

namespace Record

def names (record : Record σ α) : List String :=
  record.fields.map (·.name)

theorem exists_field (known : k ∈ record.names) :
    ∃ field ∈ record.fields, field.name = k ∧
      record.fields.find? (·.name == k) = some field := by
  have ⟨field, listed, same⟩ := List.mem_map.1 known
  cases found : record.fields.find? (·.name == k) with
  | none       => exact absurd same (by simpa using List.find?_eq_none.1 found field listed)
  | some field =>
    have same : field.name = k := by simpa using List.find?_some found
    exact ⟨field, List.mem_of_find?_eq_some found, same, rfl⟩

theorem find?_unknown (unknown : k ∉ record.names) :
    record.fields.find? (·.name == k) = none := by
  simpa [names] using unknown

-- Drafts by the names that have been met so far. A field that is met for the first time is read,
-- and names that are no field's leave the draft as it is.
structure Fits (record : Record σ α) (depth : Nat) (ms : List (String × Value))
    (upTo : List String → σ) : Prop where
  blank   : upTo [] = record.draft
  known   : ∀ field ∈ record.fields, ∀ v, (Value.object ms).member? field.name = some v →
    ∀ met, field.name ∉ met → field.isSet (upTo met) = false ∧
      Takes depth (field.read (upTo met)) v (upTo (field.name :: met))
  unknown : ∀ k met, (∀ name ∈ record.names, name ≠ k) → upTo (k :: met) = upTo met

namespace Fits

-- The induction is on the members that are still to come.
theorem follows (done : List (String × Value)) (fits : record.Fits depth (done ++ ms) upTo)
    (once : Distinct ((done ++ ms).filter (·.1 ∈ record.names))) :
    Follows depth record.entry ms (upTo (done.map (·.1)).reverse)
      (upTo ((done ++ ms).map (·.1)).reverse) := by
  induction ms generalizing done with
  | nil          =>
    rw [List.append_nil]
    exact .nil
  | cons m ms hi =>
    have ⟨k, v⟩ := m
    have split : done ++ (k, v) :: ms = (done ++ [(k, v)]) ++ ms := by simp
    have met : ((done ++ [(k, v)]).map (·.1)).reverse = k :: (done.map (·.1)).reverse := by simp
    have rest := hi (done ++ [(k, v)]) (split ▸ fits) (split ▸ once)
    rw [← split, met] at rest
    refine .cons (fun ls c d spelt => ?_) rest
    by_cases known : k ∈ record.names
    case pos =>
      have ⟨field, listed, same, found⟩ := exists_field known
      subst same
      have meant : (Value.object (done ++ (field.name, v) :: ms)).member? field.name = some v :=
        member?_of_mem once known (by simp)
      have ⟨unset, taken⟩ := fits.known field listed v meant _ (not_met once known)
      rw [entry_eq found unset]
      exact consumes_bind consumes_colon (taken _ spelt)
    case neg =>
      have other : ∀ name ∈ record.names, name ≠ k := fun _ listed same => known (same ▸ listed)
      rw [fits.unknown k _ other, entry_unknown (find?_unknown known)]
      exact consumes_bind consumes_colon (consumes_bind_pure (takes_skip _ spelt) rfl)

theorem takes (fits : record.Fits depth ms upTo)
    (once : Distinct (ms.filter (·.1 ∈ record.names)))
    (built : record.build (upTo (ms.map (·.1)).reverse) = .ok a) :
    Takes (depth + 1) record.reader (.object ms) a := by
  have follows := fits.follows [] once
  rw [List.nil_append, List.map_nil, List.reverse_nil, fits.blank] at follows
  exact takes_record follows built

end Fits

end Record

end ArtifactSync.Json
