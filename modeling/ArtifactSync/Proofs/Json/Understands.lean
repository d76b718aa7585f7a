import ArtifactSync.Json.Record
import ArtifactSync.Proofs.Json.Passed

namespace ArtifactSync.Json

open Reader

variable {α β σ : Type} {depth : Nat} {r : Reader α} {a : α} {b : β} {ls ls' rest : List Lexeme}
  {v : Value} {vs : List Value} {ms : List (String × Value)} {k : String} {s s₁ s' : σ}
  {comma : Bool} {place stop room size n : Nat}

-- A reader takes in these lexemes, whatever comes behind them, where `depth` more brackets may be
-- opened.
def Consumes (depth : Nat) (r : Reader α) (ls : List Lexeme) (a : α) : Prop :=
  ∀ (rest : List Lexeme) (room size : Nat), depth < room →
    r ⟨ls ++ rest, room, size⟩ = .ok a ⟨rest, room, size⟩

-- A reader makes this of a value, however it is spelt.
def Takes (depth : Nat) (r : Reader α) (v : Value) (a : α) : Prop :=
  ∀ ls, Spelt v ls → Consumes depth r ls a

-- And the value can be written.
structure Understands (depth : Nat) (r : Reader α) (v : Value) (a : α) : Prop where
  exact : v.IsExact depth
  reads : ∀ ls, Spelt v ls → Consumes depth r ls a

theorem consumes_pure : Consumes depth (pure a : Reader α) [] a :=
  fun _ _ _ _ => rfl

theorem consumes_bind {f : α → Reader β} (h : Consumes depth r ls a)
    (behind : Consumes depth (f a) ls' b) : Consumes depth (r >>= f) (ls ++ ls') b := by
  intro rest room size free
  rw [List.append_assoc]
  refine Eq.trans ?_ (behind rest room size free)
  show EStateM.bind r f _ = _
  rw [EStateM.bind, h _ room size free]

-- What is only made of what was read takes in nothing more.
theorem consumes_bind_pure {f : α → Reader β} (h : Consumes depth r ls a)
    (made : f a = pure b) : Consumes depth (r >>= f) ls b := by
  have whole := consumes_bind h (made ▸ consumes_pure : Consumes depth (f a) [] b)
  rwa [List.append_nil] at whole

theorem consumes_map {f : α → β} (h : Consumes depth r ls a) :
    Consumes depth (f <$> r) ls (f a) := by
  rw [map_eq_pure_bind]
  exact consumes_bind_pure h rfl

theorem consumes_colon : Consumes depth colon [⟨.colon, place, stop⟩] () :=
  fun _ _ _ _ => rfl

theorem takes_bind_pure {f : α → Reader β} (h : Takes depth r v a) (made : f a = pure b) :
    Takes depth (r >>= f) v b :=
  fun _ spelt => consumes_bind_pure (h _ spelt) made

theorem understands_bind_pure {f : α → Reader β} (h : Understands depth r v a)
    (made : f a = pure b) : Understands depth (r >>= f) v b :=
  ⟨h.exact, takes_bind_pure h.reads made⟩

theorem understands_map {f : α → β} (h : Understands depth r v a) :
    Understands depth (f <$> r) v (f a) :=
  ⟨h.exact, fun _ spelt => consumes_map (h.reads _ spelt)⟩

theorem understands_stringFor {wanted : String} :
    Understands depth (stringFor wanted) (.string k) k := by
  refine ⟨.string, fun _ spelt => ?_⟩
  cases spelt
  exact fun _ _ _ _ => rfl

theorem understands_string : Understands depth string (.string k) k :=
  understands_stringFor

-- All that counts is what is made of the text that is there.
theorem stringWith_eq {wanted : String} {f : String → Except Cause α} {skipped : Except Fault Nat} :
    stringWith wanted f ⟨⟨.string ⟨.ok k, skipped⟩, place, stop⟩ :: rest, room, size⟩ =
      stringWith wanted (fun _ => f k)
        ⟨⟨.string ⟨.ok k, skipped⟩, place, stop⟩ :: rest, room, size⟩ :=
  rfl

theorem understands_stringWith {wanted : String} {f : String → Except Cause α}
    (h : f k = .ok a) : Understands depth (stringWith wanted f) (.string k) a := by
  refine ⟨.string, fun _ spelt _ _ _ _ => ?_⟩
  cases spelt
  exact stringWith_eq.trans (by rw [h]; rfl)

theorem understands_boolean {t : Bool} : Understands depth boolean (.boolean t) t := by
  refine ⟨.boolean, fun _ spelt => ?_⟩
  cases spelt
  exact fun _ _ _ _ => rfl

theorem understands_integer {wanted : String} {low bound i : Int}
    (exact : (Value.ofInt i).IsExact depth) (hl : low ≤ i) (hb : i < bound) :
    Understands depth (integer wanted low bound) (.ofInt i) i := by
  have within {f : Fault} (c : Cursor) :
      (if low ≤ i ∧ i < bound then pure i else throw f : Reader Int) c = .ok i c := by
    rw [if_pos ⟨hl, hb⟩]
    rfl
  refine ⟨exact, fun _ spelt rest room size _ => ?_⟩
  unfold Value.ofInt at spelt
  split at spelt
  case isTrue negative =>
    have same : -(i.natAbs : Int) = i := by omega
    cases spelt with
    | @number _ _ _ stop =>
      show (if low ≤ -(i.natAbs : Int) ∧ -(i.natAbs : Int) < bound then pure (-(i.natAbs : Int))
        else throw ⟨.wrongValue (.integer (-(i.natAbs : Int))) wanted, some stop⟩ : Reader Int)
        ⟨rest, room, size⟩ = _
      rw [same]
      exact within _
  case isFalse natural =>
    have same : (i.natAbs : Int) = i := by omega
    cases spelt with
    | @number _ _ _ stop =>
      show (if low ≤ (i.natAbs : Int) ∧ (i.natAbs : Int) < bound then pure (i.natAbs : Int)
        else throw ⟨.wrongValue (.integer (i.natAbs : Int)) wanted, some stop⟩ : Reader Int)
        ⟨rest, room, size⟩ = _
      rw [same]
      exact within _

theorem takes_optional (given : v ≠ .null) (h : Takes depth r v a) :
    Takes depth (optional r) v (some a) := by
  intro _ spelt
  have whole : Consumes depth (some <$> r) _ (some a) := consumes_map (h _ spelt)
  cases spelt
  case null => exact absurd rfl given
  all_goals exact whole

theorem takes_null : Takes depth (optional r) .null none := by
  intro _ spelt
  cases spelt
  exact fun _ _ _ _ => rfl

theorem understands_optional (given : v ≠ .null) (h : Understands depth r v a) :
    Understands depth (optional r) v (some a) :=
  ⟨h.exact, takes_optional given h.reads⟩

-- A value that is passed over.
theorem takes_skip : Takes depth skip v () :=
  fun _ spelt rest room size _ => skip_spelt spelt rest room size

-- What stands between brackets is taken in up to the closing one.
theorem consumes_bracketed {b : Bracket} {body : Reader α} {opener closer : Lexeme}
    (closes : b.closes closer.token = true)
    (inner : ∀ (rest : List Lexeme) (room size : Nat), depth < room →
      body ⟨ls ++ closer :: rest, room, size⟩ = .ok a ⟨closer :: rest, room, size⟩) :
    Consumes (depth + 1) (bracketed b body) (opener :: (ls ++ [closer])) a := by
  intro rest room size free
  have passed : close b ⟨closer :: rest, room, size⟩ = .ok () ⟨rest, room, size⟩ := by
    show (if b.closes closer.token then advance else _ : Reader Unit) _ = _
    rw [if_pos closes]
    rfl
  have closed : (close b *> pure a : Reader α) ⟨closer :: rest, room, size⟩ =
      .ok a ⟨rest, room, size⟩ := by
    show EStateM.seqRight (close b) (fun _ => pure a) _ = _
    rw [EStateM.seqRight, passed]
    rfl
  have ahead : opener :: (ls ++ [closer]) ++ rest = opener :: (ls ++ closer :: rest) := by simp
  unfold bracketed
  rw [if_neg (Nat.not_le.2 (by omega : 1 < room)), ahead]
  dsimp only [List.tail_cons]
  rw [inner rest (room - 1) size (by omega)]
  exact closed

-- Elements make one state of another, one after the other.
inductive Gathers (depth : Nat) (item : σ → Reader σ) : List Value → σ → σ → Prop
  | nil {s : σ} : Gathers depth item [] s s
  | cons {v : Value} {vs : List Value} {s s₁ s' : σ} : Understands depth (item s) v s₁ →
    Gathers depth item vs s₁ s' → Gathers depth item (v :: vs) s s'

-- A reader makes this of the value behind a colon.
structure Enters (depth : Nat) (r : Reader σ) (v : Value) (s : σ) : Prop where
  exact : v.IsExact depth
  reads : ∀ ls (c d : Nat), Spelt v ls → Consumes depth r (⟨.colon, c, d⟩ :: ls) s

theorem enters_bind {f : α → Reader σ} (h : Understands depth r v a) (made : f a = pure s) :
    Enters depth (colon >>= fun _ => r >>= f) v s :=
  ⟨h.exact, fun _ _ _ spelt =>
    consumes_bind consumes_colon (consumes_bind_pure (h.reads _ spelt) made)⟩

theorem enters_whole {r : Reader σ} (h : Understands depth r v s) :
    Enters depth (colon >>= fun _ => r) v s :=
  ⟨h.exact, fun _ _ _ spelt => consumes_bind consumes_colon (h.reads _ spelt)⟩

-- Members make one state of another as well; of each the key has been read already.
inductive Folds (depth : Nat) (entry : String → σ → Reader σ) :
    List (String × Value) → σ → σ → Prop
  | nil {s : σ} : Folds depth entry [] s s
  | cons {k : String} {v : Value} {ms : List (String × Value)} {s s₁ s' : σ} :
    Enters depth (entry k s) v s₁ → Folds depth entry ms s₁ s' →
    Folds depth entry ((k, v) :: ms) s s'

-- The same where the values need not be such as can be written.
inductive Follows (depth : Nat) (entry : String → σ → Reader σ) :
    List (String × Value) → σ → σ → Prop
  | nil {s : σ} : Follows depth entry [] s s
  | cons {k : String} {v : Value} {ms : List (String × Value)} {s s₁ s' : σ} :
    (∀ ls (c d : Nat), Spelt v ls → Consumes depth (entry k s) (⟨.colon, c, d⟩ :: ls) s₁) →
    Follows depth entry ms s₁ s' → Follows depth entry ((k, v) :: ms) s s'

theorem Folds.follows {entry : String → σ → Reader σ} (folds : Folds depth entry ms s s') :
    Follows depth entry ms s s' := by
  induction folds with
  | nil            => exact .nil
  | cons here _ hi => exact .cons here.reads hi

-- What a value begins with is neither a comma nor a closing bracket.
theorem Spelt.nextElement? (spelt : Spelt v ls) : nextElement? true ⟨ls ++ rest, room, size⟩ =
    .ok true ⟨ls ++ rest, room, size⟩ := by
  cases spelt <;> rfl

theorem Spelt.nextElement?_comma {c d : Nat} (spelt : Spelt v ls) :
    Reader.nextElement? false ⟨⟨.comma, c, d⟩ :: (ls ++ rest), room, size⟩ =
      .ok true ⟨ls ++ rest, room, size⟩ := by
  cases spelt <;> rfl

-- Each round of the loop takes in one element.
theorem elements_next {item : σ → Reader σ} {first : Bool} {c c₁ c' : Cursor}
    (more : nextElement? first c = .ok true c₁) (here : item s c₁ = .ok s₁ c') :
    elements.go item (n + 1) first s c = elements.go item n false s₁ c' := by
  show EStateM.bind (nextElement? first) _ c = _
  rw [EStateM.bind, more]
  show EStateM.bind (item s) _ c₁ = _
  rw [EStateM.bind, here]

theorem elements_go {item : σ → Reader σ} {c d : Nat} (gathers : Gathers depth item vs s s')
    (spelt : SpeltItems comma vs ls) (enough : vs.length < n) (free : depth < room) :
    elements.go item n (!comma) s ⟨ls ++ ⟨.closeBracket, c, d⟩ :: rest, room, size⟩ =
      .ok s' ⟨⟨.closeBracket, c, d⟩ :: rest, room, size⟩ := by
  induction gathers generalizing comma ls n with
  | nil                   =>
    cases spelt
    have ⟨n, same⟩ := Nat.exists_eq_add_of_lt enough
    subst same
    rfl
  | cons here _ hi =>
    cases n with
    | zero   => cases enough
    | succ n =>
      have enough := Nat.lt_of_succ_lt_succ enough
      cases spelt with
      | first head others =>
        rw [List.append_assoc]
        exact (elements_next head.nextElement? (here.reads _ head _ room size free)).trans
          (hi others enough)
      | more head others  =>
        rw [List.cons_append, List.append_assoc]
        exact (elements_next head.nextElement?_comma (here.reads _ head _ room size free)).trans
          (hi others enough)

theorem nextKey?_first {skipped a b : Nat} :
    nextKey? true ⟨⟨.string ⟨.ok k, .ok skipped⟩, a, b⟩ :: rest, room, size⟩ =
      .ok (some k) ⟨rest, room, size⟩ :=
  rfl

theorem nextKey?_comma {skipped a b c d : Nat} :
    nextKey? false
        ⟨⟨.comma, c, d⟩ :: ⟨.string ⟨.ok k, .ok skipped⟩, a, b⟩ :: rest, room, size⟩ =
      .ok (some k) ⟨rest, room, size⟩ :=
  rfl

theorem members_next {entry : String → σ → Reader σ} {first : Bool} {c c₁ c' : Cursor}
    (more : nextKey? first c = .ok (some k) c₁) (here : entry k s c₁ = .ok s₁ c') :
    members.go entry (n + 1) first s c = members.go entry n false s₁ c' := by
  show EStateM.bind (nextKey? first) _ c = _
  rw [EStateM.bind, more]
  show EStateM.bind (entry k s) _ c₁ = _
  rw [EStateM.bind, here]

theorem members_go {entry : String → σ → Reader σ} {c d : Nat}
    (follows : Follows depth entry ms s s') (spelt : SpeltMembers comma ms ls)
    (enough : ms.length < n) (free : depth < room) :
    members.go entry n (!comma) s ⟨ls ++ ⟨.closeBrace, c, d⟩ :: rest, room, size⟩ =
      .ok s' ⟨⟨.closeBrace, c, d⟩ :: rest, room, size⟩ := by
  induction follows generalizing comma ls n with
  | nil            =>
    cases spelt
    have ⟨n, same⟩ := Nat.exists_eq_add_of_lt enough
    subst same
    rfl
  | cons here _ hi =>
    cases n with
    | zero   => cases enough
    | succ n =>
      have enough := Nat.lt_of_succ_lt_succ enough
      cases spelt with
      | first head others =>
        rw [List.cons_append, List.cons_append, List.append_assoc]
        refine (members_next nextKey?_first (here _ _ _ head _ room size free)).trans ?_
        exact hi others enough
      | more head others  =>
        rw [List.cons_append, List.cons_append, List.cons_append, List.append_assoc]
        refine (members_next nextKey?_comma (here _ _ _ head _ room size free)).trans ?_
        exact hi others enough

-- Every element and every member takes at least one lexeme.
theorem Spelt.length_pos (spelt : Spelt v ls) : 0 < ls.length := by
  cases spelt <;> exact Nat.zero_lt_succ _

theorem SpeltItems.length_le (spelt : SpeltItems comma vs ls) : vs.length ≤ ls.length := by
  induction vs generalizing comma ls with
  | nil          => exact Nat.zero_le _
  | cons v vs hi =>
    cases spelt with
    | first head others =>
      have := head.length_pos
      have := hi others
      simp only [List.length_cons, List.length_append]
      omega
    | more _ others     =>
      have := hi others
      simp only [List.length_cons, List.length_append]
      omega

theorem SpeltMembers.length_le (spelt : SpeltMembers comma ms ls) : ms.length ≤ ls.length := by
  induction ms generalizing comma ls with
  | nil          => exact Nat.zero_le _
  | cons m ms hi =>
    cases spelt with
    | first _ others =>
      have := hi others
      simp only [List.length_cons, List.length_append]
      omega
    | more _ others  =>
      have := hi others
      simp only [List.length_cons, List.length_append]
      omega

theorem members_spelt {entry : String → σ → Reader σ} {c d : Nat}
    (follows : Follows depth entry ms s s') (spelt : SpeltMembers false ms ls)
    (free : depth < room) :
    members entry s ⟨ls ++ ⟨.closeBrace, c, d⟩ :: rest, room, size⟩ =
      .ok s' ⟨⟨.closeBrace, c, d⟩ :: rest, room, size⟩ := by
  refine members_go follows spelt ?_ free
  have := spelt.length_le
  simp only [List.length_append, List.length_cons]
  omega

theorem Gathers.isExact {item : σ → Reader σ} (gathers : Gathers depth item vs s s') :
    ∀ v ∈ vs, v.IsExact depth := by
  induction gathers with
  | nil            => exact fun _ hv => nomatch hv
  | cons here _ hi => exact List.forall_mem_cons.2 ⟨here.exact, hi⟩

theorem Folds.isExact {entry : String → σ → Reader σ} (folds : Folds depth entry ms s s') :
    ∀ m ∈ ms, m.2.IsExact depth := by
  induction folds with
  | nil            => exact fun _ hm => nomatch hm
  | cons here _ hi => exact List.forall_mem_cons.2 ⟨here.exact, hi⟩

theorem understands_members {entry : String → σ → Reader σ} (folds : Folds depth entry ms s s') :
    Understands (depth + 1) (bracketed .object (members entry s)) (.object ms) s' := by
  refine ⟨.object folds.isExact, fun _ spelt => ?_⟩
  cases spelt with
  | object members =>
    exact consumes_bracketed rfl fun _ _ _ free =>
      members_spelt folds.follows members free

theorem understands_elements {item : σ → Reader σ} (gathers : Gathers depth item vs s s') :
    Understands (depth + 1) (bracketed .list (elements item s)) (.list vs) s' := by
  refine ⟨.list gathers.isExact, fun _ spelt => ?_⟩
  cases spelt with
  | list items =>
    refine consumes_bracketed rfl fun rest room size free => ?_
    refine elements_go gathers items ?_ free
    have := items.length_le
    simp only [List.length_append, List.length_cons]
    omega

-- What begins with its bracket is read as what stands between brackets.
theorem understands_of_list {r' : Reader α} (h : Understands depth r (.list vs) a)
    (opens : ∀ (a b : Nat) (ls : List Lexeme) (room size : Nat),
      r' ⟨⟨.openBracket, a, b⟩ :: ls, room, size⟩ = r ⟨⟨.openBracket, a, b⟩ :: ls, room, size⟩) :
    Understands depth r' (.list vs) a := by
  refine ⟨h.exact, fun _ spelt rest room size free => ?_⟩
  have read := h.reads _ spelt rest room size free
  cases spelt
  exact (opens _ _ _ room size).trans read

theorem takes_of_object {r' : Reader α} (h : Takes depth r (.object ms) a)
    (opens : ∀ (a b : Nat) (ls : List Lexeme) (room size : Nat),
      r' ⟨⟨.openBrace, a, b⟩ :: ls, room, size⟩ = r ⟨⟨.openBrace, a, b⟩ :: ls, room, size⟩) :
    Takes depth r' (.object ms) a := by
  intro _ spelt rest room size free
  have read := h _ spelt rest room size free
  cases spelt
  exact (opens _ _ _ room size).trans read

theorem understands_of_object {r' : Reader α} (h : Understands depth r (.object ms) a)
    (opens : ∀ (a b : Nat) (ls : List Lexeme) (room size : Nat),
      r' ⟨⟨.openBrace, a, b⟩ :: ls, room, size⟩ = r ⟨⟨.openBrace, a, b⟩ :: ls, room, size⟩) :
    Understands depth r' (.object ms) a :=
  ⟨h.exact, takes_of_object h.reads opens⟩

theorem understands_object {entry : String → σ → Reader σ} {wanted : String}
    (folds : Folds depth entry ms s s') :
    Understands (depth + 1) (object wanted entry s) (.object ms) s' :=
  understands_of_object (understands_members folds) fun _ _ _ _ _ => rfl

-- Elements are gathered in reverse.
theorem gathers_map {f : α → Value} {as : List α} (done : List α)
    (each : ∀ a ∈ as, Understands depth r (f a) a) :
    Gathers depth (fun s => do return (← r) :: s) (as.map f) done (as.reverse ++ done) := by
  induction as generalizing done with
  | nil          => exact .nil
  | cons a as hi =>
    have ⟨here, there⟩ := List.forall_mem_cons.1 each
    have next : Understands depth (do return (← r) :: done) (f a) (a :: done) :=
      understands_bind_pure here rfl
    rw [List.reverse_cons, List.append_assoc]
    exact .cons next (hi (a :: done) there)

theorem understands_list {f : α → Value} {as : List α}
    (each : ∀ a ∈ as, Understands depth r (f a) a) :
    Understands (depth + 1) (list r) (.list (as.map f)) as := by
  have whole := understands_map (f := List.reverse)
    (understands_elements (gathers_map [] each))
  rw [List.append_nil, List.reverse_reverse] at whole
  exact understands_of_list whole fun _ _ _ _ _ => rfl

theorem folds_dict {f : α → Value} {es : List (String × α)} {d : Dict α}
    (each : ∀ e ∈ es, Understands depth r (f e.2) e.2) :
    Folds depth (fun k d => do colon; return d.insert k (← r)) (es.map fun (k, a) => (k, f a)) d
      (es.foldl (fun d e => d.insert e.1 e.2) d) := by
  induction es generalizing d with
  | nil          => exact .nil
  | cons e es hi =>
    have ⟨here, there⟩ := List.forall_mem_cons.1 each
    exact .cons (enters_bind here rfl) (hi there)

theorem understands_dict {f : α → Value} {d : Dict α}
    (each : ∀ e ∈ d.entries, Understands depth r (f e.2) e.2) :
    Understands (depth + 1) (dict r) (.ofDict f d) d := by
  have folds := folds_dict (d := ∅) each
  rw [← Dict.ofList, Dict.ofList_entries] at folds
  exact understands_object folds

-- Members are kept in reverse while more of them come.
theorem folds_pairs {r : Reader Value} (done : List (String × Value))
    (each : ∀ m ∈ ms, Understands depth r m.2 m.2) :
    Folds depth (fun k ms => do colon; return (k, ← r) :: ms) ms done (ms.reverse ++ done) := by
  induction ms generalizing done with
  | nil          => exact .nil
  | cons m ms hi =>
    have ⟨here, there⟩ := List.forall_mem_cons.1 each
    rw [List.reverse_cons, List.append_assoc]
    exact .cons (enters_bind here rfl) (hi (m :: done) there)

-- A value that lies no deeper than it may is read as itself.
theorem understands_readWithin (exact : v.IsExact depth) :
    Understands depth (Value.readWithin (depth + 1 + n)) v v := by
  induction exact with
  | null                =>
    rw [Nat.add_right_comm]
    refine ⟨.null, fun _ spelt => ?_⟩
    cases spelt
    exact fun _ _ _ _ => rfl
  | boolean             =>
    rw [Nat.add_right_comm]
    refine ⟨.boolean, fun _ spelt => ?_⟩
    cases spelt
    exact fun _ _ _ _ => rfl
  | number exact            =>
    rw [Nat.add_right_comm]
    refine ⟨.number exact, fun _ spelt => ?_⟩
    cases spelt
    exact fun _ _ _ _ => rfl
  | string              =>
    rw [Nat.add_right_comm]
    refine ⟨.string, fun _ spelt => ?_⟩
    cases spelt
    exact fun _ _ _ _ => rfl
  | @list depth vs _ hi =>
    have gathers := gathers_map (f := id) [] hi
    have made : (vs.reverse ++ []).reverse = vs := by rw [List.append_nil, List.reverse_reverse]
    rw [Nat.add_right_comm]
    rw [List.map_id] at gathers
    refine understands_of_list (understands_bind_pure (understands_elements gathers) ?_)
      fun _ _ _ _ _ => rfl
    exact congrArg (fun vs => pure (Value.list vs)) made
  | @object depth ms _ hi  =>
    have folds := folds_pairs [] hi
    have made : (ms.reverse ++ []).reverse = ms := by rw [List.append_nil, List.reverse_reverse]
    rw [Nat.add_right_comm]
    refine understands_of_object (understands_bind_pure (understands_members folds) ?_)
      fun _ _ _ _ _ => rfl
    exact congrArg (fun ms => pure (Value.object ms)) made

theorem understands_value (exact : v.IsExact depth) (shallow : depth < maxDepth) :
    Understands depth Value.reader v v := by
  have ⟨n, same⟩ := Nat.exists_eq_add_of_lt shallow
  rw [Value.reader, same, Nat.add_right_comm]
  exact understands_readWithin exact

-- The members of an object of which some may be missing.
def present (fields : List (String × Option Value)) : List (String × Value) :=
  fields.filterMap fun (name, v) => v.map (name, ·)

theorem ofFields_eq {fields : List (String × Option Value)} :
    Value.ofFields fields = .object (present fields) :=
  rfl

namespace Value

theorem isExact_ofInt {i : Int} (hl : -2 ^ 63 ≤ i) (hb : i < 2 ^ 63) :
    (ofInt i).IsExact depth := by
  refine .number ?_
  split
  case isTrue h  => exact Number.isExact_negative (by omega) (by omega)
  case isFalse h => exact Number.isExact_natural (by omega)

end Value

namespace Folds

variable {entry : String → σ → Reader σ} {fields : List (String × Option Value)}

theorem given (here : Enters depth (entry k s) v s₁)
    (others : Folds depth entry (present fields) s₁ s') :
    Folds depth entry (present ((k, some v) :: fields)) s s' :=
  .cons here others

-- A member that may be missing, and whose absence leaves everything as it is.
theorem perhaps {o : Option α} {f : α → Value} {g : Option α → σ} (blank : g none = s)
    (each : ∀ a ∈ o, Enters depth (entry k s) (f a) (g o))
    (others : Folds depth entry (present fields) (g o) s') :
    Folds depth entry (present ((k, o.map f) :: fields)) s s' := by
  cases o with
  | none   => exact blank ▸ others
  | some a => exact .given (each a rfl) others

-- One that could be null as well.
theorem optional {o : Option α} {f : α → Value} {set : Option α → σ}
    (entered : entry k s = colon >>= fun _ => Reader.optional r >>= fun x => pure (set x))
    (blank : set none = s) (each : ∀ a ∈ o, f a ≠ .null ∧ Understands depth r (f a) a)
    (others : Folds depth entry (present fields) (set o) s') :
    Folds depth entry (present ((k, o.map f) :: fields)) s s' := by
  refine .perhaps blank (fun a ha => ?_) others
  have ⟨given, understood⟩ := each a ha
  cases ha
  rw [entered]
  exact enters_bind (understands_optional given understood) rfl

-- A member that is kept as the value it is.
theorem optional_value {o : Option Value} {r : Reader Value} {set : Option Value → σ}
    (entered : entry k s = colon >>= fun _ => Reader.optional r >>= fun x => pure (set x))
    (blank : set none = s) (each : ∀ v ∈ o, v ≠ .null ∧ Understands depth r v v)
    (others : Folds depth entry (present fields) (set o) s') :
    Folds depth entry (present ((k, o) :: fields)) s s' := by
  have whole := Folds.optional (f := id) entered blank each others
  rwa [Option.map_id, id] at whole

end Folds

section

variable {record : Record σ α} {field : Field σ}

-- The value behind the colon is read by the field of that name.
theorem entry_eq (found : record.fields.find? (·.name == k) = some field)
    (unset : field.isSet s = false) :
    record.entry k s = colon >>= fun _ => field.read s := by
  unfold Record.entry
  rw [found]
  dsimp only
  rw [unset]
  rfl

-- Where there is none, it is passed over.
theorem entry_unknown (unknown : record.fields.find? (·.name == k) = none) :
    record.entry k s = colon >>= fun _ => skip >>= fun _ => pure s := by
  unfold Record.entry
  rw [unknown]

theorem enters_field (found : record.fields.find? (·.name == k) = some field)
    (unset : field.isSet s = false) (h : Understands depth (field.read s) v s₁) :
    Enters depth (record.entry k s) v s₁ := by
  rw [entry_eq found unset]
  exact enters_whole h

theorem enters_unknown (unknown : record.fields.find? (·.name == k) = none)
    (exact : v.IsExact depth) : Enters depth (record.entry k s) v s := by
  rw [entry_unknown unknown]
  exact enters_bind ⟨exact, takes_skip⟩ rfl

theorem takes_record (follows : Follows depth record.entry ms record.draft s)
    (built : record.build s = .ok a) : Takes (depth + 1) record.reader (.object ms) a := by
  have finished : record.finish s = pure a := by
    unfold Record.finish
    rw [built]
  have whole : Takes (depth + 1)
      (bracketed .object do record.finish (← members record.entry record.draft))
      (.object ms) a := by
    intro _ spelt
    cases spelt with
    | object members =>
      refine consumes_bracketed rfl fun rest room size free => ?_
      refine Eq.trans ?_ (congrFun finished ⟨⟨.closeBrace, _, _⟩ :: rest, room, size⟩)
      show EStateM.bind (Reader.members record.entry record.draft) _ _ = _
      rw [EStateM.bind, members_spelt follows members free]
  exact takes_of_object whole fun _ _ _ _ _ => rfl

theorem understands_record (folds : Folds depth record.entry ms record.draft s)
    (built : record.build s = .ok a) : Understands (depth + 1) record.reader (.object ms) a :=
  ⟨.object folds.isExact, takes_record folds.follows built⟩

end

-- A text that spells a value is read as what the reader makes of the value.
theorem read_of_takes {text : Bytes} (h : Takes depth r v a) (spelt : Spelt v (lexemes text))
    (shallow : depth < maxDepth) : read r text = .ok a := by
  have taken := h _ spelt [] maxDepth text.length shallow
  rw [List.append_nil] at taken
  unfold read
  rw [Cursor.ofText, taken]

-- So is the text that was written for it.
theorem read_of_understands (h : Understands depth r v a) (shallow : depth < maxDepth) :
    read r (bytesOf v.write) = .ok a :=
  read_of_takes h.reads (spelt_lexemes h.exact) shallow

-- A text says which string it was written for.
theorem Value.write_string_inj {s t : String} (same : (string s).write = (string t).write) :
    s = t := by
  have told (s : String) : read Reader.string (bytesOf (string s).write) = .ok s :=
    read_of_understands (understands_string : Understands 0 _ _ s) (by decide)
  exact Except.ok.inj ((told s).symm.trans (same ▸ told t))

end ArtifactSync.Json
