import CrudPlan.Proofs.Data.Outcome
import CrudPlan.Proofs.Sql.Evaluation

namespace CrudPlan.Sql

/-- A column among values, never true of no values. -/
def amongValues (column : String) (values : List Value) : Condition Value :=
  if values.isEmpty then .always false else .among column values

def needleOf : Json → String
  | .str s => s
  | other => other.compact

/-- The test of a column that stands for an operator with its operand. -/
def testOf (column : String) (operator : Operator) (operand : Json) : Condition Value :=
  match operator with
  | .equals => .compare column .equal (.ofJson operand)
  | .not => .compare column .unequal (.ofJson operand)
  | .lt => .compare column .less (.ofJson operand)
  | .lte => .compare column .lessOrEqual (.ofJson operand)
  | .gt => .compare column .greater (.ofJson operand)
  | .gte => .compare column .greaterOrEqual (.ofJson operand)
  | .in =>
    match operand with
    | .arr items => amongValues column (items.map Value.ofJson)
    | single => amongValues column [.ofJson single]
  | .isNull =>
    match operand with
    | .bool false => .isNotNull column
    | _ => .isNull column
  | .includes => .like column (.text (containsPattern (needleOf operand)))

/-- What an operator with its operand says about a column, on the values themselves. -/
def Dialect.test (d : Dialect) (row : Row) (column : String) (operator : Operator)
    (operand : Json) : Truth :=
  match operator with
  | .equals => d.compare row column .equal (.ofJson operand)
  | .not => d.compare row column .unequal (.ofJson operand)
  | .lt => d.compare row column .less (.ofJson operand)
  | .lte => d.compare row column .lessOrEqual (.ofJson operand)
  | .gt => d.compare row column .greater (.ofJson operand)
  | .gte => d.compare row column .greaterOrEqual (.ofJson operand)
  | .in =>
    match operand with
    | .arr items => .any (items.map fun item => d.compare row column .equal (.ofJson item))
    | single => d.compare row column .equal (.ofJson single)
  | .isNull =>
    match operand with
    | .bool false => .ofBool (row column ≠ .null)
    | _ => .ofBool (row column = .null)
  | .includes =>
    if row column = .null then .unknown
    else .ofBool (occursIn d.same (needleOf operand) (d.text (row column)))

/-- The tree of a predicate with each test on the column stored for its field. -/
def predicateTree (m : Model) : Predicate → Option (Condition Value)
  | .compare field operator operand =>
    (m.field? field).map fun f => testOf f.columnName operator operand
  | .and children => (trees m children).map conjoin
  | .or children => (trees m children).map disjoin
  | .not child => (predicateTree m child).map .not
where
  trees (m : Model) : List Predicate → Option (List (Condition Value))
    | [] => some []
    | p :: rest => do
      let t ← predicateTree m p
      return t :: (← trees m rest)

def leafValue (d : Dialect) (row : Row) (m : Model) (leaf : Leaf) : Truth :=
  match m.field? leaf.field with
  | none => .unknown
  | some f => d.test row f.columnName leaf.operator leaf.operand

def predicateValue (d : Dialect) (row : Row) (m : Model) (p : Predicate) : Truth :=
  p.value (fun _ => leafValue d row m) 0

/-- The parameters behind the first `taken` have these values. -/
def Placed (f : Nat → Option Value) (taken : Nat) (values : List Value) : Prop :=
  (List.range' (taken + 1) values.length).map f = values.map some

/-- A condition has a text, and with the values of its parameters it is the given tree. -/
structure Bound.Means (b : Bound) (taken : Nat) (t : Condition Value) : Prop where
  proper : b.condition.Proper
  map_eq : ∀ f, Placed f taken b.values → b.condition.flat.map f = t.map some

/-- Conditions that follow each other have texts, and with the values of their parameters they are
the given trees. -/
inductive AllMean : List (Condition Nat) → List Value → Nat → List (Condition Value) → Prop
  | nil (taken : Nat) : AllMean [] [] taken []
  | cons {b taken t cs vs ts} (h : Bound.Means b taken t)
      (hrest : AllMean cs vs (taken + b.values.length) ts) :
      AllMean (b.condition :: cs) (b.values ++ vs) taken (t :: ts)

variable {f : Nat → Option Value} {taken : Nat} {v : Value} {vs ws : List Value}
variable {d : Dialect} {row : Row} {m : Model} {p : Predicate} {ps : List Predicate}
variable {b : Bound} {t : Condition Value}
variable {cs : List (Condition Nat)} {ts : List (Condition Value)}

theorem Placed.append (h : Placed f taken (vs ++ ws)) :
    Placed f taken vs ∧ Placed f (taken + vs.length) ws := by
  rw [Placed, List.length_append, ← List.range'_append_1, List.map_append, List.map_append,
    Nat.add_right_comm] at h
  exact List.append_inj h (by simp)

theorem placed_singleton : Placed f taken [v] ↔ f (taken + 1) = some v := by
  simp [Placed]

theorem Bound.means_among (taken : Nat) (column : String) (values : List Value) :
    (Bound.among taken column values).Means taken (amongValues column values) := by
  unfold Bound.among amongValues
  split
  · exact ⟨.always false, fun _ _ => rfl⟩
  · rename_i hne
    refine ⟨.among column (by simpa using hne), fun f hf => ?_⟩
    exact congrArg (Condition.among column) hf

theorem bindOperator_means (taken : Nat) (column : String) (operator : Operator)
    (operand : Json) :
    (bindOperator taken column operator operand).Means taken (testOf column operator operand) := by
  have hcompare (c : Comparison) (v : Value) :
      Bound.Means ⟨.compare column c (taken + 1), [v]⟩ taken (.compare column c v) :=
    ⟨.compare .., fun f hf => congrArg (Condition.compare column c) (placed_singleton.1 hf)⟩
  cases operator with
  | «in» =>
    cases operand <;> exact Bound.means_among taken column _
  | isNull =>
    cases operand with
    | bool b => cases b <;> exact ⟨by constructor, fun _ _ => rfl⟩
    | _ => exact ⟨.isNull column, fun _ _ => rfl⟩
  | includes =>
    refine ⟨.like .., fun f hf => ?_⟩
    exact congrArg (Condition.like column) (placed_singleton.1 hf)
  | _ => exact hcompare _ _

def Binds (m : Model) (p : Predicate) : Prop :=
  ∀ {taken b}, bindPredicate m taken p = .ok b → ∃ t, predicateTree m p = some t ∧ b.Means taken t

theorem AllMean.proper (h : AllMean cs vs taken ts) : ∀ c ∈ cs, c.Proper := by
  induction h with
  | nil _ => exact List.forall_mem_nil _
  | cons h _ ih => exact List.forall_mem_cons.2 ⟨h.proper, ih⟩

theorem AllMean.map_eq (h : AllMean cs vs taken ts) (hf : Placed f taken vs) :
    (cs.map Condition.flat).map (Condition.map f) = ts.map (Condition.map some) := by
  induction h with
  | nil _ => rfl
  | cons h _ ih =>
    obtain ⟨hhead, hrest⟩ := hf.append
    simp only [List.map_cons, h.map_eq f hhead, ih hrest]

theorem AllMean.length_eq (h : AllMean cs vs taken ts) : cs.length = ts.length := by
  induction h with
  | nil _ => rfl
  | cons _ _ ih => exact congrArg Nat.succ ih

theorem trees_cons_eq_some_iff :
    predicateTree.trees m (p :: ps) = some ts ↔
      ∃ t, predicateTree m p = some t ∧ ∃ us, predicateTree.trees m ps = some us ∧ t :: us = ts := by
  simp [predicateTree.trees, Option.bind_eq_some_iff]

theorem length_trees (h : predicateTree.trees m ps = some ts) : ts.length = ps.length := by
  induction ps generalizing ts with
  | nil =>
    cases h
    rfl
  | cons p ps ih =>
    obtain ⟨t, _, us, hus, rfl⟩ := trees_cons_eq_some_iff.1 h
    exact congrArg Nat.succ (ih hus)

theorem bindAll_means (hps : ∀ p ∈ ps, Binds m p)
    (h : bindPredicate.bindAll m taken ps = .ok (cs, vs)) :
    ∃ ts, predicateTree.trees m ps = some ts ∧ AllMean cs vs taken ts := by
  induction ps generalizing taken cs vs with
  | nil =>
    cases h
    exact ⟨[], rfl, .nil taken⟩
  | cons p ps ih =>
    obtain ⟨hp, hps⟩ := List.forall_mem_cons.1 hps
    -- the parameters of the rest come behind those of the first
    obtain ⟨b, hb, h⟩ := bind_eq_ok_iff.1 h
    obtain ⟨⟨cs', vs'⟩, hrest, he⟩ := bind_eq_ok_iff.1 h
    cases he
    obtain ⟨t, ht, hmeans⟩ := hp hb
    obtain ⟨ts, hts, hall⟩ := ih hps hrest
    exact ⟨t :: ts, trees_cons_eq_some_iff.2 ⟨t, ht, ts, hts, rfl⟩, .cons hmeans hall⟩

theorem AllMean.ne_nil (h : AllMean cs vs taken ts) (hts : predicateTree.trees m ps = some ts)
    (hne : ps ≠ []) : cs ≠ [] := by
  rw [← List.length_pos_iff, h.length_eq, length_trees hts]
  exact List.length_pos_iff.2 hne

/-- Conditions that mean their trees still do so together. -/
theorem AllMean.join (k : Connective) (h : AllMean cs vs taken ts) (hne : cs ≠ []) :
    Bound.Means ⟨k.condition cs, vs⟩ taken (k.join ts) := by
  refine ⟨.condition k hne h.proper, fun f hf => ?_⟩
  rw [Condition.flat_condition, Condition.map_join, h.map_eq hf, Condition.map_join]

theorem bindPredicate_predicate (k : Connective) (m : Model) (taken : Nat) (ps : List Predicate) :
    bindPredicate m taken (k.predicate ps) =
      if ps.isEmpty then .ok (.plain (.always k.unit))
      else bindPredicate.bindAll m taken ps >>= fun e => .ok ⟨k.condition e.1, e.2⟩ := by
  cases k <;> exact bindPredicate.eq_def m taken _

theorem predicateTree_predicate (k : Connective) (m : Model) (ps : List Predicate) :
    predicateTree m (k.predicate ps) = (predicateTree.trees m ps).map k.join := by
  cases k <;> rfl

theorem binds_predicate (k : Connective) (hps : ∀ p ∈ ps, Binds m p) :
    Binds m (k.predicate ps) := by
  intro taken b h
  rw [bindPredicate_predicate] at h
  rw [predicateTree_predicate]
  split at h
  · rename_i hempty
    cases h
    rw [List.isEmpty_iff.1 hempty]
    refine ⟨k.join [], rfl, ?_⟩
    cases k <;> exact ⟨.always _, fun _ _ => rfl⟩
  · rename_i hne
    obtain ⟨⟨cs, vs⟩, hall, he⟩ := bind_eq_ok_iff.1 h
    cases he
    obtain ⟨ts, hts, hmeans⟩ := bindAll_means hps hall
    have hcs := hmeans.ne_nil hts (by simpa using hne)
    exact ⟨k.join ts, by rw [hts, Option.map_some], hmeans.join k hcs⟩

theorem bindPredicate_means (m : Model) (p : Predicate) : Binds m p := by
  induction p using Predicate.induction with
  | compare field operator operand =>
    intro taken b h
    rw [bindPredicate] at h
    cases hf : m.field? field with
    | none => simp [hf] at h
    | some f =>
      simp only [hf, Except.ok.injEq] at h
      subst h
      exact ⟨_, by simp [predicateTree, hf], bindOperator_means ..⟩
  | and children ih => exact binds_predicate .and ih
  | or children ih => exact binds_predicate .or ih
  | not child ih =>
    intro taken b h
    rw [bindPredicate] at h
    obtain ⟨b', hb, he⟩ := bind_eq_ok_iff.1 h
    cases he
    obtain ⟨t, ht, hmeans⟩ := ih hb
    refine ⟨.not t, by simp [predicateTree, ht], .not hmeans.proper, fun f hf => ?_⟩
    exact congrArg Condition.not (hmeans.map_eq f hf)

theorem value_testOf (d : Dialect) (row : Row) (column : String) (operator : Operator)
    (operand : Json) :
    (testOf column operator operand).value d row = d.test row column operator operand := by
  cases operator with
  | «in» =>
    cases operand with
    | arr items =>
      cases items with
      | nil => rfl
      | cons item items =>
        simp [testOf, amongValues, Condition.value, Dialect.test, Function.comp_def]
    | _ => exact Truth.any_singleton _
  | isNull =>
    cases operand with
    | bool b => cases b <;> rfl
    | _ => rfl
  | includes =>
    simp [testOf, Condition.value, Dialect.test, Dialect.like, d.text_text,
      likeMatches_containsPattern]
  | _ => rfl

/-- A predicate's tree has the predicate's value, wherever the tests are counted from. -/
def Agrees (d : Dialect) (row : Row) (m : Model) (p : Predicate) : Prop :=
  ∀ {t}, predicateTree m p = some t → ∀ n, t.value d row = p.value (fun _ => leafValue d row m) n

theorem values_trees {ts : List (Condition Value)} (hps : ∀ p ∈ ps, Agrees d row m p)
    (h : predicateTree.trees m ps = some ts) (n : Nat) :
    ts.map (Condition.value d row) =
      Predicate.value.values (fun _ => leafValue d row m) n ps := by
  induction ps generalizing ts n with
  | nil =>
    cases h
    rfl
  | cons p ps ih =>
    obtain ⟨hp, hps⟩ := List.forall_mem_cons.1 hps
    obtain ⟨t, ht, us, hus, rfl⟩ := trees_cons_eq_some_iff.1 h
    rw [List.map_cons, hp ht n, ih hps hus (n + p.leaves.length)]
    rfl

theorem agrees_predicate (k : Connective) (hps : ∀ p ∈ ps, Agrees d row m p) :
    Agrees d row m (k.predicate ps) := by
  intro t h n
  rw [predicateTree_predicate] at h
  obtain ⟨ts, hts, rfl⟩ := Option.map_eq_some_iff.1 h
  rw [Condition.value_join, values_trees hps hts n]
  cases k <;> rfl

theorem predicate_agrees (d : Dialect) (row : Row) (m : Model) (p : Predicate) :
    Agrees d row m p := by
  induction p using Predicate.induction with
  | compare field operator operand =>
    intro t h n
    obtain ⟨f, hf, rfl⟩ := Option.map_eq_some_iff.1 h
    simp [Predicate.value, leafValue, hf, value_testOf]
  | and children ih => exact agrees_predicate .and ih
  | or children ih => exact agrees_predicate .or ih
  | not child ih =>
    intro t h n
    obtain ⟨u, hu, rfl⟩ := Option.map_eq_some_iff.1 h
    exact congrArg Truth.not (ih hu n)

end CrudPlan.Sql
