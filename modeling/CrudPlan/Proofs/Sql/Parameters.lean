import CrudPlan.Proofs.Sql.Meaning

namespace CrudPlan

open Sql

/-- The values that a test binds. A test for missing values binds none, and one against a list binds
an item after the other. -/
def Leaf.values (l : Leaf) : List Value :=
  match l.operator, l.operand with
  | .in, .arr items => items.map Value.ofJson
  | .isNull, _ => []
  | .includes, operand => [.text (containsPattern (needleOf operand))]
  | _, operand => [.ofJson operand]

/-- The values that the tests of a predicate bind, from left to right. -/
def Predicate.operands (o : Option Predicate) : List Value :=
  (leaves.leavesOfAll o.toList).flatMap Leaf.values

namespace Sql

def Token.parameter? : Token → Option Nat
  | parameter n => some n
  | _ => none

/-- The parameters of a text are numbered from one on in its order, one for each value. -/
def Statement.Numbered (s : Statement) : Prop :=
  ∃ ts, Lexes s.sql.toList ts ∧ ts.filterMap Token.parameter? = List.range' 1 s.values.length

/-- The operands of a condition's tests, from left to right. -/
def Condition.operands {α : Type} : Condition α → List α
  | .compare _ _ operand => [operand]
  | .among _ operands => operands
  | .like _ pattern => [pattern]
  | .and children => operandsOfAll children
  | .or children => operandsOfAll children
  | .not child => child.operands
  | .always _ | .isNull _ | .isNotNull _ => []
where
  operandsOfAll {α : Type} : List (Condition α) → List α
    | [] => []
    | c :: rest => c.operands ++ operandsOfAll rest

variable {m : Model} {o : Option Predicate} {p : Predicate} {ps : List Predicate} {plan : QueryPlan}
  {s : Statement} {q : Query} {c : Condition Nat} {cs : List (Condition Nat)} {vs : List Value}
  {taken : Nat} {b : Bound} {join : Field} {keys : List Value}

theorem Condition.operandsOfAll_eq_flatMap {α : Type} (cs : List (Condition α)) :
    operands.operandsOfAll cs = cs.flatMap operands := by
  induction cs with
  | nil => rfl
  | cons c cs ih => rw [operands.operandsOfAll, ih, List.flatMap_cons]

theorem filterMap_intercalate {α β : Type} {f : α → Option β} {sep : List α} {xss : List (List α)}
    (hs : sep.filterMap f = []) :
    (sep.intercalate xss).filterMap f = xss.flatMap (List.filterMap f) := by
  induction xss with
  | nil => rfl
  | cons xs xss ih =>
    cases xss with
    | nil => simp
    | cons ys xss =>
      rw [List.intercalate_cons_cons, List.filterMap_append, List.filterMap_append, hs, ih,
        List.append_nil, ← List.flatMap_cons]

theorem parameters_parameterList (ps : List Nat) :
    (parameterList ps).filterMap Token.parameter? = ps := by
  rw [parameterList, filterMap_intercalate rfl, List.flatMap_map]
  exact List.flatMap_singleton' ps

theorem parameters_conditions (w : String)
    (h : ∀ c ∈ cs, c.tokens.filterMap Token.parameter? = c.operands) :
    ([.word w].intercalate (cs.map Condition.tokens)).filterMap Token.parameter? =
      cs.flatMap Condition.operands := by
  rw [filterMap_intercalate rfl, List.flatMap_map]
  exact List.flatMap_congr h

theorem Condition.Proper.parameters (h : c.Proper) :
    c.tokens.filterMap Token.parameter? = c.operands := by
  induction h with
  | among column _ =>
    simp [tokens, operands, Token.parameter?, List.filterMap_cons, parameters_parameterList]
  | and _ _ ih =>
    rw [tokens, operands, tokenLists_eq_map, operandsOfAll_eq_flatMap,
      ← parameters_conditions "AND" ih]
    simp [Token.parameter?, List.filterMap_cons]
  | or _ _ ih =>
    rw [tokens, operands, tokenLists_eq_map, operandsOfAll_eq_flatMap,
      ← parameters_conditions "OR" ih]
    simp [Token.parameter?, List.filterMap_cons]
  | not _ ih => simp [tokens, operands, Token.parameter?, List.filterMap_cons, ih]
  | _ => rfl

theorem parameters_names (names : List String) :
    (namesTokens names).filterMap Token.parameter? = [] := by
  rw [namesTokens, listTokens, filterMap_intercalate rfl, List.flatMap_map]
  exact List.flatMap_eq_nil_iff.2 fun _ _ => rfl

theorem parameters_outputs (outputs : List Output) :
    (listTokens (outputs.map Output.tokens)).filterMap Token.parameter? = [] := by
  rw [listTokens, filterMap_intercalate rfl, List.flatMap_map]
  apply List.flatMap_eq_nil_iff.2
  intro o _
  unfold Output.tokens
  split <;> rfl

theorem parameters_where (h : ∀ c ∈ cs, c.Proper) :
    (whereTokens cs).filterMap Token.parameter? = cs.flatMap Condition.operands := by
  unfold whereTokens
  split
  · rename_i hempty
    rw [List.isEmpty_iff.1 hempty]
    rfl
  · exact parameters_conditions "AND" fun c hc => (h c hc).parameters

theorem parameters_limit (limit offset : Option UInt64) :
    (limitTokens limit offset).filterMap Token.parameter? = [] := by
  unfold limitTokens
  split <;> try split
  all_goals rfl

theorem parameters_window (after : UInt64) (upTo : Option UInt64) :
    (windowTokens after upTo).filterMap Token.parameter? = [] := by
  cases upTo <;> rfl

/-- The parameters of a query are those of its conditions. -/
theorem Query.parameters (q : Query) (h : ∀ c ∈ q.conditions, c.Proper) :
    q.tokens.filterMap Token.parameter? = q.conditions.flatMap Condition.operands := by
  cases q with
  | rows outputs table conditions order limit offset =>
    have hwhere := parameters_where h
    simpa [tokens, orderTokens, Token.parameter?, List.filterMap_cons, parameters_outputs,
      parameters_names, parameters_limit] using hwhere
  | count table conditions =>
    have hwhere := parameters_where h
    simpa [tokens, Token.parameter?, List.filterMap_cons] using hwhere
  | numbered outputs table conditions group key after upTo order =>
    have hwhere := parameters_where h
    simpa [tokens, orderTokens, Token.parameter?, List.filterMap_cons, parameters_outputs,
      parameters_names, parameters_window] using hwhere

/-- Conditions number their parameters from one place on, one for each value. -/
def CountsOn (taken : Nat) (operands : List Nat) (values : List Value) : Prop :=
  operands = List.range' (taken + 1) values.length

theorem CountsOn.append {ns ns' : List Nat} {vs vs' : List Value} (h : CountsOn taken ns vs)
    (h' : CountsOn (taken + vs.length) ns' vs') : CountsOn taken (ns ++ ns') (vs ++ vs') := by
  unfold CountsOn at h h' ⊢
  rw [h, h', List.length_append, ← List.range'_append_1, Nat.add_right_comm]

theorem Bound.countsOn_among (taken : Nat) (column : String) (values : List Value) :
    CountsOn taken (among taken column values).condition.operands
        (among taken column values).values ∧
      (among taken column values).values = values := by
  unfold among
  split
  · rename_i hempty
    exact ⟨rfl, (List.isEmpty_iff.1 hempty).symm⟩
  · exact ⟨rfl, rfl⟩

theorem bindOperator_countsOn (taken : Nat) (column field : String) (operator : Operator)
    (operand : Json) :
    CountsOn taken (bindOperator taken column operator operand).condition.operands
        (bindOperator taken column operator operand).values ∧
      (bindOperator taken column operator operand).values =
        Leaf.values ⟨field, operator, operand⟩ := by
  cases operator with
  | «in» => cases operand <;> exact Bound.countsOn_among taken column _
  | isNull =>
    cases operand with
    | bool b => cases b <;> exact ⟨rfl, rfl⟩
    | _ => exact ⟨rfl, rfl⟩
  | _ => exact ⟨rfl, rfl⟩

/-- The condition of a predicate counts on, and binds the values of the tests. -/
def BindsValues (m : Model) (p : Predicate) : Prop :=
  ∀ {taken b}, bindPredicate m taken p = .ok b →
    CountsOn taken b.condition.operands b.values ∧ b.values = p.leaves.flatMap Leaf.values

theorem bindAll_bindsValues (h : ∀ p ∈ ps, BindsValues m p)
    (hb : bindPredicate.bindAll m taken ps = .ok (cs, vs)) :
    CountsOn taken (Condition.operands.operandsOfAll cs) vs ∧
      vs = (Predicate.leaves.leavesOfAll ps).flatMap Leaf.values := by
  induction ps generalizing taken cs vs with
  | nil =>
    cases hb
    exact ⟨rfl, rfl⟩
  | cons p ps ih =>
    obtain ⟨hp, h⟩ := List.forall_mem_cons.1 h
    obtain ⟨b, hfirst, hb⟩ := bind_eq_ok_iff.1 hb
    obtain ⟨⟨cs', vs'⟩, hrest, he⟩ := bind_eq_ok_iff.1 hb
    cases he
    obtain ⟨hcount, hvalues⟩ := hp hfirst
    obtain ⟨hcount', hvalues'⟩ := ih h hrest
    refine ⟨hcount.append hcount', ?_⟩
    rw [Predicate.leaves.leavesOfAll, List.flatMap_append, ← hvalues, ← hvalues']

/-- A combination of conditions counts on through its children; without any there is nothing to
count. -/
theorem bindsValues_predicate (k : Connective) (h : ∀ p ∈ ps, BindsValues m p) :
    BindsValues m (k.predicate ps) := by
  intro taken b hb
  rw [bindPredicate_predicate] at hb
  rw [k.leaves_predicate]
  split at hb
  · rename_i hempty
    cases hb
    rw [List.isEmpty_iff.1 hempty]
    exact ⟨rfl, rfl⟩
  · obtain ⟨⟨cs, vs⟩, hall, he⟩ := bind_eq_ok_iff.1 hb
    cases he
    have hoperands : (k.condition cs).operands = Condition.operands.operandsOfAll cs := by
      cases k <;> rfl
    rw [hoperands]
    exact bindAll_bindsValues h hall

theorem bindPredicate_bindsValues (m : Model) (p : Predicate) : BindsValues m p := by
  induction p using Predicate.induction with
  | compare field operator operand =>
    intro taken b h
    rw [bindPredicate] at h
    cases hf : m.field? field with
    | none => simp [hf] at h
    | some f =>
      simp only [hf, Except.ok.injEq] at h
      subst h
      simpa [Predicate.leaves] using bindOperator_countsOn taken f.columnName field operator operand
  | and children ih => exact bindsValues_predicate .and ih
  | or children ih => exact bindsValues_predicate .or ih
  | not child ih =>
    intro taken b h
    rw [bindPredicate] at h
    obtain ⟨b', hb, he⟩ := bind_eq_ok_iff.1 h
    cases he
    obtain ⟨hcount, hvalues⟩ := ih hb
    exact ⟨hcount, hvalues⟩

theorem bindOptional_bindsValues (h : bindOptional m taken o = .ok (cs, vs)) :
    CountsOn taken (cs.flatMap Condition.operands) vs ∧ vs = Predicate.operands o := by
  cases o with
  | none =>
    cases h
    exact ⟨rfl, rfl⟩
  | some p =>
    rw [bindOptional] at h
    split at h
    · cases h
    · rename_i b hb
      cases h
      obtain ⟨hcount, hvalues⟩ := bindPredicate_bindsValues m p hb
      simpa [Predicate.operands, Predicate.leaves.leavesOfAll] using ⟨hcount, hvalues⟩

theorem Query.numbered_text (q : Query) (h : ∀ c ∈ q.conditions, c.Proper)
    (hcount : CountsOn 0 (q.conditions.flatMap Condition.operands) vs) :
    Statement.Numbered ⟨q.text, vs⟩ :=
  ⟨_, q.lexes h, (q.parameters h).trans hcount⟩

theorem Query.numbered_of_bindOptional (q : Query)
    (h : bindOptional m 0 o = .ok (q.conditions, vs)) :
    Statement.Numbered ⟨q.text, vs⟩ ∧ vs = Predicate.operands o := by
  obtain ⟨_, _, hmeans⟩ := bindOptional_means h
  obtain ⟨hcount, hvalues⟩ := bindOptional_bindsValues h
  exact ⟨q.numbered_text hmeans.proper hcount, hvalues⟩

theorem selectRows_numbered (h : m.selectRows plan = .ok s) :
    s.Numbered ∧ s.values = Predicate.operands plan.predicate := by
  obtain ⟨⟨cs, vs⟩, hbind, he⟩ := bind_eq_ok_iff.1 h
  cases he
  exact Query.numbered_of_bindOptional _ hbind

theorem countRows_numbered (h : m.countRows plan = .ok s) :
    s.Numbered ∧ s.values = Predicate.operands plan.predicate := by
  obtain ⟨⟨cs, vs⟩, hbind, he⟩ := bind_eq_ok_iff.1 h
  cases he
  exact Query.numbered_of_bindOptional _ hbind

theorem relatedStatement_numbered (h : m.relatedStatement join plan keys = .ok s) :
    s.Numbered ∧ s.values = keys ++ Predicate.operands plan.predicate := by
  obtain ⟨⟨cs, vs⟩, hbind, he⟩ := bind_eq_ok_iff.1 h
  cases he
  obtain ⟨_, _, hmeans⟩ := bindOptional_means hbind
  obtain ⟨hcount, hvalues⟩ := bindOptional_bindsValues hbind
  obtain ⟨hkeys, hkeyvalues⟩ := Bound.countsOn_among 0 join.columnName keys
  have hproper := (Bound.means_among 0 join.columnName keys).proper
  -- the keys have the first parameters, and the predicate goes on behind them
  rw [← Nat.zero_add (List.length _)] at hcount
  refine ⟨Query.numbered_text _ ?_ ?_, ?_⟩
  · rw [conditions_relatedQuery]
    exact List.forall_mem_cons.2 ⟨hproper, hmeans.proper⟩
  · rw [conditions_relatedQuery, List.flatMap_cons]
    exact hkeys.append hcount
  · exact congrArg₂ (· ++ ·) hkeyvalues hvalues

/-- The parameters in the text of a statement are `?1`, `?2` and so on up to the number of its
values, each once and in this order; the values are the parent keys, if there are any, and then the
operands of the predicate's tests. -/
theorem parameters_match_values :
    (∀ (m : Model) (plan : QueryPlan) (s : Statement),
      m.selectRows plan = .ok s ∨ m.countRows plan = .ok s →
        s.Numbered ∧ s.values = Predicate.operands plan.predicate) ∧
    ∀ (r : Registry) (x : Relation) (plan : QueryPlan) (keys : List Value) (s : Statement),
      r.selectRelated x plan keys = .ok s →
        s.Numbered ∧ s.values = keys ++ Predicate.operands plan.predicate := by
  refine ⟨fun m plan s h => h.elim selectRows_numbered countRows_numbered, ?_⟩
  intro r x plan keys s h
  rw [Registry.selectRelated] at h
  split at h
  · exact relatedStatement_numbered h
  · cases h

def labelled : Predicate :=
  .and [.compare "label" .in (.arr [.str "a", .str "b"]), .compare "id" .isNull (.bool false),
    .not (.compare "label" .includes (.str "50%"))]

theorem parameters_match_values_tag : ∃ s,
    Registry.selectRelated ⟨[tag]⟩ sameLabel { predicate := some labelled, offset := some 2 }
      [.text "new", .null] = .ok s ∧ s.Numbered ∧
    s.values = [.text "new", .null, .text "a", .text "b", .text "%50\\%%"] := by
  obtain ⟨hnumbered, hvalues⟩ := parameters_match_values.2 ⟨[tag]⟩ sameLabel
    { predicate := some labelled, offset := some 2 } [.text "new", .null] _ rfl
  exact ⟨_, rfl, hnumbered, hvalues.trans (by decide +kernel)⟩

end Sql

end CrudPlan
