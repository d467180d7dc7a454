import CrudPlan.Proofs.Sql.Binding
import CrudPlan.Proofs.Sql.Clause
import CrudPlan.Sql.Render

namespace CrudPlan.Sql

/-- The value of a parameter; they are counted from one. -/
def parameter (values : List Value) : Nat → Option Value
  | 0 => none
  | n + 1 => values[n]?

/-- One condition and no other is read, and with the values of its parameters it is the given
tree. -/
def ReadsOnly (reads : Condition Nat → Prop) (values : List Value) (t : Condition Value) : Prop :=
  ∃ c, (∀ c', reads c' ↔ c' = c) ∧ c.map (parameter values) = t.map some

/-- The condition of a statement is the conjunction of trees, and it has none without any. -/
def Restricts (s : Statement) : List (Condition Value) → Prop
  | [] => LacksWhere s.sql
  | t :: ts => ReadsOnly (ReadsWhere s.sql) s.values (conjoin (t :: ts))

def optionalValue (d : Dialect) (row : Row) (m : Model) (o : Option Predicate) : Truth :=
  o.elim .yes (predicateValue d row m)

variable {m : Model} {o : Option Predicate} {plan : QueryPlan} {s : Statement}
variable {taken : Nat} {q : Query} {cs : List (Condition Nat)} {vs : List Value}
variable {ts : List (Condition Value)}
variable {d : Dialect} {row : Row}

theorem placed_parameter (earlier vs : List Value) :
    Placed (parameter (earlier ++ vs)) earlier.length vs := by
  apply List.ext_getElem (by simp)
  intro i hi _
  have hlt : i < vs.length := by simpa using hi
  have hn : earlier.length + 1 + 1 * i = earlier.length + i + 1 := by omega
  simp only [List.getElem_map, List.getElem_range', hn]
  simp [parameter, hlt]

theorem Bound.Means.readsOnly {b : Bound} {t : Condition Value} {earlier : List Value}
    (h : b.Means earlier.length t) :
    ReadsOnly (ReadsCondition b.condition.text) (earlier ++ b.values) t := by
  refine ⟨b.condition.flat, fun c => ⟨fun hc => hc.unique h.proper.readsCondition, ?_⟩, ?_⟩
  · rintro rfl
    exact h.proper.readsCondition
  · exact h.map_eq _ (placed_parameter earlier b.values)

theorem AllMean.restricts (h : AllMean q.conditions vs 0 ts)
    (hnone : q.conditions = [] → LacksWhere q.text) : Restricts ⟨q.text, vs⟩ ts := by
  cases ts with
  | nil => exact hnone (List.length_eq_zero_iff.1 h.length_eq)
  | cons t ts =>
    have hne : q.conditions ≠ [] := by
      rw [← List.length_pos_iff, h.length_eq]
      exact Nat.succ_pos _
    have hreads := q.readsWhere h.proper hne
    have hplaced : Placed (parameter vs) 0 vs := placed_parameter [] vs
    refine ⟨_, fun c => ⟨fun hc => hc.unique hreads, ?_⟩, ?_⟩
    · rintro rfl
      exact hreads
    · rw [Condition.map_conjoin, Condition.map_conjoin, ← h.map_eq hplaced]

theorem bindOptional_means (h : bindOptional m taken o = .ok (cs, vs)) :
    ∃ ts, predicateTree.trees m o.toList = some ts ∧ AllMean cs vs taken ts := by
  cases o with
  | none =>
    cases h
    exact ⟨[], rfl, .nil taken⟩
  | some p =>
    rw [bindOptional] at h
    split at h
    · cases h
    · rename_i b hb
      cases h
      obtain ⟨t, ht, hmeans⟩ := bindPredicate_means m p hb
      refine ⟨[t], trees_cons_eq_some_iff.2 ⟨t, ht, [], rfl, rfl⟩, ?_⟩
      have hall := AllMean.cons hmeans (.nil _)
      rwa [List.append_nil] at hall

theorem value_optional (h : predicateTree.trees m o.toList = some ts) :
    (conjoin ts).value d row = optionalValue d row m o := by
  have hvalues := values_trees (fun p _ => predicate_agrees d row m p) h 0
  rw [Condition.value_conjoin, hvalues]
  cases o with
  | none => rfl
  | some p => exact Truth.all_singleton _

theorem value_amongValues (column : String) (keys : List Value) :
    (amongValues column keys).value d row = .any (keys.map (d.compare row column .equal)) := by
  cases keys <;> rfl

theorem conditions_relatedQuery (m : Model) (join : Field) (plan : QueryPlan)
    (cs : List (Condition Nat)) : (m.relatedQuery join plan cs).conditions = cs := by
  unfold Model.relatedQuery
  split <;> rfl

theorem restricts_of_bindOptional (f : List (Condition Nat) → Query)
    (hf : ∀ cs, (f cs).conditions = cs) (hnone : LacksWhere (f []).text)
    (h : (bindOptional m 0 o >>= fun e => .ok ⟨(f e.1).text, e.2⟩) = .ok s) :
    ∃ ts, predicateTree.trees m o.toList = some ts ∧ Restricts s ts := by
  obtain ⟨⟨cs, vs⟩, hbind, he⟩ := bind_eq_ok_iff.1 h
  cases he
  obtain ⟨ts, hts, hmeans⟩ := bindOptional_means hbind
  rw [← hf cs] at hmeans
  refine ⟨ts, hts, hmeans.restricts fun hnil => ?_⟩
  rwa [← hf cs, hnil]

theorem selectRows_restricts (h : m.selectRows plan = .ok s) :
    ∃ ts, predicateTree.trees m plan.predicate.toList = some ts ∧ Restricts s ts :=
  restricts_of_bindOptional
    (.rows m.outputs m.tableName · [m.primaryKey.columnName] plan.limit plan.offset) (fun _ => rfl)
    (Query.lacksWhere_rows ..) h

theorem countRows_restricts (h : m.countRows plan = .ok s) :
    ∃ ts, predicateTree.trees m plan.predicate.toList = some ts ∧ Restricts s ts :=
  restricts_of_bindOptional (.count m.tableName) (fun _ => rfl) (Query.lacksWhere_count _) h

theorem relatedStatement_means {join : Field} {keys : List Value}
    (h : m.relatedStatement join plan keys = .ok s) :
    ∃ cs ts, predicateTree.trees m plan.predicate.toList = some ts ∧
      s.sql = (m.relatedQuery join plan cs).text ∧
      AllMean cs s.values 0 (amongValues join.columnName keys :: ts) := by
  obtain ⟨⟨cs, vs⟩, hbind, he⟩ := bind_eq_ok_iff.1 h
  cases he
  obtain ⟨ts, hts, hmeans⟩ := bindOptional_means hbind
  have hkeys := Bound.means_among 0 join.columnName keys
  rw [← Nat.zero_add (List.length _)] at hmeans
  exact ⟨_, ts, hts, rfl, .cons hkeys hmeans⟩

theorem relatedStatement_restricts {join : Field} {keys : List Value}
    (h : m.relatedStatement join plan keys = .ok s) :
    ∃ ts, predicateTree.trees m plan.predicate.toList = some ts ∧
      Restricts s (amongValues join.columnName keys :: ts) := by
  obtain ⟨cs, ts, hts, hsql, hall⟩ := relatedStatement_means h
  obtain ⟨sql, values⟩ := s
  cases hsql
  rw [← conditions_relatedQuery m join plan cs] at hall
  refine ⟨ts, hts, hall.restricts fun hnil => ?_⟩
  rw [hnil] at hall
  cases hall

/-- The text of every condition reads back as one condition, the tree of the predicate, and so does
the condition of every statement; for related rows it is the conjunction with the membership of the
key. The value on a row is that of the predicate. -/
theorem conditions_mean_predicates (m : Model) :
    (∀ (p : Predicate) (earlier : List Value) (b : Bound),
      bindPredicate m earlier.length p = .ok b →
        ∃ t, predicateTree m p = some t ∧
          ReadsOnly (ReadsCondition b.condition.text) (earlier ++ b.values) t ∧
          ∀ d row, t.value d row = predicateValue d row m p) ∧
    (∀ (plan : QueryPlan) (s : Statement),
      m.selectRows plan = .ok s ∨ m.countRows plan = .ok s →
        ∃ ts, predicateTree.trees m plan.predicate.toList = some ts ∧ Restricts s ts ∧
          ∀ d row, (conjoin ts).value d row = optionalValue d row m plan.predicate) ∧
    ∀ (r : Registry) (relation : Relation) (plan : QueryPlan) (keys : List Value) (s : Statement),
      r.foreignModel? relation = some m → r.selectRelated relation plan keys = .ok s →
        ∃ own join ts, r.joinFields? relation = some (own, join) ∧
          predicateTree.trees m plan.predicate.toList = some ts ∧
          Restricts s (amongValues join.columnName keys :: ts) ∧
          ∀ d row, (conjoin (amongValues join.columnName keys :: ts)).value d row =
            .and (.any (keys.map (d.compare row join.columnName .equal)))
              (optionalValue d row m plan.predicate) := by
  refine ⟨fun p earlier b h => ?_, fun plan s h => ?_, fun r relation plan keys s hm h => ?_⟩
  · obtain ⟨t, ht, hmeans⟩ := bindPredicate_means m p h
    exact ⟨t, ht, hmeans.readsOnly, fun d row => predicate_agrees d row m p ht 0⟩
  · obtain ⟨ts, hts, hs⟩ := h.elim selectRows_restricts countRows_restricts
    exact ⟨ts, hts, hs, fun d row => value_optional hts⟩
  · rw [Registry.selectRelated] at h
    split at h
    · rename_i foreign _ _ join hforeign hjoin
      cases hm.symm.trans hforeign
      obtain ⟨ts, hts, hs⟩ := relatedStatement_restricts h
      refine ⟨_, join, ts, hjoin, hts, hs, fun d row => ?_⟩
      rw [Condition.value_conjoin, List.map_cons, ← value_optional hts, Condition.value_conjoin,
        value_amongValues]
      rfl
    · cases h

def sameLabel : Relation := ⟨0, "same", 0, .many, false, "label", "label"⟩

/-- A model with quotes, a keyword and a question mark in a name. -/
def tag : Model :=
  let key : Field := ⟨"id", .serial, "id", true, false, true⟩
  let label : Field := ⟨"label", .text, "the \"label\" OR ?2", false, true, false⟩
  ⟨0, "tag", "tag", [key, label], key, [sameLabel]⟩

def unlabelled : Predicate :=
  .or [.not (.and []), .and [.compare "label" .isNull (.bool true)],
    .not (.or [.compare "label" .includes (.str "50%"), .compare "id" .in (.arr [])])]

theorem conditions_mean_predicates_tag :
    (∃ b t, bindPredicate tag 1 unlabelled = .ok b ∧ b.values = [.text "%50\\%%"] ∧
      b.condition.text = "(NOT (1 = 1) OR (\"the \"\"label\"\" OR ?2\" IS NULL) OR " ++
        "NOT ((\"the \"\"label\"\" OR ?2\" LIKE ?2 ESCAPE '\\' OR 1 = 0)))" ∧
      ReadsOnly (ReadsCondition b.condition.text) (Value.null :: b.values) t) ∧
    (∃ s ts, tag.selectRows { predicate := some unlabelled } = .ok s ∧ Restricts s ts) ∧
    ∃ s ts, Registry.selectRelated ⟨[tag]⟩ sameLabel
        { predicate := some unlabelled, offset := some 2 } [.text "new", .null] = .ok s ∧
      Restricts s (.among "the \"label\" OR ?2" [.text "new", .null] :: ts) := by
  obtain ⟨hcondition, hstatement, hrelated⟩ := conditions_mean_predicates tag
  refine ⟨?_, ?_, ?_⟩
  · obtain ⟨t, _, ht, _⟩ := hcondition unlabelled [.null] _ rfl
    exact ⟨_, t, rfl, by decide +kernel, by decide +kernel, ht⟩
  · obtain ⟨ts, _, hts, _⟩ := hstatement { predicate := some unlabelled } _ (.inl rfl)
    exact ⟨_, ts, rfl, hts⟩
  · obtain ⟨_, _, ts, hjoin, _, hts, _⟩ := hrelated ⟨[tag]⟩ sameLabel
      { predicate := some unlabelled, offset := some 2 } [.text "new", .null] _ rfl rfl
    cases hjoin
    exact ⟨_, ts, rfl, hts⟩

end CrudPlan.Sql
