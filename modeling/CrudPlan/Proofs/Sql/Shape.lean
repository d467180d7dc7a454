import CrudPlan.Proofs.Sql.Meaning

namespace CrudPlan

open Sql

/-- How many alternatives an operand gives; one that is no list is the only alternative. -/
def Json.alternatives : Json → Nat
  | .arr items => items.length
  | _ => 1

/-- Operands that an operator has the same test for: as many alternatives for `in`, and the same
answer to whether a value has to be there for `isNull`. -/
def Operator.SameTest (o : Operator) (a b : Json) : Prop :=
  match o with
  | .in => a.alternatives = b.alternatives
  | .isNull => a = .bool false ↔ b = .bool false
  | _ => True

/-- The same tree of the same tests, on operands that may be others. -/
inductive Predicate.SameShape : Predicate → Predicate → Prop
  | compare {field : String} {operator : Operator} {a b : Json} (h : operator.SameTest a b) :
      SameShape (.compare field operator a) (.compare field operator b)
  | and {ps qs : List Predicate} (h : List.Forall₂ SameShape ps qs) : SameShape (.and ps) (.and qs)
  | or {ps qs : List Predicate} (h : List.Forall₂ SameShape ps qs) : SameShape (.or ps) (.or qs)
  | not {p q : Predicate} (h : SameShape p q) : SameShape (.not p) (.not q)

/-- The same page of rows, by predicates of the same shape. -/
structure QueryPlan.SameShape (plan plan' : QueryPlan) : Prop where
  limit : plan.limit = plan'.limit
  offset : plan.offset = plan'.offset
  predicate : Option.Rel Predicate.SameShape plan.predicate plan'.predicate

namespace Sql

/-- One condition, with as many values on both sides. -/
def Bound.Alike (b b' : Bound) : Prop :=
  b.condition = b'.condition ∧ b.values.length = b'.values.length

def AlikeAll (b b' : List (Condition Nat) × List Value) : Prop :=
  b.1 = b'.1 ∧ b.2.length = b'.2.length

/-- One text, with as many values on both sides. -/
def Statement.Alike (s s' : Statement) : Prop :=
  s.sql = s'.sql ∧ s.values.length = s'.values.length

variable {m : Model} {o o' : Option Predicate} {p q : Predicate} {ps qs : List Predicate}
  {plan plan' : QueryPlan} {keys keys' : List Value}

theorem isEmpty_congr {α β : Type} {xs : List α} {ys : List β} (h : xs.length = ys.length) :
    xs.isEmpty = ys.isEmpty := by
  rw [Bool.eq_iff_iff, List.isEmpty_iff_length_eq_zero, List.isEmpty_iff_length_eq_zero, h]

theorem Bound.alike_among (taken : Nat) (column : String) (h : keys.length = keys'.length) :
    (among taken column keys).Alike (among taken column keys') := by
  unfold among
  rw [isEmpty_congr h, h]
  split
  · exact ⟨rfl, rfl⟩
  · exact ⟨rfl, h⟩

theorem bindOperator_in (taken : Nat) (column : String) (operand : Json) :
    ∃ values, bindOperator taken column .in operand = Bound.among taken column values ∧
      values.length = operand.alternatives := by
  cases operand with
  | arr items => exact ⟨_, rfl, List.length_map _⟩
  | _ => exact ⟨_, rfl, rfl⟩

theorem bindOperator_isNull (taken : Nat) (column : String) {operand : Json}
    (h : operand ≠ .bool false) :
    bindOperator taken column .isNull operand = .plain (.isNull column) := by
  unfold bindOperator
  dsimp only
  split
  · exact absurd rfl h
  · rfl

theorem alike_bindOperator (taken : Nat) (column : String) {operator : Operator} {a b : Json}
    (h : operator.SameTest a b) :
    (bindOperator taken column operator a).Alike (bindOperator taken column operator b) := by
  cases operator with
  | «in» =>
    obtain ⟨values, he, hlength⟩ := bindOperator_in taken column a
    obtain ⟨values', he', hlength'⟩ := bindOperator_in taken column b
    rw [he, he']
    exact Bound.alike_among taken column (hlength.trans (h.trans hlength'.symm))
  | isNull =>
    by_cases ha : a = .bool false
    · rw [ha, h.1 ha]
      exact ⟨rfl, rfl⟩
    · rw [bindOperator_isNull taken column ha, bindOperator_isNull taken column (mt h.2 ha)]
      exact ⟨rfl, rfl⟩
  | _ => exact ⟨rfl, rfl⟩

/-- Predicates of the shape of this one have its condition, or all fail as it does. -/
def DependsOnShape (m : Model) (p : Predicate) : Prop :=
  ∀ q taken, p.SameShape q → SameOutcome Bound.Alike (bindPredicate m taken p)
    (bindPredicate m taken q)

theorem bindAll_dependsOnShape (h : ∀ p ∈ ps, DependsOnShape m p)
    (hs : List.Forall₂ Predicate.SameShape ps qs) (taken : Nat) :
    SameOutcome AlikeAll (bindPredicate.bindAll m taken ps)
      (bindPredicate.bindAll m taken qs) := by
  induction hs generalizing taken with
  | nil => exact .ok ⟨rfl, rfl⟩
  | cons hpq _ ih =>
    obtain ⟨hp, h⟩ := List.forall_mem_cons.1 h
    apply (hp _ taken hpq).bind
    intro b b' hb
    -- as many values are bound on both sides, so both go on at the same number
    rw [hb.2]
    apply (ih h _).bind
    intro cs cs' hcs
    refine .ok ⟨congrArg₂ List.cons hb.1 hcs.1, ?_⟩
    rw [List.length_append, List.length_append, hb.2, hcs.2]

theorem dependsOnShape_predicate (k : Connective) (h : ∀ p ∈ ps, DependsOnShape m p)
    (hs : List.Forall₂ Predicate.SameShape ps qs) (taken : Nat) :
    SameOutcome Bound.Alike (bindPredicate m taken (k.predicate ps))
      (bindPredicate m taken (k.predicate qs)) := by
  rw [bindPredicate_predicate, bindPredicate_predicate, isEmpty_congr hs.length_eq]
  split
  · exact .ok ⟨rfl, rfl⟩
  · apply (bindAll_dependsOnShape h hs taken).bind
    intro cs cs' hcs
    exact .ok ⟨congrArg k.condition hcs.1, hcs.2⟩

theorem bindPredicate_dependsOnShape (m : Model) (p : Predicate) : DependsOnShape m p := by
  induction p using Predicate.induction with
  | compare field operator operand =>
    intro q taken hs
    cases hs with
    | compare h =>
      rw [bindPredicate, bindPredicate]
      cases m.field? field with
      | none => exact .error _
      | some f => exact .ok (alike_bindOperator taken f.columnName h)
  | and children ih =>
    intro q taken hs
    cases hs with
    | and hs => exact dependsOnShape_predicate .and ih hs taken
  | or children ih =>
    intro q taken hs
    cases hs with
    | or hs => exact dependsOnShape_predicate .or ih hs taken
  | not child ih =>
    intro q taken hs
    cases hs with
    | not hs =>
      rw [bindPredicate, bindPredicate]
      apply (ih _ taken hs).bind
      intro b b' hb
      exact .ok ⟨congrArg Condition.not hb.1, hb.2⟩

theorem bindOptional_some (m : Model) (taken : Nat) (p : Predicate) :
    bindOptional m taken (some p) = (bindPredicate m taken p).mapError .filter >>= fun b =>
      .ok ([b.condition], b.values) := by
  rw [bindOptional]
  cases bindPredicate m taken p <;> rfl

theorem bindOptional_sameOutcome (m : Model) (taken : Nat)
    (h : Option.Rel Predicate.SameShape o o') :
    SameOutcome AlikeAll (bindOptional m taken o) (bindOptional m taken o') := by
  cases h with
  | none => exact .ok ⟨rfl, rfl⟩
  | @some p q h =>
    rw [bindOptional_some, bindOptional_some]
    apply ((bindPredicate_dependsOnShape m p q taken h).mapError _).bind
    intro b b' hb
    exact .ok ⟨congrArg (fun c => [c]) hb.1, hb.2⟩

theorem selectRows_sameOutcome (m : Model) (h : plan.SameShape plan') :
    SameOutcome Statement.Alike (m.selectRows plan) (m.selectRows plan') := by
  rw [Model.selectRows, Model.selectRows, h.limit, h.offset]
  refine (bindOptional_sameOutcome m 0 h.predicate).bind ?_
  rintro ⟨conditions, values⟩ ⟨_, values'⟩ ⟨rfl, hlength⟩
  exact .ok ⟨rfl, hlength⟩

theorem countRows_sameOutcome (m : Model) (h : plan.SameShape plan') :
    SameOutcome Statement.Alike (m.countRows plan) (m.countRows plan') := by
  refine (bindOptional_sameOutcome m 0 h.predicate).bind ?_
  rintro ⟨conditions, values⟩ ⟨_, values'⟩ ⟨rfl, hlength⟩
  exact .ok ⟨rfl, hlength⟩

theorem relatedStatement_sameOutcome (m : Model) (join : Field) (h : plan.SameShape plan')
    (hkeys : keys.length = keys'.length) :
    SameOutcome Statement.Alike (m.relatedStatement join plan keys)
      (m.relatedStatement join plan' keys') := by
  obtain ⟨hcondition, hvalues⟩ := Bound.alike_among 0 join.columnName hkeys
  have hquery (conditions : List (Condition Nat)) :
      m.relatedQuery join plan conditions = m.relatedQuery join plan' conditions := by
    rw [Model.relatedQuery, Model.relatedQuery, h.limit, h.offset]
  rw [Model.relatedStatement, Model.relatedStatement, hcondition, hvalues]
  refine (bindOptional_sameOutcome m _ h.predicate).bind ?_
  rintro ⟨conditions, values⟩ ⟨_, values'⟩ ⟨rfl, hlength⟩
  refine .ok ⟨congrArg Query.text (hquery _), ?_⟩
  rw [List.length_append, List.length_append, hvalues, hlength]

/-- Plans of the same shape have statements of the same text with as many values, or fail alike,
whatever their operands are and whatever the parent keys are, as long as there are as many. -/
theorem statements_hide_values :
    (∀ (m : Model) (plan plan' : QueryPlan), plan.SameShape plan' →
      SameOutcome Statement.Alike (m.selectRows plan) (m.selectRows plan') ∧
      SameOutcome Statement.Alike (m.countRows plan) (m.countRows plan')) ∧
    ∀ (r : Registry) (x : Relation) (plan plan' : QueryPlan) (keys keys' : List Value),
      plan.SameShape plan' → keys.length = keys'.length →
        SameOutcome Statement.Alike (r.selectRelated x plan keys)
          (r.selectRelated x plan' keys') := by
  refine ⟨fun m plan plan' h => ⟨selectRows_sameOutcome m h, countRows_sameOutcome m h⟩, ?_⟩
  intro r x plan plan' keys keys' h hkeys
  rw [Registry.selectRelated, Registry.selectRelated]
  split
  · exact relatedStatement_sameOutcome _ _ h hkeys
  · exact .error _

def searched (keys : Json) (needle : String) (missing : Json) : QueryPlan where
  offset := some 2
  predicate := some (.and [.compare "id" .in keys, .not (.compare "label" .includes (.str needle)),
    .compare "label" .isNull missing])

def plainSearch : QueryPlan := searched (.arr [.ofNat 1]) "new" .null

/-- The same search, with operands that try to be text of the statement. -/
def hostileSearch : QueryPlan := searched (.str "1) OR (1 = 1") "' OR ''='" (.bool true)

theorem sameShape_hostileSearch : plainSearch.SameShape hostileSearch where
  limit := rfl
  offset := rfl
  predicate := .some (.and (.cons (.compare rfl) (.cons (.not (.compare trivial))
    (.cons (.compare (iff_of_false nofun nofun)) .nil))))

theorem statements_hide_values_tag : ∃ s s' t t',
    tag.selectRows plainSearch = .ok s ∧ tag.selectRows hostileSearch = .ok s' ∧
    s.Alike s' ∧ s.values ≠ s'.values ∧
    Registry.selectRelated ⟨[tag]⟩ sameLabel plainSearch [.text "a"] = .ok t ∧
    Registry.selectRelated ⟨[tag]⟩ sameLabel hostileSearch [.text "?9"] = .ok t' ∧
    t.Alike t' ∧ t.values ≠ t'.values := by
  have hrows := (statements_hide_values.1 tag _ _ sameShape_hostileSearch).1
  have hrelated := statements_hide_values.2 ⟨[tag]⟩ sameLabel _ _ [.text "a"] [.text "?9"]
    sameShape_hostileSearch rfl
  refine ⟨_, _, _, _, rfl, rfl, hrows.of_ok, ?_, rfl, rfl, hrelated.of_ok, ?_⟩
  · decide
  · decide

end Sql

end CrudPlan
