import CrudPlan.Proofs.Request.Scope
import CrudPlan.Proofs.Schema.Registry
import CrudPlan.Proofs.Sql.Binding
import CrudPlan.Sql.Render

namespace CrudPlan

open Sql

variable {m : Model} {o : Option Predicate} {p : Predicate} {ps : List Predicate} {plan : QueryPlan}
  {r : Registry} {x : Relation} {taken : Nat} {field : String} {e : FilterError}
  {outcome : Except PlanError Statement}

theorem Model.hasField_iff : m.hasField field ↔ ∃ f, m.field? field = some f :=
  Option.isSome_iff_exists

/-- The first test of a field that the model does not have. -/
def Model.firstForeign? (m : Model) (ls : List Leaf) : Option Leaf :=
  ls.find? fun l => !m.hasField l.field

theorem Model.firstForeign?_eq_none_iff {ls : List Leaf} :
    m.firstForeign? ls = none ↔ ∀ l ∈ ls, m.hasField l.field := by
  simp [firstForeign?]

theorem Model.firstForeign?_append (ls ls' : List Leaf) :
    m.firstForeign? (ls ++ ls') = (m.firstForeign? ls).or (m.firstForeign? ls') :=
  List.find?_append

namespace Sql

/-- A predicate has a condition exactly if its tests are on fields of the model. -/
def HasCondition (m : Model) (p : Predicate) : Prop :=
  ∀ taken, (∃ b, bindPredicate m taken p = .ok b) ↔ ∀ l ∈ p.leaves, m.hasField l.field

theorem exists_bindAll_iff (taken : Nat) (h : ∀ p ∈ ps, HasCondition m p) :
    (∃ b, bindPredicate.bindAll m taken ps = .ok b) ↔
      ∀ l ∈ Predicate.leaves.leavesOfAll ps, m.hasField l.field := by
  induction ps generalizing taken with
  | nil => simp [bindPredicate.bindAll, Predicate.leaves.leavesOfAll]
  | cons p ps ih =>
    obtain ⟨hp, h⟩ := List.forall_mem_cons.1 h
    rw [Predicate.leaves.leavesOfAll, List.forall_mem_append, ← hp taken]
    constructor
    · rintro ⟨b, hb⟩
      obtain ⟨first, hfirst, hb⟩ := bind_eq_ok_iff.1 hb
      obtain ⟨rest, hrest, _⟩ := bind_eq_ok_iff.1 hb
      exact ⟨⟨first, hfirst⟩, (ih _ h).1 ⟨rest, hrest⟩⟩
    · rintro ⟨⟨first, hfirst⟩, hknown⟩
      obtain ⟨rest, hrest⟩ := (ih _ h).2 hknown
      exact ⟨_, bind_eq_ok_iff.2 ⟨first, hfirst, bind_eq_ok_iff.2 ⟨rest, hrest, rfl⟩⟩⟩

theorem hasCondition_predicate (k : Connective) (h : ∀ p ∈ ps, HasCondition m p) :
    HasCondition m (k.predicate ps) := by
  intro taken
  rw [bindPredicate_predicate, k.leaves_predicate, ← exists_bindAll_iff taken h]
  cases ps with
  | nil => simp [bindPredicate.bindAll]
  | cons p ps => exact exists_bind_eq_ok_iff fun _ => ⟨_, rfl⟩

theorem hasCondition (m : Model) (p : Predicate) : HasCondition m p := by
  induction p using Predicate.induction with
  | compare field operator operand =>
    intro taken
    rw [bindPredicate, Predicate.leaves, List.forall_mem_singleton, Model.hasField_iff]
    cases m.field? field with
    | none => simp
    | some f => simp
  | and children ih => exact hasCondition_predicate .and ih
  | or children ih => exact hasCondition_predicate .or ih
  | not child ih =>
    intro taken
    rw [bindPredicate, Predicate.leaves, ← ih taken]
    exact exists_bind_eq_ok_iff fun _ => ⟨_, rfl⟩

/-- A predicate without a condition is refused for its first test of a foreign field. -/
def RefusedForFirst (m : Model) (p : Predicate) : Prop :=
  ∀ {taken e}, bindPredicate m taken p = .error e →
    ∃ l, m.firstForeign? p.leaves = some l ∧ e = .unknownField m.name l.field

theorem bindAll_refusedForFirst (h : ∀ p ∈ ps, RefusedForFirst m p)
    (he : bindPredicate.bindAll m taken ps = .error e) :
    ∃ l, m.firstForeign? (Predicate.leaves.leavesOfAll ps) = some l ∧
      e = .unknownField m.name l.field := by
  induction ps generalizing taken with
  | nil => cases he
  | cons p ps ih =>
    obtain ⟨hp, h⟩ := List.forall_mem_cons.1 h
    rw [Predicate.leaves.leavesOfAll, Model.firstForeign?_append]
    rcases bind_eq_error_iff.1 he with he | ⟨b, hb, he⟩
    · obtain ⟨l, hl, he⟩ := hp he
      exact ⟨l, by rw [hl, Option.some_or], he⟩
    · -- behind tests that all have their columns the search goes on
      have hknown := Model.firstForeign?_eq_none_iff.2 ((hasCondition m p taken).1 ⟨b, hb⟩)
      rw [hknown, Option.none_or]
      rcases bind_eq_error_iff.1 he with he | ⟨_, _, he⟩
      · exact ih h he
      · cases he

theorem refusedForFirst_predicate (k : Connective) (h : ∀ p ∈ ps, RefusedForFirst m p) :
    RefusedForFirst m (k.predicate ps) := by
  intro taken e he
  rw [bindPredicate_predicate] at he
  rw [k.leaves_predicate]
  split at he
  · cases he
  · exact bindAll_refusedForFirst h ((bind_eq_error_iff_left fun _ => ⟨_, rfl⟩).1 he)

theorem refusedForFirst (m : Model) (p : Predicate) : RefusedForFirst m p := by
  induction p using Predicate.induction with
  | compare field operator operand =>
    intro taken e he
    rw [bindPredicate] at he
    cases hf : m.field? field with
    | none =>
      simp only [hf] at he
      cases he
      exact ⟨⟨field, operator, operand⟩,
        by simp [Predicate.leaves, Model.firstForeign?, Model.hasField, hf], rfl⟩
    | some f =>
      simp only [hf] at he
      cases he
  | and children ih => exact refusedForFirst_predicate .and ih
  | or children ih => exact refusedForFirst_predicate .or ih
  | not child ih =>
    intro taken e he
    rw [bindPredicate] at he
    exact ih ((bind_eq_error_iff_left fun _ => ⟨_, rfl⟩).1 he)

theorem exists_bindOptional_iff :
    (∃ b, bindOptional m taken o = .ok b) ↔ m.Knows o := by
  cases o with
  | none => simp [bindOptional, Model.Knows, Predicate.leaves.leavesOfAll]
  | some p =>
    rw [Model.knows_some_iff, ← hasCondition m p taken, bindOptional]
    cases bindPredicate m taken p with
    | error e => simp
    | ok b => simp

theorem bindOptional_eq_error {e : PlanError} (he : bindOptional m taken o = .error e) :
    ∃ l, m.firstForeign? (Predicate.leaves.leavesOfAll o.toList) = some l ∧
      e = .filter (.unknownField m.name l.field) := by
  cases o with
  | none => cases he
  | some p =>
    rw [bindOptional] at he
    cases hb : bindPredicate m taken p with
    | ok b =>
      simp only [hb] at he
      cases he
    | error cause =>
      simp only [hb] at he
      cases he
      obtain ⟨l, hl, rfl⟩ := refusedForFirst m p hb
      refine ⟨l, ?_, rfl⟩
      simpa [Predicate.leaves.leavesOfAll] using hl

end Sql

/-- A statement is refused exactly if a test of the predicate is on a field that the model does not
have, and the error names the model and the field of the first such test. -/
structure Model.RefusesForeign (m : Model) (o : Option Predicate)
    (outcome : Except PlanError Statement) : Prop where
  refused_iff : (∃ e, outcome = .error e) ↔
    ∃ l ∈ Predicate.leaves.leavesOfAll o.toList, ¬ m.hasField l.field
  error_eq : ∀ e, outcome = .error e →
    ∃ l, m.firstForeign? (Predicate.leaves.leavesOfAll o.toList) = some l ∧
      e = .filter (.unknownField m.name l.field)

namespace Model

theorem refusesForeign_of_bind {finish : List (Condition Nat) × List Value → Statement}
    (h : outcome = bindOptional m taken o >>= fun b => .ok (finish b)) :
    m.RefusesForeign o outcome := by
  have herror (e : PlanError) : outcome = .error e ↔ bindOptional m taken o = .error e := by
    rw [h]
    exact bind_eq_error_iff_left fun _ => ⟨_, rfl⟩
  constructor
  · have hknows := (@exists_bindOptional_iff m o taken).not
    simp only [Model.Knows, not_forall, exists_prop] at hknows
    rw [← hknows]
    simp only [herror]
    cases bindOptional m taken o with
    | error e => simp
    | ok b => simp
  · intro e he
    exact bindOptional_eq_error ((herror e).1 he)

theorem selectRows_refusesForeign (m : Model) (plan : QueryPlan) :
    m.RefusesForeign plan.predicate (m.selectRows plan) :=
  refusesForeign_of_bind rfl

theorem countRows_refusesForeign (m : Model) (plan : QueryPlan) :
    m.RefusesForeign plan.predicate (m.countRows plan) :=
  refusesForeign_of_bind rfl

theorem relatedStatement_refusesForeign (m : Model) (join : Field) (plan : QueryPlan)
    (keys : List Value) : m.RefusesForeign plan.predicate (m.relatedStatement join plan keys) :=
  refusesForeign_of_bind rfl

theorem exists_selectRows_iff : (∃ s, m.selectRows plan = .ok s) ↔ m.Knows plan.predicate :=
  (exists_bind_eq_ok_iff fun _ => ⟨_, rfl⟩).trans exists_bindOptional_iff

theorem exists_countRows_iff : (∃ s, m.countRows plan = .ok s) ↔ m.Knows plan.predicate :=
  (exists_bind_eq_ok_iff fun _ => ⟨_, rfl⟩).trans exists_bindOptional_iff

theorem exists_relatedStatement_iff {join : Field} {keys : List Value} :
    (∃ s, m.relatedStatement join plan keys = .ok s) ↔ m.Knows plan.predicate :=
  (exists_bind_eq_ok_iff fun _ => ⟨_, rfl⟩).trans exists_bindOptional_iff

end Model

namespace Registry

/-- In a built registry the statement of a relation is one on its foreign model. -/
theorem Coherent.selectRelated (hr : r.Coherent) (hm : m ∈ r.models) (hx : x ∈ m.relations) :
    ∃ foreign ∈ r.models, ∃ own, ∃ join ∈ foreign.fields, r.foreignModel? x = some foreign ∧
      r.joinFields? x = some (own, join) ∧
      ∀ plan keys, r.selectRelated x plan keys = foreign.relatedStatement join plan keys := by
  obtain ⟨foreign, own, join, hforeign, _, _, hjoin, _, hfields⟩ :=
    ((hr.related m hm).joined x hx).join
  refine ⟨foreign, List.mem_of_getElem? hforeign, own, join, hjoin, hforeign, hfields, ?_⟩
  intro plan keys
  simp only [Registry.selectRelated, hforeign, hfields]

end Registry

end CrudPlan
