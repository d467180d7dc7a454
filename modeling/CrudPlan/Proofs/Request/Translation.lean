import CrudPlan.Proofs.Data.Entries
import CrudPlan.Proofs.Data.Outcome
import CrudPlan.Proofs.Json.Document
import CrudPlan.Request.Filter

namespace CrudPlan

/-- A value that is an object, or a list with an object in it at any depth. -/
inductive Json.ContainsObject : Json → Prop
  | obj (members : List (String × Json)) : ContainsObject (.obj members)
  | arr {items : List Json} {x : Json} (hx : x ∈ items) (h : ContainsObject x) :
      ContainsObject (.arr items)

theorem Json.not_containsObject {x : Json} (h : x.isScalar) : ¬ x.ContainsObject := by
  rintro (_ | _)
  · cases h
  · cases h

namespace Operator

/-- What an operator can have as its operand. -/
def Takes : Operator → Json → Prop
  | .in, x => ∃ items, x = .arr items ∧ ∀ y ∈ items, y.isScalar
  | .isNull, x => ∃ b, x = .bool b
  | .includes, x => ∃ s, x = .str s
  | _, x => x.isScalar

theorem Takes.not_containsObject {o : Operator} {x : Json} (h : o.Takes x) :
    ¬ x.ContainsObject := by
  cases o with
  | «in» =>
    obtain ⟨items, rfl, hitems⟩ := h
    rintro (_ | ⟨hx, hobj⟩)
    exact Json.not_containsObject (hitems _ hx) hobj
  | isNull =>
    obtain ⟨b, rfl⟩ := h
    exact Json.not_containsObject rfl
  | includes =>
    obtain ⟨s, rfl⟩ := h
    exact Json.not_containsObject rfl
  | _ => exact Json.not_containsObject h

/-- What is missed in an operand that an operator does not take. -/
def wanted : Operator → Json → OperandKind
  | .in, .arr _ => .scalarList
  | .in, _ => .list
  | .isNull, _ => .boolean
  | .includes, _ => .string
  | _, _ => .scalar

theorem ofName?_eq_none {name : String} (h : ∀ o : Operator, o.name ≠ name) :
    ofName? name = none := by
  apply List.find?_eq_none.2
  intro o _ he
  exact h o (eq_of_beq he)

theorem name_injective : Function.Injective name := by
  intro o o' h
  have hsome : some o = some o' := by rw [← ofName?_name o, h, ofName?_name]
  exact Option.some.inj hsome

end Operator

theorem Json.isNull_iff {x : Json} : x.isNull ↔ x = .null := by
  cases x <;> simp [isNull]

namespace Filter

variable {m : Model} {field name key : String} {operand value x : Json} {operator : Operator}
variable {members : List (String × Except FilterError (Option Predicate))} {ps : List Predicate}

theorem operandProblem?_eq_none (h : operator.Takes operand) :
    operandProblem? operator operand = none := by
  cases operator with
  | «in» =>
    obtain ⟨items, rfl, hitems⟩ := h
    exact if_pos (List.all_eq_true.2 hitems)
  | isNull =>
    obtain ⟨b, rfl⟩ := h
    rfl
  | includes =>
    obtain ⟨s, rfl⟩ := h
    rfl
  | _ => exact if_pos h

theorem operandProblem?_eq_some (h : ¬ operator.Takes operand) :
    operandProblem? operator operand = some (operator.wanted operand) := by
  cases operator with
  | «in» =>
    cases operand with
    | arr items =>
      apply if_neg
      intro hall
      exact h ⟨items, rfl, List.all_eq_true.1 hall⟩
    | _ => rfl
  | isNull =>
    cases operand with
    | bool b => exact absurd ⟨b, rfl⟩ h
    | _ => rfl
  | includes =>
    cases operand with
    | str s => exact absurd ⟨s, rfl⟩ h
    | _ => rfl
  | _ => exact if_neg h

theorem operation_unknown (h : ∀ o : Operator, o.name ≠ name) :
    operation m field name operand = .error (.unknownOperator m.name field name) := by
  rw [operation, Operator.ofName?_eq_none h]

theorem operation_null : operation m field operator.name .null = .ok none := by
  rw [operation, Operator.ofName?_name]
  rfl

theorem operation_unfit (hnull : operand ≠ .null) (h : ¬ operator.Takes operand) :
    operation m field operator.name operand =
      .error (.invalidOperand field operator (operator.wanted operand) operand.kind) := by
  rw [operation, Operator.ofName?_name]
  simp only [operandProblem?_eq_some h, if_neg (mt Json.isNull_iff.1 hnull)]

theorem operation_fit (hnull : operand ≠ .null) (h : operator.Takes operand) :
    operation m field operator.name operand = .ok (some (.compare field operator operand)) := by
  rw [operation, Operator.ofName?_name]
  simp only [operandProblem?_eq_none h, if_neg (mt Json.isNull_iff.1 hnull)]

theorem operator_cases (name : String) :
    (∀ o : Operator, o.name ≠ name) ∨ ∃ o : Operator, o.name = name := by
  by_cases h : ∃ o : Operator, o.name = name
  · exact .inr h
  · exact .inl fun o he => h ⟨o, he⟩

theorem collect_eq_ok_iff : collect members = .ok ps ↔
    ∃ os, List.Forall₂ (fun e o => e.2 = .ok o) members os ∧ os.flatMap Option.toList = ps := by
  induction members generalizing ps with
  | nil =>
    constructor
    · intro h
      cases h
      exact ⟨[], .nil, rfl⟩
    · rintro ⟨_, _ | _, rfl⟩
      rfl
  | cons e members ih =>
    rw [collect, bind_eq_ok_iff]
    constructor
    · rintro ⟨o, ho, h⟩
      obtain ⟨qs, hqs, he⟩ := bind_eq_ok_iff.1 h
      cases he
      obtain ⟨os, hos, rfl⟩ := ih.1 hqs
      exact ⟨o :: os, .cons ho hos, rfl⟩
    · rintro ⟨_, _ | ⟨ho, hos⟩, rfl⟩
      exact ⟨_, ho, bind_eq_ok_iff.2 ⟨_, ih.2 ⟨_, hos, rfl⟩, rfl⟩⟩

/-- Names of members that combine filters. All others are names of fields. -/
def connectives : List String := ["and", "or", "not"]

theorem not_mem_connectives_iff :
    key ∉ connectives ↔ key ≠ "and" ∧ key ≠ "or" ∧ key ≠ "not" := by
  simp [connectives]

@[elab_as_elim]
theorem key_cases {motive : String → Prop} (and : motive "and") (or : motive "or")
    (not : motive "not") (field : ∀ key, key ∉ connectives → motive key) (key : String) :
    motive key := by
  by_cases hand : key = "and"
  · exact hand ▸ and
  · by_cases hor : key = "or"
    · exact hor ▸ or
    · by_cases hnot : key = "not"
      · exact hnot ▸ not
      · exact field key (not_mem_connectives_iff.2 ⟨hand, hor, hnot⟩)

def memberCondition (m : Model) (key : String) (value : Json) :
    Except FilterError (Option Predicate) :=
  if key = "and" then (predicate.operands m key value).map (combine .and)
  else if key = "or" then (predicate.operands m key value).map (combine .or)
  else if key = "not" then (predicate m value).map (·.map .not)
  else fieldCondition m key value

theorem memberCondition_and :
    memberCondition m "and" value = (predicate.operands m "and" value).map (combine .and) :=
  if_pos rfl

theorem memberCondition_or :
    memberCondition m "or" value = (predicate.operands m "or" value).map (combine .or) := by
  rw [memberCondition, if_neg (by decide), if_pos rfl]

theorem memberCondition_not :
    memberCondition m "not" value = (predicate m value).map (·.map .not) := by
  rw [memberCondition, if_neg (by decide), if_neg (by decide), if_pos rfl]

theorem memberCondition_field (h : key ∉ connectives) :
    memberCondition m key value = fieldCondition m key value := by
  obtain ⟨hand, hor, hnot⟩ := not_mem_connectives_iff.1 h
  rw [memberCondition, if_neg hand, if_neg hor, if_neg hnot]

theorem memberConditions_eq_map (m : Model) (members : List (String × Json)) :
    predicate.memberConditions m members =
      members.map fun e => (e.1, memberCondition m e.1 e.2) := by
  induction members with
  | nil => rfl
  | cons e members ih =>
    rw [predicate.memberConditions, ih]
    rfl

/-- The members of an object are translated in the order of their names. -/
theorem conjunction_map {α : Type} (f : String × α → Except FilterError (Option Predicate))
    (members : List (String × α)) :
    conjunction (members.map fun e => (e.1, f e)) =
      collect ((Entries.sort members).map fun e => (e.1, f e)) >>= fun ps =>
        .ok (Predicate.all ps) := by
  rw [conjunction, Entries.sort_map]
  rfl

end Filter

end CrudPlan
