import CrudPlan.Proofs.Request.Filter
import CrudPlan.Proofs.Request.Grammar

namespace CrudPlan

namespace Filter

variable {m : Model} {p : Place} {ps qs : List Place} {e : FilterError} {x : Json} {α β : Type}

/-- An outcome fails exactly if one of the places is in error, and then with the first error. -/
def Reports (m : Model) (ps : List Place) : Except FilterError α → Prop
  | .ok _ => Clean m ps
  | .error e => FirstOffence m ps e

namespace Reports

variable {outcome : Except FilterError α}

theorem exists_ok_iff (h : Reports m ps outcome) : (∃ a, outcome = .ok a) ↔ Clean m ps := by
  cases outcome with
  | ok a => exact ⟨fun _ => h, fun _ => ⟨a, rfl⟩⟩
  | error e =>
    constructor
    · rintro ⟨a, ha⟩
      cases ha
    · exact fun hclean => absurd hclean (FirstOffence.not_clean h)

theorem eq_error_iff (h : Reports m ps outcome) : outcome = .error e ↔ FirstOffence m ps e := by
  cases outcome with
  | ok a =>
    constructor
    · intro he
      cases he
    · exact fun he => absurd h he.not_clean
  | error e' =>
    constructor
    · rintro ⟨⟩
      exact h
    · exact fun he => congrArg _ (FirstOffence.unique h he)

theorem error (h : Violates m p e) (ps : List Place) :
    Reports m (p :: ps) (.error e : Except FilterError α) :=
  FirstOffence.here h

theorem cons (hp : ∀ e, ¬ Violates m p e) (h : Reports m ps outcome) :
    Reports m (p :: ps) outcome := by
  cases outcome with
  | ok a => exact List.forall_mem_cons.2 ⟨hp, h⟩
  | error e => exact FirstOffence.later hp h

theorem map (f : α → β) (h : Reports m ps outcome) : Reports m ps (outcome.map f) := by
  cases outcome with
  | ok a => exact h
  | error e => exact h

theorem bind {f : α → Except FilterError β} (h : Reports m ps outcome)
    (hf : ∀ a, Reports m qs (f a)) : Reports m (ps ++ qs) (outcome >>= f) := by
  cases outcome with
  | error e => exact FirstOffence.append_right h qs
  | ok a =>
    have hfa := hf a
    change Reports m (ps ++ qs) (f a)
    cases hb : f a with
    | ok b =>
      rw [hb] at hfa
      exact List.forall_mem_append.2 ⟨h, hfa⟩
    | error e =>
      rw [hb] at hfa
      exact FirstOffence.append_left h hfa

theorem bind_ok (f : α → β) (h : Reports m ps outcome) :
    Reports m ps (outcome >>= fun a => .ok (f a)) := by
  cases outcome with
  | ok a => exact h
  | error e => exact h

end Reports

theorem collect_reports {f : String × Json → Except FilterError (Option Predicate)}
    {g : String × Json → Place} {es : List (String × Json)}
    (h : ∀ e ∈ es, Reports m (g e).walk (f e)) :
    Reports m ((es.map g).flatMap Place.walk) (collect (es.map fun e => (e.1, f e))) := by
  induction es with
  | nil => exact fun p hp => absurd hp List.not_mem_nil
  | cons e es ih =>
    obtain ⟨he, hes⟩ := List.forall_mem_cons.1 h
    exact he.bind fun o => (ih hes).bind_ok (o.toList ++ ·)

theorem conjunction_reports {f : String × Json → Except FilterError (Option Predicate)}
    {g : String × Json → Place} {members : List (String × Json)}
    (h : ∀ e ∈ Entries.sort members, Reports m (g e).walk (f e)) :
    Reports m (((Entries.sort members).map g).flatMap Place.walk)
      (conjunction (members.map fun e => (e.1, f e))) := by
  rw [conjunction_map]
  exact (collect_reports h).bind_ok _

theorem listPredicates_reports {items : List Json}
    (h : ∀ x ∈ items, Reports m (Place.filter x).walk (predicate m x)) :
    Reports m ((items.map Place.filter).flatMap Place.walk)
      (predicate.listPredicates m items) := by
  induction items with
  | nil => exact fun p hp => absurd hp List.not_mem_nil
  | cons x items ih =>
    obtain ⟨hx, hitems⟩ := List.forall_mem_cons.1 h
    rw [predicate.listPredicates]
    exact hx.bind fun o => (ih hitems).bind_ok (o.toList ++ ·)

theorem operation_reports (m : Model) (field name : String) (operand : Json) :
    Reports m (Place.operation field name operand).walk (operation m field name operand) := by
  rw [Place.walk_eq]
  rcases operator_cases name with hname | ⟨o, rfl⟩
  · rw [operation_unknown hname]
    exact .error (.unknownOperator hname) _
  · have hnil : Reports m [] (Except.ok none : Except FilterError (Option Predicate)) := nofun
    by_cases hnull : operand = .null
    · rw [hnull, operation_null]
      exact .cons (operation_fine_iff.2 ⟨o, rfl, .inl rfl⟩) nofun
    · by_cases htakes : o.Takes operand
      · rw [operation_fit hnull htakes]
        exact .cons (operation_fine_iff.2 ⟨o, rfl, .inr htakes⟩) nofun
      · rw [operation_unfit hnull htakes]
        exact .error (.invalidOperand hnull htakes) _

theorem fieldCondition_reports (m : Model) (name : String) (x : Json) :
    Reports m (Place.field name x).walk (fieldCondition m name x) := by
  rw [Place.walk_eq]
  by_cases hfield : m.hasField name
  · unfold fieldCondition
    rw [if_neg (by simp [hfield])]
    cases x with
    | null => exact .cons (field_fine_iff.2 ⟨hfield, .inl rfl⟩) nofun
    | obj operations =>
      refine .cons (field_fine_iff.2 ⟨hfield, .inr ⟨_, rfl⟩⟩) ?_
      exact conjunction_reports fun e _ => operation_reports m name e.1 e.2
    | _ => exact .error (.notOperators hfield (by nofun) (by nofun)) _
  · unfold fieldCondition
    rw [if_pos (by simp [hfield])]
    exact .error (.unknownField hfield) _

/-- The translation of a value reports what is in error, wherever the value stands. -/
structure Judged (m : Model) (x : Json) : Prop where
  filter : Reports m (Place.filter x).walk (predicate m x)
  list : ∀ key, Reports m (Place.operands key x).walk (predicate.operands m key x)

theorem Judged.memberCondition (h : Judged m x) (key : String) :
    Reports m (Place.ofMember key x).walk (memberCondition m key x) := by
  induction key using key_cases with
  | and =>
    rw [memberCondition_and]
    exact (h.list "and").map _
  | or =>
    rw [memberCondition_or]
    exact (h.list "or").map _
  | not =>
    rw [memberCondition_not]
    exact h.filter.map _
  | field key hkey =>
    rw [memberCondition_field hkey, Place.ofMember_field hkey]
    exact fieldCondition_reports m key x

theorem judged (m : Model) (x : Json) : Judged m x := by
  induction x using Json.induction with
  | scalar x hx =>
    cases x with
    | null =>
      constructor
      · rw [Place.walk_eq]
        exact .cons (filter_fine_iff.2 (.inl rfl)) nofun
      · intro key
        rw [Place.walk_eq]
        exact .cons (operands_fine_iff.2 (.inl rfl)) nofun
    | arr | obj => cases hx
    | _ =>
      constructor
      · rw [Place.walk_eq]
        exact .error (.notObject (by nofun) (by nofun)) _
      · intro key
        rw [Place.walk_eq]
        exact .error (.notFilters (by nofun) (by nofun) (by nofun)) _
  | arr items ih =>
    constructor
    · rw [Place.walk_eq]
      exact .error (.notObject (by nofun) (by nofun)) _
    · intro key
      rw [Place.walk_eq]
      refine .cons (operands_fine_iff.2 (.inr (.inl ⟨_, rfl⟩))) ?_
      exact listPredicates_reports fun x hx => (ih x hx).filter
  | obj members ih =>
    -- under `and` and `or` an object counts as the list of itself
    have hfilter : Reports m (Place.filter (.obj members)).walk
        (conjunction (predicate.memberConditions m members)) := by
      rw [Place.walk_eq, memberConditions_eq_map]
      refine .cons (filter_fine_iff.2 (.inr ⟨_, rfl⟩)) ?_
      exact conjunction_reports fun e he =>
        (ih e (Entries.mem_of_mem_sort he)).memberCondition e.1
    constructor
    · exact hfilter
    · intro key
      rw [Place.walk_eq]
      refine .cons (operands_fine_iff.2 (.inr (.inr ⟨_, rfl⟩))) ?_
      rw [Place.below, List.flatMap_singleton]
      exact hfilter.map _

/-- A filter is translated exactly if it follows the grammar. Otherwise its error is that of the
first place in error, among all places of the filter in their order. -/
theorem optionalPredicate_judges (m : Model) (filter : Option Json) :
    ((∃ o, optionalPredicate m filter = .ok o) ↔ Accepted m (filter.getD .null)) ∧
      ∀ e, optionalPredicate m filter = .error e ↔
        FirstOffence m (Place.filter (filter.getD .null)).walk e := by
  have hreports :
      Reports m (Place.filter (filter.getD .null)).walk (optionalPredicate m filter) := by
    cases filter with
    | none => exact (judged m .null).filter
    | some x => exact (judged m x).filter
  constructor
  · exact hreports.exists_ok_iff.trans Place.inOrder_iff_clean.symm
  · exact fun e => hreports.eq_error_iff

/-- Names go before other names, so an unknown field can be behind a list with a false item. -/
example :
    optionalPredicate note (some (.obj [("titel", .null),
      ("and", .arr [.null, .bool true, .obj [("id", .arr [])]])])) =
    .error (.malformed (.notObject "a boolean")) := rfl

end Filter

end CrudPlan
