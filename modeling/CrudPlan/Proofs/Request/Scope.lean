import CrudPlan.Proofs.Request.Filter
import CrudPlan.Proofs.Request.Path

namespace CrudPlan

/-- All tests of a predicate, if there is one, are on fields of the model. -/
def Model.Knows (m : Model) (o : Option Predicate) : Prop :=
  ∀ l ∈ Predicate.leaves.leavesOfAll o.toList, m.hasField l.field

/-- A test of a field of the model against an operand that its operator takes. -/
structure Leaf.Fits (m : Model) (l : Leaf) : Prop where
  field : m.hasField l.field
  operand : l.operand ≠ .null
  takes : l.operator.Takes l.operand

/-- Tests that fit a model, in combinations of which none is empty. -/
inductive Predicate.Tidy (m : Model) : Predicate → Prop
  | compare {field operator operand} (h : Leaf.Fits m ⟨field, operator, operand⟩) :
      Tidy m (.compare field operator operand)
  | and {ps} (hne : ps ≠ []) (h : ∀ p ∈ ps, Tidy m p) : Tidy m (.and ps)
  | or {ps} (hne : ps ≠ []) (h : ∀ p ∈ ps, Tidy m p) : Tidy m (.or ps)
  | not {p} (h : Tidy m p) : Tidy m (.not p)

variable {m : Model} {o : Option Predicate} {p : Predicate} {ps qs : List Predicate} {l : Leaf}

theorem Model.knows_some_iff : m.Knows (some p) ↔ ∀ l ∈ p.leaves, m.hasField l.field := by
  simp [Model.Knows, Predicate.leaves.leavesOfAll]

theorem Predicate.leavesOfAll_all (ps : List Predicate) :
    leaves.leavesOfAll (all ps).toList = leaves.leavesOfAll ps := by
  match ps with
  | [] => rfl
  | [_] => rfl
  | _ :: _ :: _ => exact List.append_nil _

theorem Predicate.leavesOfAll_eq_flatMap (ps : List Predicate) :
    leaves.leavesOfAll ps = ps.flatMap leaves := by
  induction ps with
  | nil => rfl
  | cons p ps ih => rw [leaves.leavesOfAll, ih, List.flatMap_cons]

theorem Predicate.Tidy.fits (h : p.Tidy m) : ∀ l ∈ p.leaves, l.Fits m := by
  induction h with
  | compare h => exact List.forall_mem_singleton.2 h
  | and _ _ ih | or _ _ ih =>
    rw [leaves, leavesOfAll_eq_flatMap]
    exact List.forall_mem_flatMap.2 ih
  | not _ ih => exact ih

theorem Predicate.tidy_all (h : ∀ p ∈ ps, p.Tidy m) : ∀ p ∈ all ps, p.Tidy m := by
  match ps with
  | [] => exact nofun
  | [p] =>
    rintro _ ⟨⟩
    exact h p List.mem_cons_self
  | _ :: _ :: _ =>
    rintro _ ⟨⟩
    exact .and (List.cons_ne_nil _ _) h

namespace Filter

/-- A step gives a predicate whose tests are on fields of the model, if it succeeds. -/
def KeepsTo (m : Model) (x : Except FilterError (Option Predicate)) : Prop :=
  ∀ o, x = .ok o → m.Knows o

/-- A step gives a tidy predicate, if it succeeds and gives any. -/
def Tidies (m : Model) (x : Except FilterError (Option Predicate)) : Prop :=
  ∀ o, x = .ok o → ∀ p ∈ o, p.Tidy m

variable {x : Except FilterError (Option Predicate)}
variable {members : List (String × Except FilterError (Option Predicate))}

theorem Tidies.keepsTo (h : Tidies m x) : KeepsTo m x := by
  intro o ho
  cases o with
  | none => exact List.forall_mem_nil _
  | some p => exact Model.knows_some_iff.2 fun l hl => ((h _ ho p rfl).fits l hl).field

theorem tidies_none : Tidies m (.ok none) := by
  rintro _ ⟨⟩
  exact nofun

theorem collect_tidy (h : ∀ e ∈ members, Tidies m e.2) (hps : collect members = .ok ps) :
    ∀ p ∈ ps, p.Tidy m := by
  obtain ⟨os, hos, rfl⟩ := collect_eq_ok_iff.1 hps
  intro p hp
  obtain ⟨o, ho, hp⟩ := List.mem_flatMap.1 hp
  obtain ⟨e, he, heq⟩ := exists_of_forall₂_right hos ho
  exact h e he o heq p (Option.mem_toList.1 hp)

theorem conjunction_tidies (h : ∀ e ∈ members, Tidies m e.2) : Tidies m (conjunction members) := by
  intro o ho
  obtain ⟨ps, hps, hok⟩ := bind_eq_ok_iff.1 ho
  cases hok
  exact Predicate.tidy_all (collect_tidy (fun e he => h e (Entries.mem_of_mem_sort he)) hps)

theorem operation_tidies {field : String} (h : m.hasField field) (name : String) (operand : Json) :
    Tidies m (operation m field name operand) := by
  intro o ho
  rcases operator_cases name with hname | ⟨operator, rfl⟩
  · rw [operation_unknown hname] at ho
    cases ho
  · by_cases hnull : operand = .null
    · rw [hnull, operation_null] at ho
      exact tidies_none o ho
    · by_cases htakes : operator.Takes operand
      · rw [operation_fit hnull htakes] at ho
        rintro p rfl
        cases ho
        exact .compare ⟨h, hnull, htakes⟩
      · rw [operation_unfit hnull htakes] at ho
        cases ho

theorem fieldCondition_tidies (m : Model) (field : String) (value : Json) :
    Tidies m (fieldCondition m field value) := by
  intro o ho
  unfold fieldCondition at ho
  split at ho
  · cases ho
  · rename_i hfield
    split at ho
    · exact tidies_none o ho
    · refine conjunction_tidies (List.forall_mem_map.2 ?_) o ho
      exact fun e _ => operation_tidies (by simpa using hfield) e.1 e.2
    · cases ho

theorem combine_tidy {f : List Predicate → Predicate}
    (hf : ps ≠ [] → (∀ p ∈ ps, p.Tidy m) → (f ps).Tidy m) (h : ∀ p ∈ ps, p.Tidy m) :
    ∀ p ∈ combine f ps, p.Tidy m := by
  unfold combine
  split
  · exact nofun
  · rename_i hne
    rintro _ ⟨⟩
    exact hf (by simpa using hne) h

/-- The predicate of a filter is tidy, and so are those of the filters in a list. -/
structure InScope (m : Model) (x : Json) : Prop where
  filter : Tidies m (predicate m x)
  list : ∀ {key ps}, predicate.operands m key x = .ok ps → ∀ p ∈ ps, p.Tidy m

theorem InScope.memberCondition {value : Json} (h : InScope m value) (key : String) :
    Tidies m (memberCondition m key value) := by
  intro o ho
  cases key using key_cases with
  | and =>
    rw [memberCondition_and] at ho
    obtain ⟨ps, hps, rfl⟩ := map_eq_ok_iff.1 ho
    exact combine_tidy .and (h.list hps)
  | or =>
    rw [memberCondition_or] at ho
    obtain ⟨ps, hps, rfl⟩ := map_eq_ok_iff.1 ho
    exact combine_tidy .or (h.list hps)
  | not =>
    rw [memberCondition_not] at ho
    obtain ⟨q, hq, rfl⟩ := map_eq_ok_iff.1 ho
    intro p hp
    obtain ⟨p', rfl, rfl⟩ := Option.map_eq_some_iff.1 hp
    exact .not (h.filter _ hq p' rfl)
  | field key hkey =>
    rw [memberCondition_field hkey] at ho
    exact fieldCondition_tidies m key value o ho

theorem listPredicates_tidy {items : List Json} (h : ∀ x ∈ items, InScope m x)
    (hps : predicate.listPredicates m items = .ok ps) : ∀ p ∈ ps, p.Tidy m := by
  induction items generalizing ps with
  | nil =>
    cases hps
    exact List.forall_mem_nil _
  | cons x items ih =>
    obtain ⟨hx, hitems⟩ := List.forall_mem_cons.1 h
    obtain ⟨o, ho, hps⟩ := bind_eq_ok_iff.1 hps
    obtain ⟨qs, hqs, hok⟩ := bind_eq_ok_iff.1 hps
    cases hok
    refine List.forall_mem_append.2 ⟨fun p hp => ?_, ih hitems hqs⟩
    exact hx.filter o ho p (Option.mem_toList.1 hp)

theorem inScope (m : Model) (x : Json) : InScope m x := by
  induction x using Json.induction with
  | scalar x hx =>
    cases x with
    | null =>
      refine ⟨tidies_none, fun hps => ?_⟩
      cases hps
      exact List.forall_mem_nil _
    | arr _ | obj _ => cases hx
    | _ => exact ⟨fun _ ho => (nomatch ho), fun hps => (nomatch hps)⟩
  | arr items ih =>
    exact ⟨fun _ ho => (nomatch ho), fun hps => listPredicates_tidy ih hps⟩
  | obj members ih =>
    have hmembers : Tidies m (conjunction (predicate.memberConditions m members)) := by
      rw [memberConditions_eq_map]
      exact conjunction_tidies (List.forall_mem_map.2 fun e he => (ih e he).memberCondition e.1)
    refine ⟨hmembers, fun hps p hp => ?_⟩
    obtain ⟨o, ho, rfl⟩ := map_eq_ok_iff.1 hps
    exact hmembers o ho p (Option.mem_toList.1 hp)

theorem optionalPredicate_tidies (m : Model) (filter : Option Json) :
    Tidies m (optionalPredicate m filter) := by
  cases filter with
  | none => exact tidies_none
  | some x => exact (inScope m x).filter

theorem optionalPredicate_keepsTo (m : Model) (filter : Option Json) :
    KeepsTo m (optionalPredicate m filter) :=
  (optionalPredicate_tidies m filter).keepsTo

end Filter

end CrudPlan
