import CrudPlan.Proofs.Request.Filter
import CrudPlan.Proofs.Request.Planning
import CrudPlan.Service.Crud

namespace CrudPlan

/-- A predicate is the conjunction of another one, if there is one, and a test behind it. -/
structure Predicate.Narrows (c : Predicate) (o : Option Predicate) (l : Leaf) : Prop where
  leaves_eq : c.leaves = leaves.leavesOfAll o.toList ++ [l]
  value_eq : ∀ v, c.value v 0 =
    .all ((o.map (·.value v 0)).toList ++ [v (leaves.leavesOfAll o.toList).length l])

theorem Predicate.narrows_all (o : Option Predicate) (field : String) (operator : Operator)
    (operand : Json) : ∃ c, all (o.toList ++ [.compare field operator operand]) = some c ∧
      c.Narrows o ⟨field, operator, operand⟩ := by
  cases o with
  | none => exact ⟨_, rfl, rfl, fun v => (Truth.all_singleton _).symm⟩
  | some p =>
    refine ⟨_, rfl, ?_, fun v => ?_⟩
    · simp [leaves, leaves.leavesOfAll]
    · simp [value, value.values, leaves.leavesOfAll]

namespace QueryPlan

/-- A plan fetches one row at its root, the one of a key among those of another plan, and below the
root what the other one does. -/
structure PicksRow (m : Model) (key : Json) (p q : QueryPlan) : Prop where
  limit_eq : q.limit = some 1
  offset_eq : q.offset = none
  predicate : ∃ c, q.predicate = some c ∧
    c.Narrows p.predicate ⟨m.primaryKey.name, .equals, key⟩
  eagerLoad_eq : q.eagerLoad = p.eagerLoad

/-- A plan with a limit at its root, if it has none of its own. -/
def limitedBy (limit : Option UInt64) (p : QueryPlan) : QueryPlan :=
  { p with limit := p.limit.or limit }

end QueryPlan

namespace Service

variable {service : Service} {m : Model} {model : String} {s : Selection} {key : Json} {args : Args}

theorem planOne_picksRow :
    SameOutcome (fun q p => p.PicksRow m key q) (service.planOne m s key)
      (service.registry.planOn m s) := by
  rw [planOne]
  cases service.registry.planOn m s with
  | error e => exact .error e
  | ok p => exact .ok ⟨rfl, rfl, Predicate.narrows_all _ _ _ _, rfl⟩

/-- The limit of the root is all that the default one decides. -/
theorem planMany_limitedBy :
    SameOutcome (fun q p => q = p.limitedBy service.defaultLimit) (service.planMany m s args)
      (service.registry.planOn m (s.withArgs args)) := by
  simp only [planMany, Selection.withArgs, Registry.planOn]
  cases Registry.planOn.planChildren service.registry m s.children with
  | error e => exact .error e
  | ok eagerLoad =>
    cases Filter.optionalPredicate m args.filter with
    | error e => exact .error _
    | ok predicate => exact .ok rfl

theorem dispatch_eq (hi : service.interceptors = []) (request : OperationRequest) :
    service.dispatch request = service.prepare request := by
  rw [dispatch, interceptor?, hi, List.lookup_nil]

theorem getOne_eq (hi : service.interceptors = []) :
    service.getOne model key s = match service.registry.get? model with
      | none => .error (.modelNotFound model)
      | some m => (service.planOne m s key).map
          (⟨OperationKind.operationName .getOne model, .getOne, m.name, ·⟩) := by
  rw [getOne, dispatch_eq hi, prepare]
  cases service.registry.get? model with
  | none => rfl
  | some m => cases service.planOne m s key <;> rfl

theorem getMany_eq (hi : service.interceptors = []) :
    service.getMany model args s = match service.registry.get? model with
      | none => .error (.modelNotFound model)
      | some m => (service.planMany m s args).map
          (⟨OperationKind.operationName .getMany model, .getMany, m.name, ·⟩) := by
  rw [getMany, dispatch_eq hi, prepare]
  cases service.registry.get? model with
  | none => rfl
  | some m => cases service.planMany m s args <;> rfl

/-- Without interceptors, an operation on one row has the plan of its selection, restricted to the
row at the root, and one on many rows has the plan of its selection with its arguments, limited at
the root. Each fails as the planning of that selection does. -/
theorem plans_adjust_root (service : Service) (hi : service.interceptors = []) (model : String)
    (s : Selection) (key : Json) (args : Args) :
    SameOutcome (fun op p => ∃ m, service.registry.get? model = some m ∧ p.PicksRow m key op.plan)
      (service.getOne model key s) (service.registry.planFor model s) ∧
    SameOutcome (fun op p => op.plan = p.limitedBy service.defaultLimit)
      (service.getMany model args s) (service.registry.planFor model (s.withArgs args)) := by
  rw [getOne_eq hi, getMany_eq hi, Registry.planFor, Registry.planFor]
  cases service.registry.get? model with
  | none => exact ⟨.error _, .error _⟩
  | some m =>
    constructor
    · exact planOne_picksRow.map_left fun _ _ h => ⟨m, rfl, h⟩
    · exact planMany_limitedBy.map_left fun _ _ h => h

theorem plans_adjust_root_authors : ∃ (r : Registry) (service : Service),
    Registry.build blog = .ok r ∧ service = { registry := r, defaultLimit := some 25 } ∧
    (∃ op, service.getOne "posts" (.ofNat 7) Registry.authors = .ok op) ∧
    (∃ op, service.getMany "posts" {} Registry.authors = .ok op ∧ op.plan.limit = some 25) ∧
    SameOutcome (fun op p => ∃ m, r.get? "posts" = some m ∧ p.PicksRow m (.ofNat 7) op.plan)
      (service.getOne "posts" (.ofNat 7) Registry.authors) (r.planFor "posts" Registry.authors) ∧
    SameOutcome (fun op p => op.plan = p.limitedBy (some 25))
      (service.getMany "posts" {} Registry.authors)
      (r.planFor "posts" (Registry.authors.withArgs {})) := by
  have h : Registry.build blog = .ok _ := rfl
  refine ⟨_, _, h, rfl, ⟨_, rfl⟩, ⟨_, rfl, rfl⟩, ?_⟩
  exact plans_adjust_root { registry := _, defaultLimit := some 25 } rfl "posts" Registry.authors
    (.ofNat 7) {}

end Service

end CrudPlan
