import CrudPlan.Service.Operation
import CrudPlan.Sql.Render

namespace CrudPlan

structure OperationRequest where
  kind : OperationKind
  model : String
  args : Args := {}
  selection : Selection := {}
  /-- The primary key of the row, for operations on one row. -/
  key : Option Json := none

structure PreparedOperation where
  name : String
  kind : OperationKind
  model : String
  plan : QueryPlan

namespace PreparedOperation

def toJson (p : PreparedOperation) : Json :=
  .obj [("kind", .str p.kind.name), ("model", .str p.model), ("name", .str p.name),
    ("plan", p.plan.toJson)]

end PreparedOperation

abbrev Preparation := OperationRequest → Except PlanError PreparedOperation

/-- An interceptor is handed the preparation that it may call, with the same request or another
one, and answers in its place. -/
abbrev Interceptor := Preparation → Preparation

structure Service where
  registry : Registry
  /-- At most one interceptor for each kind. -/
  interceptors : List (OperationKind × Interceptor) := []
  /-- The limit of requests for many rows that have none. -/
  defaultLimit : Option UInt64 := none

namespace Service

/-- Registers the interceptor of a kind in place of an earlier one. -/
def intercept (s : Service) (kind : OperationKind) (interceptor : Interceptor) : Service :=
  { s with interceptors := (kind, interceptor) :: s.interceptors.filter (·.1 ≠ kind) }

def interceptor? (s : Service) (kind : OperationKind) : Option Interceptor :=
  s.interceptors.lookup kind

/-- The plan for one row: the plan of the selection, restricted to the row with the key. -/
def planOne (s : Service) (model : Model) (selection : Selection) (key : Json) :
    Except PlanError QueryPlan := do
  let plan ← s.registry.planOn model selection
  let byKey := Predicate.compare model.primaryKey.name .equals key
  return {
    limit := some 1
    predicate := Predicate.all (plan.predicate.toList ++ [byKey])
    eagerLoad := plan.eagerLoad }

/-- The plan for many rows: the plan of the selection with the arguments of the request at its root,
and the default limit if they have none. -/
def planMany (s : Service) (model : Model) (selection : Selection) (args : Args) :
    Except PlanError QueryPlan :=
  s.registry.planOn model (selection.withArgs { args with limit := args.limit.or s.defaultLimit })

/-- Plans a request without interceptors. -/
def prepare (s : Service) (request : OperationRequest) : Except PlanError PreparedOperation :=
  let name := request.kind.operationName request.model
  match s.registry.get? request.model with
  | none => .error (.modelNotFound request.model)
  | some model => do
    let plan ←
      match request.kind with
      | .getOne =>
        match request.key with
        | none => .error (.invalidArgument "key" (.missingKey name))
        | some key => s.planOne model request.selection key
      | .getMany => s.planMany model request.selection request.args
      | .createOne | .updateOne | .deleteOne => .error (.unsupported name)
    return { name, kind := request.kind, model := model.name, plan }

/-- Hands a request to the interceptor of its kind, if there is one, and plans it. -/
def dispatch (s : Service) (request : OperationRequest) : Except PlanError PreparedOperation :=
  match s.interceptor? request.kind with
  | some interceptor => interceptor s.prepare request
  | none => s.prepare request

def getOne (s : Service) (model : String) (key : Json) (selection : Selection) :
    Except PlanError PreparedOperation :=
  s.dispatch { kind := .getOne, model, selection, key := some key }

def getMany (s : Service) (model : String) (args : Args) (selection : Selection) :
    Except PlanError PreparedOperation :=
  s.dispatch { kind := .getMany, model, args, selection }

/-- A line that describes the service. -/
def describe (s : Service) : String :=
  let kinds := ", ".intercalate (s.interceptors.map (·.1.title))
  let limit :=
    match s.defaultLimit with
    | none => "None"
    | some n => s!"Some({n.toNat})"
  "CrudService \x7b models: " ++ toString s.registry.size ++ ", interceptors: [" ++ kinds ++
    "], default_limit: " ++ limit ++ " \x7d"

end Service

open Sql

structure RenderedOperation where
  operation : String
  select : Statement
  /-- The number of all rows, where many are asked for. -/
  count : Option Statement
  /-- The statements for related rows under their paths. -/
  related : List (String × Statement)

namespace RenderedOperation

def toJson (o : RenderedOperation) : Json :=
  .obj (Json.optional "count" Statement.toJson o.count ++
    [("operation", .str o.operation),
      ("related", .arr (o.related.map fun (path, s) => .obj (("path", .str path) :: s.members))),
      ("select", o.select.toJson)])

end RenderedOperation

namespace Registry

/-- Renders an operation; each statement for related rows is shown for one parent row, whose key is
null. -/
def render (r : Registry) (p : PreparedOperation) : Except PlanError RenderedOperation :=
  match r.get? p.model with
  | none => .error (.modelNotFound p.model)
  | some model => do
    let count ←
      match p.kind with
      | .getMany => (model.countRows p.plan).map some
      | _ => .ok none
    let related ← r.selectAllRelated [.null] model model.name p.plan
    let select ← model.selectRows p.plan
    return { operation := p.name, select, count, related }

end Registry

end CrudPlan
