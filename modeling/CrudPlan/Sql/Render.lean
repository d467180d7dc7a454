import CrudPlan.Request.Page
import CrudPlan.Request.Plan
import CrudPlan.Sql.Binding
import CrudPlan.Sql.Query

namespace CrudPlan

open Sql

namespace Model

/-- All fields of a model under their own names. -/
def outputs (m : Model) : List Output := m.fields.map fun f => ⟨f.columnName, f.name⟩

/-- The rows of a plan's root, by primary key. -/
def selectRows (m : Model) (plan : QueryPlan) : Except PlanError Statement := do
  let (conditions, values) ← bindOptional m 0 plan.predicate
  let query := Query.rows m.outputs m.tableName conditions [m.primaryKey.columnName]
    plan.limit plan.offset
  return ⟨query.text, values⟩

/-- The number of rows at a plan's root, on all pages. -/
def countRows (m : Model) (plan : QueryPlan) : Except PlanError Statement := do
  let (conditions, values) ← bindOptional m 0 plan.predicate
  return ⟨(Query.count m.tableName conditions).text, values⟩

/-- The query for rows that join with parent rows by a field. Without limit and offset it needs no
row numbers. -/
def relatedQuery (m : Model) (join : Field) (plan : QueryPlan) (conditions : List (Condition Nat)) :
    Query :=
  if plan.limit.isNone ∧ plan.offset.isNone then
    .rows m.outputs m.tableName conditions [join.columnName, m.primaryKey.columnName] none none
  else
    let after := plan.offset.getD 0
    .numbered m.outputs m.tableName conditions join.columnName m.primaryKey.columnName after
      (plan.limit.map (saturatingAdd after)) [join.name, m.primaryKey.name]

/-- The rows that join with parent rows which have the given keys. -/
def relatedStatement (m : Model) (join : Field) (plan : QueryPlan) (keys : List Value) :
    Except PlanError Statement := do
  let byKey := Bound.among 0 join.columnName keys
  let (conditions, values) ← bindOptional m byKey.values.length plan.predicate
  return ⟨(m.relatedQuery join plan (byKey.condition :: conditions)).text, byKey.values ++ values⟩

end Model

namespace Registry

/-- The rows that a relation leads to from parent rows with the given keys; limit and offset apply
to each parent. -/
def selectRelated (r : Registry) (relation : Relation) (plan : QueryPlan) (keys : List Value) :
    Except PlanError Statement :=
  match r.foreignModel? relation, r.joinFields? relation with
  | some foreign, some (_, join) => foreign.relatedStatement join plan keys
  | _, _ =>
    let owner := ((r.model? relation.owner).map (·.name)).getD ""
    .error (.unknownRelation owner relation.fieldName)

/-- A statement for each relation that a plan follows, under the path of names that leads there, a
level before the levels below it. -/
def selectAllRelated (r : Registry) (keys : List Value) (m : Model) (path : String) :
    QueryPlan → Except PlanError (List (String × Statement))
  | ⟨_, _, _, eagerLoad⟩ => level m path eagerLoad
where
  level (m : Model) (path : String) :
      List (String × QueryPlan) → Except PlanError (List (String × Statement))
    | [] => .ok []
    | (name, plan) :: rest =>
      match m.relation? name with
      | none => .error (.unknownRelation m.name name)
      | some relation => do
        let path' := path ++ "." ++ name
        let statement ← r.selectRelated relation plan keys
        let below ←
          match r.foreignModel? relation with
          | none => .ok []
          | some foreign => selectAllRelated r keys foreign path' plan
        return (path', statement) :: below ++ (← level m path rest)

end Registry

end CrudPlan
