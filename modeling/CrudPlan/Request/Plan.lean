import CrudPlan.Request.Filter
import CrudPlan.Request.Selection
import CrudPlan.Schema.Registry

namespace CrudPlan

/-- What to fetch at one level, and at the levels that its relations lead to. -/
structure QueryPlan where
  limit : Option UInt64 := none
  offset : Option UInt64 := none
  predicate : Option Predicate := none
  eagerLoad : List (String × QueryPlan) := []

namespace QueryPlan

def toJson : QueryPlan → Json
  | ⟨limit, offset, predicate, eagerLoad⟩ =>
    .obj (("eagerLoad", .obj (namedToJson eagerLoad)) ::
      (Json.optional "limit" Json.ofUInt64 limit ++ Json.optional "offset" Json.ofUInt64 offset ++
        Json.optional "predicate" Predicate.toJson predicate))
where
  namedToJson : List (String × QueryPlan) → List (String × Json)
    | [] => []
    | (name, plan) :: rest => (name, plan.toJson) :: namedToJson rest

end QueryPlan

/-- Names that ask about the request itself and never about a model. -/
def isIntrospection (name : String) : Bool := ['_', '_'].isPrefixOf name.toList

namespace Registry

/-- The plan of a selection on a model. -/
def planOn (r : Registry) (m : Model) : Selection → Except PlanError QueryPlan
  | ⟨args, children⟩ => do
    let eagerLoad ← planChildren m children
    let predicate ← (Filter.optionalPredicate m args.filter).mapError .filter
    return { limit := args.limit, offset := args.offset, predicate, eagerLoad }
where
  planChildren (m : Model) :
      List (String × Selection) → Except PlanError (List (String × QueryPlan))
    | [] => .ok []
    | (name, child) :: rest =>
      match m.relation? name with
      | some relation =>
        match r.foreignModel? relation with
        | some foreign => do
          let plan ← planOn r foreign child
          return (name, plan) :: (← planChildren m rest)
        | none => .error (.unknownRelation m.name name)
      | none =>
        if isIntrospection name then planChildren m rest
        else if !m.hasField name then .error (.unknownField m.name name)
        else if child.children.isEmpty then planChildren m rest
        else .error (.unknownRelation m.name name)

/-- The plan of a selection on the model of a name. -/
def planFor (r : Registry) (name : String) (s : Selection) : Except PlanError QueryPlan :=
  match r.get? name with
  | none => .error (.modelNotFound name)
  | some m => r.planOn m s

end Registry

end CrudPlan
